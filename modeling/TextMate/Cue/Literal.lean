import TextMate.Cue.Quote

/-! Literals, identifiers and type names. -/
namespace TextMate.Cue.Literal

open Lexeme

/-- A pattern that stands for itself as a word. -/
def word (pattern : String) : String := wordStart ++ pattern ++ wordEnd

def numeral (pattern : String) : String := numberStart ++ pattern ++ numberEnd

/-- `1.5`, `1e3` and `.5e-2`. -/
def float : Rule :=
  .group { patterns := [
    .leaf {
      pattern := numeral (digits ++ "\\.(?:" ++ digits ++ ")?" ++ optionalExponent)
      name := "constant.numeric.float.decimal" },
    .leaf { pattern := numeral (digits ++ exponent), name := "constant.numeric.float.decimal" },
    .leaf {
      pattern := numeral ("\\." ++ digits ++ optionalExponent)
      name := "constant.numeric.float.decimal" }] }

/-- `1Ki`, `1.5M` and `.5Gi`. -/
def integerSi : Rule :=
  .group { patterns := [
    .leaf {
      pattern := numeral (wholeNumber ++ "(?:\\." ++ digits ++ ")?" ++ multiplier)
      name := "constant.numeric.integer.other" },
    .leaf {
      pattern := numeral ("\\." ++ digits ++ multiplier)
      name := "constant.numeric.integer.other" }] }

def stringBacktick : Rule :=
  .region {
    opening := "`"
    openingCaptures := Capture.naming [(0, "punctuation.definition.string.begin")]
    closing := "`"
    closingCaptures := Capture.naming [(0, "punctuation.definition.string.end")]
    contentName := "string.quoted.backtick"
    name := "meta.string" }

/-- The predeclared types. -/
def typeName : Rule :=
  .leaf {
    pattern := word
      "(?:bool|u?int(?:8|16|32|64|128)?|float(?:32|64)?|string|bytes|number|rune)"
    name := "support.type" }

def entries : List (String × Rule) :=
  [("bool", .leaf { pattern := word "(?:true|false)", name := "constant.language.bool" }),
    ("bottom", .leaf { pattern := word "_\\|_", name := "constant.language.bottom" }),
    ("float", float),
    ("identifier", .leaf { pattern := word ("(?:" ++ anyName ++ ")"), name := "variable.other" }),
    ("integer", .alternatives
      ["#integer_si", "#integer_decimal", "#integer_binary", "#integer_hex", "#integer_octal"]),
    ("integer_binary", .leaf {
      pattern := numeral "0b[0-1](?:_?[0-1])*"
      name := "constant.numeric.integer.binary" }),
    ("integer_decimal", .leaf {
      pattern := numeral wholeNumber
      name := "constant.numeric.integer.decimal" }),
    ("integer_hex", .leaf {
      pattern := numeral "0[xX][0-9a-fA-F](?:_?[0-9a-fA-F])*"
      name := "constant.numeric.integer.hexadecimal" }),
    ("integer_octal", .leaf {
      pattern := numeral "0o?[0-7](?:_?[0-7])*"
      name := "constant.numeric.integer.octal" }),
    ("integer_si", integerSi),
    ("null", .leaf { pattern := word "null", name := "constant.language.null" }),
    ("number", .alternatives ["#float", "#integer"]),
    ("string", .group { patterns := Quote.regions 1 }),
    ("string_backtick", stringBacktick),
    ("top", .leaf { pattern := word "_(?!\\|)", name := "constant.language.top" }),
    ("type", typeName)]

end TextMate.Cue.Literal
