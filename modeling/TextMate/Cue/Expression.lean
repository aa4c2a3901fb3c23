import TextMate.Cue.Lexeme
import TextMate.Rule

/-! Expressions: operands, selectors, calls, clauses and what stands in brackets. -/
namespace TextMate.Cue.Expression

open Lexeme

def operand : Rule :=
  .alternatives
    ["#top", "#bottom", "#null", "#bool", "#number", "#string", "#type", "#call", "#identifier",
      "#struct", "#brackets", "#parens"]

/-- `.field`. -/
def selector : Rule :=
  .leaf {
    pattern := "(?<!\\.)(\\.)(" ++ anyName ++ ")" ++ wordEnd
    captures := Capture.naming [(1, "punctuation.accessor"), (2, "variable.other.member")] }

/-- `for k, v in`, `if` and `let x =`. -/
def clause : Rule :=
  .group { patterns := [
    .leaf {
      pattern := wordStart ++ "(for)[ \\t]+(" ++ anyName ++ ")(?:[ \\t]*(,)[ \\t]*(" ++
        anyName ++ "))?[ \\t]+(in)" ++ wordEnd
      captures := Capture.naming
        [(1, "keyword.control.for"), (2, "variable.other"), (3, "punctuation.separator"),
          (4, "variable.other"), (5, "keyword.control.in")] },
    .leaf { pattern := wordStart ++ "if" ++ wordEnd, name := "keyword.control.conditional" },
    .leaf {
      pattern := wordStart ++ "(let)[ \\t]+(" ++ anyName ++ ")[ \\t]*(=)(?![=])"
      captures := Capture.naming
        [(1, "keyword.control.let"), (2, "variable.other"), (3, "punctuation.bind")] }] }

/-- What may stand in parentheses. -/
def arguments : List Rule :=
  Rule.includingAll
    ["#whitespace", "#comment", "#punctuation_comma", "#expression", "#invalid_in_parens"]

/-- `len(x)` and the other calls of a builtin. -/
def callPredefined : Rule :=
  .region {
    opening := wordStart ++ "(len|close|and|or)(\\()"
    openingCaptures := Capture.naming
      [(1, "support.function"), (2, "punctuation.section.parens.begin")]
    closing := "\\)"
    closingCaptures := Capture.naming [(0, "punctuation.section.parens.end")]
    patterns := arguments
    name := "meta.function-call" }

/-- `strings.ToUpper(x)`. -/
def callQualified : Rule :=
  .region {
    opening := wordStart ++ "(" ++ packageName ++ ")(\\.)(" ++ exportedName ++ ")(\\()"
    openingCaptures := Capture.naming
      [(1, "support.module"), (2, "punctuation"), (3, "support.function"),
        (4, "punctuation.section.parens.begin")]
    closing := "\\)"
    closingCaptures := Capture.naming [(0, "punctuation.section.parens.end")]
    patterns := arguments
    name := "meta.function-call" }

def parens : Rule :=
  .region {
    opening := "\\("
    openingCaptures := Capture.naming [(0, "punctuation.section.parens.begin")]
    closing := "\\)"
    closingCaptures := Capture.naming [(0, "punctuation.section.parens.end")]
    patterns := arguments
    name := "meta.parens" }

def brackets : Rule :=
  .region {
    opening := "\\["
    openingCaptures := Capture.naming [(0, "punctuation.section.brackets.begin")]
    closing := "\\]"
    closingCaptures := Capture.naming [(0, "punctuation.section.brackets.end")]
    patterns := Rule.includingAll
      ["#whitespace", "#comment", "#punctuation_colon", "#punctuation_comma",
        "#punctuation_ellipsis", "#expression", "#invalid_in_brakets"]
    name := "meta.brackets" }

def struct : Rule :=
  .region {
    opening := "\\\x7b"
    openingCaptures := Capture.naming [(0, "punctuation.definition.struct.begin")]
    closing := "\\\x7d"
    closingCaptures := Capture.naming [(0, "punctuation.definition.struct.end")]
    patterns := Rule.includingAll
      ["#whitespace", "#comment", "#punctuation_comma", "#punctuation_ellipsis", "#declaration",
        "#invalid_in_braces"]
    name := "meta.struct" }

def entries : List (String × Rule) :=
  [("brackets", brackets),
    ("call", .alternatives ["#call_predefined", "#call_qualified"]),
    ("call_predefined", callPredefined),
    ("call_qualified", callQualified),
    ("clause", clause),
    ("expression", .alternatives ["#clause", "#operator", "#selector", "#operand"]),
    ("operand", operand),
    ("parens", parens),
    ("selector", selector),
    ("struct", struct)]

end TextMate.Cue.Expression
