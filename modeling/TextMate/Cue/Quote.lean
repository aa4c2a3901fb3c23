import TextMate.Cue.Lexeme
import TextMate.Rule

/-!
String literals. A string may be wrapped in `#` signs, and its escapes and interpolations then need
as many of them. Each quote and each number of signs has a region of its own.
-/
namespace TextMate.Cue

inductive Quote where
  | double
  | single
  | doubleMultiline
  | singleMultiline
deriving DecidableEq, Inhabited

namespace Quote

/-- A triple quote comes before the single one that begins like it. -/
def all : List Quote := [.doubleMultiline, .double, .singleMultiline, .single]

def delimiter : Quote → String
  | .double => "\""
  | .single => "'"
  | .doubleMultiline => "\"\"\""
  | .singleMultiline => "'''"

/-- Literals in single quotes are bytes. -/
def holdsBytes : Quote → Bool
  | .single | .singleMultiline => true
  | .double | .doubleMultiline => false

def scopePart : Quote → String
  | .double => "double"
  | .single => "single"
  | .doubleMultiline => "double-multiline"
  | .singleMultiline => "single-multiline"

/-- The escapes and interpolations inside a string, then an error for any other backslash. -/
def escapes (q : Quote) (hashes : String) : List Rule :=
  [.leaf {
      pattern := "\\\\" ++ hashes ++ "(?:" ++ q.delimiter ++ "|" ++ Lexeme.commonEscape ++ ")"
      name := "constant.character.escape" },
    .leaf {
      pattern := "\\\\" ++ hashes ++ "(?:" ++ Lexeme.byteEscape ++ ")"
      name := if q.holdsBytes then "constant.character.escape" else "invalid.illegal" },
    .region {
      opening := "\\\\" ++ hashes ++ "\\("
      openingCaptures := Capture.naming [(0, "punctuation.section.interpolation.begin")]
      closing := "\\)"
      closingCaptures := Capture.naming [(0, "punctuation.section.interpolation.end")]
      contentName := "source.cue.embedded"
      patterns := Rule.includingAll ["#expression", "#invalid_in_parens"]
      name := "meta.interpolation" },
    .leaf { pattern := "\\\\" ++ hashes ++ ".", name := "invalid.illegal" }]

def hashes (count : Nat) : String := .ofList (List.replicate count '#')

def region (q : Quote) (hashCount : Nat) : Rule :=
  .region {
    opening := hashes hashCount ++ q.delimiter
    openingCaptures := Capture.naming [(0, "punctuation.definition.string.begin")]
    closing := q.delimiter ++ hashes hashCount
    closingCaptures := Capture.naming [(0, "punctuation.definition.string.end")]
    contentName := "string.quoted." ++ q.scopePart
    patterns := q.escapes (hashes hashCount)
    name := "meta.string" }

/-- The strings with most `#` signs first, down to those without any, then backticks. -/
def regions (maxHashes : Nat) : List Rule :=
  (List.range (maxHashes + 1)).reverse.flatMap (fun n => all.map (region · n)) ++
    [.including "#string_backtick"]

end Quote

end TextMate.Cue
