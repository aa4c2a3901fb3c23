import TextMate.Cue.Lexeme
import TextMate.Rule

/-! Space, comments, operators, punctuation and what is left over before a closing delimiter. -/
namespace TextMate.Cue.Token

open Lexeme

def operator : Rule :=
  .group { patterns := [
    .leaf { pattern := "[\\+\\-\\*]|/(?![/*])", name := "keyword.operator" },
    .leaf {
      pattern := wordStart ++ "(?:div|mod|quo|rem)" ++ wordEnd
      name := "keyword.operator.word" },
    .leaf {
      pattern := "=[=~]|![=~]|<=|>=|[<](?![-=])|[>](?![=])"
      name := "keyword.operator.comparison" },
    .leaf { pattern := "&{2}|\\|{2}|!(?![=~])", name := "keyword.operator.logical" },
    .leaf { pattern := "&(?!&)|\\|(?!\\|)", name := "keyword.operator.set" }] }

def commentBlock : Rule :=
  .region {
    opening := "/\\*"
    closing := "\\*/"
    captures := Capture.naming [(0, "punctuation.definition.comment")]
    name := "comment.block" }

def commentLine : Rule :=
  .leaf {
    pattern := "(//).*$\\n?"
    captures := Capture.naming [(1, "punctuation.definition.comment")]
    name := "comment.line" }

def entries : List (String × Rule) :=
  [("comment", .alternatives ["#comment_line", "#comment_block"]),
    ("comment_block", commentBlock),
    ("comment_line", commentLine),
    ("invalid_in_braces", .leaf { pattern := "[^\\\x7d]+", name := "invalid" }),
    ("invalid_in_brakets", .leaf { pattern := "[^\\]]+", name := "invalid" }),
    ("invalid_in_parens", .leaf { pattern := "[^\\)]+", name := "invalid" }),
    ("operator", operator),
    ("punctuation_arrow", .leaf { pattern := "<-", name := "punctuation.arrow" }),
    ("punctuation_bind", .leaf { pattern := "(?<![=!><])=(?![=~])", name := "punctuation.bind" }),
    ("punctuation_colon", .leaf { pattern := "(?<!:):(?!:)", name := "punctuation.colon" }),
    ("punctuation_comma", .leaf { pattern := ",", name := "punctuation.separator" }),
    ("punctuation_ellipsis", .leaf {
      pattern := "(?<!\\.)\\.{3}(?!\\.)"
      name := "punctuation.ellipsis" }),
    ("punctuation_isa", .leaf { pattern := "(?<!:)::(?!:)", name := "punctuation.isa" }),
    ("punctuation_option", .leaf { pattern := "\\?", name := "punctuation.option" }),
    ("whitespace", .leaf { pattern := "[ \\t\\r\\n]+" })]

end TextMate.Cue.Token
