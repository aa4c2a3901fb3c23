import TextMate.Cue.Declaration
import TextMate.Cue.Expression
import TextMate.Cue.Literal
import TextMate.Cue.Token
import TextMate.Grammar

/-! The grammar of CUE, in many small entries that include each other. -/
namespace TextMate.Cue

def name : String := "CUE"

def scopeName : String := "source.cue"

/-- Tried in this order at every position of a file. -/
def patterns : List Rule :=
  Rule.includingAll
    ["#whitespace", "#comment", "#package", "#import", "#punctuation_comma", "#declaration",
      "#invalid_in_braces"]

def repository : Repository :=
  .ofList (Literal.entries ++ Token.entries ++ Expression.entries ++ Declaration.entries)

def grammar : Grammar := { name, scopeName, patterns, repository }

end TextMate.Cue
