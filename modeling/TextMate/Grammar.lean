import TextMate.Rule.Children
import TextMate.Table

/-! Grammar documents. -/
namespace TextMate

abbrev Repository := Table Rule

/-- The schema that a grammar document names unless it names another one. -/
def Grammar.schemaUrl : String :=
  "https://raw.githubusercontent.com/martinring/tmlanguage/master/tmlanguage.json"

structure Grammar where
  schema : String := Grammar.schemaUrl
  name : String
  scopeName : String
  patterns : List Rule
  repository : Repository
deriving DecidableEq, Inhabited

end TextMate
