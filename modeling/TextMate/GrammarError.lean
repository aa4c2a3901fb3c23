import TextMate.Finding
import TextMate.Text.Quoted

/-! Why a grammar cannot be simplified or written. -/
namespace TextMate

inductive GrammarError where
  | unresolved (name : String)
  | invalidName (name : String)
  | noPatterns
  /-- Findings of kinds that the caller refuses. -/
  | denied (findings : List Finding)
  /-- The document broke off before its end. -/
  | cutShort (reason : String)
  | io (reason : String)
deriving DecidableEq, Inhabited

def GrammarError.message : GrammarError → String
  | .unresolved name => "rule " ++ Text.quoted name ++ " not found in repository"
  | .invalidName name =>
    "repository rule name " ++ Text.quoted name ++ " cannot be referenced as an include"
  | .noPatterns => "grammar has no top-level patterns"
  | .denied findings =>
    toString findings.length ++ " denied diagnostic(s): " ++
      "; ".intercalate (findings.map (·.message))
  | .cutShort reason => "failed to encode grammar: " ++ reason
  | .io reason => "IO error: " ++ reason

end TextMate
