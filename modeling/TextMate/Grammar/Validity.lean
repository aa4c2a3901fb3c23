import TextMate.Grammar
import TextMate.GrammarError

/-! What a grammar must fulfil before its includes are counted. -/
namespace TextMate

def isNameStart (c : Char) : Bool := c.isAlpha || c = '_'

def isNamePart (c : Char) : Bool := c.isAlphanum || c = '_' || c = '.' || c = '-'

/-- ASCII letters, digits, `_`, `.` and `-`, with a letter or `_` in front. -/
def isRuleName (name : String) : Bool :=
  match name.toList with
  | [] => false
  | c :: rest => isNameStart c && rest.all isNamePart

/-- Of several invalid names the first in name order is reported. -/
def Grammar.check (g : Grammar) : Except GrammarError Unit :=
  if g.patterns.isEmpty then .error .noPatterns
  else
    match g.repository.keys.find? fun name => !isRuleName name with
    | some name => .error (.invalidName name)
    | none => .ok ()

end TextMate
