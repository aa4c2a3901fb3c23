/-! Schemes of URLs. -/
namespace TextMate.Url

/-- `web` schemes always have a domain, `file` may have one, and others know no domains. -/
inductive SchemeKind where
  | web
  | file
  | other
deriving DecidableEq, Inhabited

/-- In these a backslash counts as a slash. -/
def SchemeKind.isSpecial (k : SchemeKind) : Bool := k ≠ .other

def defaultPort : String → Option Nat
  | "http" | "ws" => some 80
  | "https" | "wss" => some 443
  | "ftp" => some 21
  | _ => none

def schemeKind (scheme : String) : SchemeKind :=
  if scheme = "file" then .file
  else if (defaultPort scheme).isSome then .web
  else .other

def isSchemePart (c : Char) : Bool := c.isAlphanum || c = '+' || c = '-' || c = '.'

/-- A scheme in lower case, and what follows its colon. -/
def cutScheme (cs : List Char) : Option (String × List Char) :=
  match cs.span isSchemePart with
  | (first :: name, ':' :: rest) =>
    if first.isAlpha then some (.ofList ((first :: name).map Char.toLower), rest) else none
  | _ => none

end TextMate.Url
