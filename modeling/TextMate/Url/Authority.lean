import TextMate.Url.Host
import TextMate.Url.Scheme

/-! The part of a URL that names a server: credentials, host and a number. -/
namespace TextMate.Url

structure Authority where
  /-- Percent-encoded. -/
  username : List Char := []
  password : List Char := []
  host : Host
  portNumber : Option Nat := none
deriving DecidableEq, Inhabited

namespace Authority

/-- An empty password is not written, and neither are empty credentials. -/
def credentialsText (username password : List Char) : List Char :=
  let secret := if password.isEmpty then [] else ':' :: password
  if username.isEmpty ∧ password.isEmpty then [] else username ++ secret ++ ['@']

def text (a : Authority) : List Char :=
  let number :=
    match a.portNumber with
    | some n => ':' :: (toString n).toList
    | none => []
  credentialsText a.username a.password ++ a.host.text ++ number

/-- Whether a character ends an authority. -/
def isEnd (kind : SchemeKind) (c : Char) : Bool :=
  c = '/' || c = '?' || c = '#' || kind.isSpecial && c = '\\'

/-- The end of a host is its first colon outside brackets. -/
def spanHost (bracketed : Bool) : List Char → List Char × List Char
  | [] => ([], [])
  | c :: rest =>
    if c = ':' ∧ !bracketed then ([], c :: rest)
    else
      let bracketed := c = '[' || bracketed && c ≠ ']'
      ((spanHost bracketed rest).map (c :: ·) id)

/-- Digits whose value fits in sixteen bits, and what follows them. -/
def readDigits (value : Nat) : List Char → Except ParseError (Nat × List Char)
  | [] => .ok (value, [])
  | c :: rest =>
    if c.isDigit then
      let value := 10 * value + (c.toNat - 48)
      if value < 65536 then readDigits value rest else .error .invalidPort
    else if c = '\\' then .ok (value, c :: rest)
    else .error .invalidPort

/-- The default number of the scheme is left out, and so is one without digits. -/
def parsePortNumber (scheme : String) (cs : List Char) :
    Except ParseError (Option Nat × List Char) := do
  let (value, rest) ← readDigits 0 cs
  let isLeftOut := rest.length = cs.length ∨ defaultPort scheme = some value
  return (if isLeftOut then none else some value, rest)

/-- The host, the number behind it and what is left over, checked in this order. -/
def parseServer (scheme : String) (cs : List Char) :
    Except ParseError (Host × Option Nat × List Char) := do
  let (hostText, rest) := spanHost false cs
  let host ←
    if schemeKind scheme = .other then Host.parsePlain hostText
    else if hostText.isEmpty then .error .emptyHost
    else Host.parseDomain hostText
  match rest with
  | [] => return (host, none, [])
  | _ :: digits =>
    if host = .empty then throw .emptyHost
    let (number, left) ← parsePortNumber scheme digits
    return (host, number, left)

/--
Reads the text up to the end of the authority; `more` tells whether anything follows it. The
characters left over start the path; there are some only behind a number and only in schemes where a
backslash does not count as a slash. A host may be missing only if there are no credentials.
-/
def parse (scheme : String) (more : Bool) (cs : List Char) :
    Except ParseError (Authority × List Char) := do
  let cut := Text.cutAtLast '@' cs
  let (credentials, server) := cut.getD ([], cs)
  let (username, password) := credentials.span (· ≠ ':')
  let username := percentEncode inUserinfoSet username
  let password := percentEncode inUserinfoSet (password.drop 1)
  if cut = some ([], []) ∧ more then throw .emptyHost
  let (host, portNumber, left) ← parseServer scheme server
  if host = .empty ∧ !(credentialsText username password).isEmpty then throw .emptyHost
  return ({ username, password, host, portNumber }, left)

end Authority

end TextMate.Url
