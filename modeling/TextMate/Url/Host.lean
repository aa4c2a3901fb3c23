import TextMate.Url.Error
import TextMate.Url.IPv4
import TextMate.Url.IPv6
import TextMate.Url.Label

/-! Hosts of URLs. -/
namespace TextMate.Url

inductive Host where
  | empty
  | name (text : List Char)
  | ipv4 (address : Nat)
  | ipv6 (address : List Nat)
deriving DecidableEq, Inhabited

namespace Host

def text : Host → List Char
  | .empty => []
  | .name text => text
  | .ipv4 address => IPv4.text address
  | .ipv6 address => '[' :: IPv6.text address ++ [']']

/-- The characters of ASCII that no domain name holds. -/
def isForbiddenInDomain (c : Char) : Bool :=
  c.toNat ≤ 0x20 || c.toNat = 0x7f ||
    c ∈ ['%', '#', '/', ':', '<', '>', '?', '@', '[', '\\', ']', '^', '|']

/-- Characters that no host of a scheme without domains holds. -/
def isForbidden (c : Char) : Bool :=
  c ∈ ['\x00', '\t', '\n', '\r', ' ', '#', '/', ':', '<', '>', '?', '@', '[', '\\', ']', '^', '|']

def bracketed (inner : List Char) : Except ParseError Host :=
  match inner.reverse with
  | ']' :: reversed =>
    match IPv6.parse? reversed.reverse with
    | some address => .ok (.ipv6 address)
    | none => .error .invalidIPv6
  | _ => .error .invalidIPv6

/-- A domain name in ASCII, from bytes in UTF-8. -/
def asciiDomain? (bytes : List UInt8) : Option (List Char) := do
  let text ← String.fromUTF8? ⟨bytes.toArray⟩
  let folded := Label.folded text.toList
  if folded.any isForbiddenInDomain then none
  else
    let labels ← Label.ascii? (Text.pieces '.' folded)
    return ['.'].intercalate labels

def domain (cs : List Char) : Except ParseError Host :=
  match asciiDomain? (percentDecode cs) with
  | none => .error .invalidDomainName
  | some domain =>
    if domain.isEmpty then .error .emptyHost
    else if IPv4.isClaimed domain then
      match IPv4.parse? domain with
      | some address => .ok (.ipv4 address)
      | none => .error .invalidIPv4
    else .ok (.name domain)

/-- A domain name or an address. -/
def parseDomain : List Char → Except ParseError Host
  | '[' :: inner => bracketed inner
  | cs => domain cs

/-- A host that is not interpreted, or an address in brackets. -/
def parsePlain : List Char → Except ParseError Host
  | [] => .ok .empty
  | '[' :: inner => bracketed inner
  | cs =>
    if cs.any isForbidden then .error .invalidDomainCharacter
    else .ok (.name (percentEncode inControls cs))

end Host

end TextMate.Url
