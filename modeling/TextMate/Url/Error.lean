/-! Why a text is not a URL. -/
namespace TextMate.Url

inductive ParseError where
  | relativeWithoutBase
  | emptyHost
  | invalidPort
  | invalidIPv4
  | invalidIPv6
  /-- A forbidden character in a host that names an internet domain. -/
  | invalidDomainName
  /-- A forbidden character in any other host. -/
  | invalidDomainCharacter
deriving DecidableEq, Inhabited

def ParseError.message : ParseError → String
  | .relativeWithoutBase => "relative URL without a base"
  | .emptyHost => "empty host"
  | .invalidPort => "invalid port number"
  | .invalidIPv4 => "invalid IPv4 address"
  | .invalidIPv6 => "invalid IPv6 address"
  | .invalidDomainName => "invalid international domain name"
  | .invalidDomainCharacter => "invalid domain character"

end TextMate.Url
