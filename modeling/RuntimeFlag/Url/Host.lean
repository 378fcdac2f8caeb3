import RuntimeFlag.Text.Blank
import RuntimeFlag.Url.Address
import RuntimeFlag.Url.Basic
import RuntimeFlag.Url.Domain
import RuntimeFlag.Url.Percent
/-!
# Hosts

How the host of a URL is read. In a special URL it is an address or a domain; in any other one it is
an IPv6 address or a text without the characters that separate the parts of a URL.
-/
namespace RuntimeFlag

/-- Why a text is not a URL. -/
inductive UrlFault
  | emptyHost
  | invalidDomain
  | invalidDomainCharacter
  | invalidPort
  | invalidIpv4
  | invalidIpv6
  | relativeWithoutBase
  | relativeToPlainBase
  deriving DecidableEq, Repr

def UrlFault.message : UrlFault → String
  | .emptyHost => "empty host"
  | .invalidDomain => "invalid international domain name"
  | .invalidDomainCharacter => "invalid domain character"
  | .invalidPort => "invalid port number"
  | .invalidIpv4 => "invalid IPv4 address"
  | .invalidIpv6 => "invalid IPv6 address"
  | .relativeWithoutBase => "relative URL without a base"
  | .relativeToPlainBase => "relative URL with a cannot-be-a-base base"

namespace Host

/-- A domain in ASCII letters of lower case. -/
def domain? (bs : Bytes) : Option (List Char) :=
  (Utf8.decodeChars? bs).bind Domain.ascii?

private def bracketed (cs : List Char) : Except UrlFault Host :=
  match cs.getLast?, Address.ipv6? cs.dropLast with
  | some ']', some pieces => .ok (.ipv6 pieces)
  | _, _ => .error .invalidIpv6

def special (cs : List Char) : Except UrlFault Host :=
  match cs with
  | '[' :: rest => bracketed rest
  | cs =>
    match domain? (Percent.decode cs) with
    | none => .error .invalidDomain
    | some [] => .error .emptyHost
    | some name =>
      if Address.endsInNumber name then
        match Address.ipv4? name with
        | some address => .ok (.ipv4 address)
        | none => .error .invalidIpv4
      else .ok (.domain name)

private def isSeparator (c : Char) : Bool :=
  "\x00\t\n\r #/:<>?@[\\]^|".toList.contains c

def other (cs : List Char) : Except UrlFault Host :=
  match cs with
  | '[' :: rest => bracketed rest
  | cs =>
    if cs.any isSeparator then .error .invalidDomainCharacter
    else .ok (.domain (Percent.encode Percent.isControl cs))

end Host

end RuntimeFlag
