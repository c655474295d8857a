import GitDrift.Url.Address
import GitDrift.Url.Domain
import GitDrift.Url.Percent

/-!
Hosts of URLs (URL standard, section 3.5): domains, which are brought into ASCII, addresses, and
opaque hosts, which belong to schemes without a host syntax of their own.
-/
namespace GitDrift.Url

open Text

/-- Why a text is no absolute URL. -/
inductive ParseError where
  | relativeWithoutBase
  | emptyHost
  | invalidPort
  | invalidIpv4
  | invalidIpv6
  | invalidDomainCharacter
  | invalidInternationalDomain
deriving DecidableEq

def ParseError.message : ParseError → String
  | .relativeWithoutBase => "relative URL without a base"
  | .emptyHost => "empty host"
  | .invalidPort => "invalid port number"
  | .invalidIpv4 => "invalid IPv4 address"
  | .invalidIpv6 => "invalid IPv6 address"
  | .invalidDomainCharacter => "invalid domain character"
  | .invalidInternationalDomain => "invalid international domain name"

/-- A host in brackets. -/
def bracketedHost (s : List Char) : Except ParseError (List Char) :=
  match beforeEnd? [']'] s with
  | none => .error .invalidIpv6
  | some inner =>
    match ipv6? inner with
    | none => .error .invalidIpv6
    | some pieces => .ok ('[' :: ipv6Text pieces ++ [']'])

/-- Characters that stand in no host. -/
def isForbiddenInHost (c : Char) : Bool :=
  ['\x00', '\t', '\n', '\r', ' ', '#', '/', ':', '<', '>', '?', '@', '[', '\\', ']', '^',
    '|'].contains c

def opaqueHost (s : List Char) : Except ParseError (List Char) :=
  match s with
  | '[' :: rest => bracketedHost rest
  | s =>
    if s.any isForbiddenInHost then .error .invalidDomainCharacter
    else .ok (percentEncode isControlOrBeyond s)

/-- A domain or an address. -/
def domainHost (s : List Char) : Except ParseError (List Char) :=
  match s with
  | '[' :: rest => bracketedHost rest
  | s =>
    match (decode? (percentDecode s)).bind Domain.toAscii? with
    | none => .error .invalidInternationalDomain
    | some [] => .error .emptyHost
    | some domain =>
      if endsInNumber domain then
        match ipv4? domain with
        | some address => .ok address
        | none => .error .invalidIpv4
      else .ok domain

end GitDrift.Url
