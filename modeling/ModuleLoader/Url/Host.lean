import ModuleLoader.Url.Address
import ModuleLoader.Url.Domain

/-
Reading a host.

Brackets hold an IPv6 address under every scheme.  Otherwise a special scheme reads a
domain name or an IPv4 address, and any other scheme keeps the text as it stands, apart
from percent-encoding.
-/

namespace ModuleLoader.Url

open Text

/-- The address between brackets, if the host begins with one. -/
def bracketed? (text : List Char) : Option (Except UrlFault Host) :=
  match text with
  | '[' :: rest =>
    some <|
      if rest.getLast? = some ']' then
        match ipv6? rest.dropLast with
        | some groups => .ok (.ipv6 groups)
        | none => .error .invalidIpv6
      else .error .invalidIpv6
  | _ => none

/-- The host of a URL with a special scheme. -/
def Host.parseSpecial (text : List Char) : Except UrlFault Host :=
  match bracketed? text with
  | some result => result
  | none =>
    match domainToAscii? (Percent.decode text) with
    | none => .error .invalidInternationalDomain
    | some [] => .error .emptyHost
    | some domain =>
      if endsInNumber domain then
        match ipv4? domain with
        | some address => .ok (.ipv4 address)
        | none => .error .invalidIpv4
      else .ok (.name domain)

/-- Characters that no host may hold, whatever the scheme. -/
def forbiddenInHost (c : Char) : Bool :=
  c ∈ ['\x00', '\t', '\n', '\r', ' ', '#', '/', ':', '<', '>', '?', '@', '[', '\\', ']', '^', '|']

/-- The host of a URL with any other scheme. -/
def Host.parseGeneric (text : List Char) : Except UrlFault Host :=
  match bracketed? text with
  | some result => result
  | none =>
    if text.any forbiddenInHost then .error .invalidDomainCharacter
    else .ok (.name (Percent.encode Percent.control text))

end ModuleLoader.Url
