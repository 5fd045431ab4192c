import DeepLink.Idn.Domain
import DeepLink.Text.Percent
import DeepLink.Url.Fault
import DeepLink.Url.Ipv4
import DeepLink.Url.Ipv6

/-! # Hosts

A host in brackets is an IPv6 address. Otherwise the web schemes take a domain name or an IPv4
address, and every other scheme takes a text that holds no character with a meaning of its own. -/

namespace DeepLink.Url.Host

open DeepLink.Text

/-- Checks a host that starts with a bracket. -/
def checkBracketed (inside : List Char) : Except Fault Unit :=
  if inside.getLast? = some ']' && Ipv6.isAddress inside.dropLast then .ok ()
  else .error .invalidIpv6

/-- Checks a domain name, after its escapes are resolved. A name that ends in a number has to be an
IPv4 address. -/
def checkDomain (host : List Char) : Except Fault Unit :=
  match (Utf8.decode? (Percent.unescape host)).bind Idn.labels? with
  | none => .error .invalidDomainName
  | some labels =>
      let name := ['.'].intercalate labels
      if name.isEmpty then .error .emptyHost
      else if Ipv4.endsInNumber name && !Ipv4.isAddress name then .error .invalidIpv4
      else .ok ()

/-- The characters that a host of another scheme may not hold. -/
def isReserved (c : Char) : Bool :=
  "\x00\t\n\r #/:<>?@[\\]^|".toList.contains c

/-- Checks a host of a scheme that is no web scheme. -/
def checkPlain (host : List Char) : Except Fault Unit :=
  if host.any isReserved then .error .invalidHostCharacter else .ok ()

/-- Checks a host of a web scheme. -/
def checkSpecial : List Char → Except Fault Unit
  | '[' :: inside => checkBracketed inside
  | host => checkDomain host

/-- Checks a host of any other scheme. -/
def checkOrdinary : List Char → Except Fault Unit
  | '[' :: inside => checkBracketed inside
  | host => checkPlain host

/-- Divides what follows the credentials into the host and, from the colon on, the port. A colon
between brackets belongs to the host. -/
def splitPort (inBrackets : Bool) : List Char → List Char × List Char
  | [] => ([], [])
  | c :: rest =>
      if c = ':' ∧ !inBrackets then ([], c :: rest)
      else
        let inside := if c = '[' then true else if c = ']' then false else inBrackets
        let (host, port) := splitPort inside rest
        (c :: host, port)

end DeepLink.Url.Host
