import ClusterGate.Domain.Ascii
import ClusterGate.Uri.Error
import ClusterGate.Uri.Ipv4
import ClusterGate.Uri.Ipv6

/-!
# Hosts

The host of a URI is an IPv6 address in brackets, an IPv4 address, or a
domain name. Names are percent-decoded and brought into their ASCII form,
so `LOCAL%68OST` and `localhost` are the same host; a name whose last part
is a number has to be an IPv4 address.

Schemes without such rules have opaque hosts, which are kept as they are
apart from escapes.
-/

namespace ClusterGate

inductive Host where
  | domain (name : String)
  | ipv4 (address : Nat)
  | ipv6 (groups : List Nat)
  deriving DecidableEq, Repr

namespace Host

def render : Host → String
  | domain name => name
  | ipv4 address => Ipv4.render address
  | ipv6 groups => "[" ++ Ipv6.render groups ++ "]"

/-- Reads an address in brackets, given the text after the first one. -/
def parseBracketed (rest : List Char) : Except UriError Host :=
  if rest.getLast? = some ']' then
    match Ipv6.read? rest.dropLast with
    | some groups => .ok (ipv6 groups)
    | none => .error .invalidIpv6
  else .error .invalidIpv6

/-- The host that an ASCII domain name stands for. -/
def ofAscii (name : List Char) : Except UriError Host :=
  if name.isEmpty then .error .emptyHost
  else if Ipv4.endsInNumber name then
    match Ipv4.read? name with
    | some address => .ok (ipv4 address)
    | none => .error .invalidIpv4
  else .ok (domain (String.ofList name))

/-- Reads a domain name or IPv4 address. -/
def parseName (text : List Char) : Except UriError Host :=
  match Utf8.decode (Percent.decode text) with
  | .error _ => .error .invalidDomain
  | .ok name =>
    match Domain.toAscii? name with
    | none => .error .invalidDomain
    | some ascii => ofAscii ascii

/-- Reads a host as special schemes have it. -/
def parse (text : List Char) : Except UriError Host :=
  match text with
  | '[' :: rest => parseBracketed rest
  | _ => parseName text

/-- Characters that no opaque host contains. -/
def separatesOpaque (c : Char) : Bool :=
  "\x00\t\n\r #/:<>?@[\\]^|".toList.contains c

/-- Reads a host as all other schemes have it. -/
def parseOpaque (text : List Char) : Except UriError Host :=
  match text with
  | '[' :: rest => parseBracketed rest
  | _ =>
    if text.any separatesOpaque then .error .invalidHostCharacter
    else .ok (domain (String.ofList (Percent.encode Percent.controls text)))

end Host

end ClusterGate
