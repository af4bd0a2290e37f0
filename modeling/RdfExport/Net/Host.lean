import RdfExport.Net.Idna
import RdfExport.Net.Ipv4
import RdfExport.Net.Ipv6
import RdfExport.Text.Percent

/-!
# RdfExport.Net.Host

The host of a URL: a name, an IPv4 address, or an IPv6 address in brackets. A host that ends in a
number is an IPv4 address or an error.

* `Host.parse`: a host from its text.
* `Host.render`: the one text of a host.
-/

namespace RdfExport
namespace Net

/-- Why a text is not a URL. -/
inductive UrlFault where
  | noScheme
  | otherScheme
  | emptyHost
  | badName
  | badIpv4
  | badIpv6
  | badPort
  deriving DecidableEq

def UrlFault.message : UrlFault → String
  | .noScheme => "relative URL without a base"
  | .otherScheme => "neither an HTTP nor an HTTPS URL"
  | .emptyHost => "empty host"
  | .badName => "invalid domain name"
  | .badIpv4 => "invalid IPv4 address"
  | .badIpv6 => "invalid IPv6 address"
  | .badPort => "invalid port number"

inductive Host where
  | domain (name : List Char)
  | ipv4 (address : Nat)
  | ipv6 (groups : List Nat)
  deriving DecidableEq

namespace Host

/-- The ASCII characters that no host name holds. -/
def isForbidden (c : Char) : Bool :=
  c.toNat ≤ 0x20 || c.toNat == 0x7F || "#%/:<>?@[\\]^|".toList.contains c

/-- The name in ASCII that a text with percent-encoded octets stands for. -/
def asciiName (text : List Char) : Except UrlFault (List Char) :=
  match Utf8.decode (Percent.decode (Utf8.encode text)) with
  | .error _ => .error .badName
  | .ok cs =>
    match Idna.toAscii? cs with
    | none => .error .badName
    | some name =>
      if name.isEmpty then .error .emptyHost
      else if name.any isForbidden then .error .badName
      else .ok name

/-- The address between brackets. -/
def parseBracketed (text : List Char) : Except UrlFault Host :=
  if text.getLast? = some ']' then
    match Ipv6.parse? text.dropLast with
    | some groups => .ok (.ipv6 groups)
    | none => .error .badIpv6
  else .error .badIpv6

/-- The host that a text is. -/
def parse (text : List Char) : Except UrlFault Host :=
  match text with
  | [] => .error .emptyHost
  | '[' :: rest => parseBracketed rest
  | text =>
    match asciiName text with
    | .error f => .error f
    | .ok name =>
      if Ipv4.endsInNumber name then
        match Ipv4.parse? name with
        | some address => .ok (.ipv4 address)
        | none => .error .badIpv4
      else .ok (.domain name)

def render : Host → List Char
  | .domain name => name
  | .ipv4 address => Ipv4.render address
  | .ipv6 groups => '[' :: Ipv6.render groups ++ [']']

end Host
end Net
end RdfExport
