import Gatehouse.Url.Domain
import Gatehouse.Url.Percent
import Gatehouse.Url.Ipv4
import Gatehouse.Url.Ipv6

/-!
# Hosts

The host of a web address is a domain name or an IP address. Brackets mark IPv6, and a name
whose last part is a number is IPv4. Addresses of other schemes have hosts too; those are
kept as they are.
-/

set_option autoImplicit false

namespace Gatehouse.Url

/-- The host of an address. -/
inductive Host where
  | domain (name : List Char)
  | ipv4 (address : Nat)
  | ipv6 (pieces : List Nat)

namespace Host

/-- A host in its normal form. -/
def text : Host → String
  | .domain name => String.ofList name
  | .ipv4 address => Ipv4.text address
  | .ipv6 pieces => "[" ++ Ipv6.text pieces ++ "]"

/-- A host in brackets, which is an IPv6 address or none. -/
def bracketed (cs : List Char) : Except Fault Host :=
  if cs.getLast? = some ']' then (Ipv6.parse cs.tail.dropLast).map .ipv6 else .error .ipv6

/-- The host of a web address, with percent signs resolved. -/
def parse (cs : List Char) : Except Fault Host :=
  if cs.head? = some '[' then bracketed cs
  else match Domain.toAscii? (percentDecode (Utf8.encode (String.ofList cs))) with
    | none => .error .domainName
    | some [] => .error .emptyHost
    | some name =>
      if Ipv4.endsInNumber name then (Ipv4.parse name).map .ipv4 else .ok (.domain name)

/-- The characters that no host holds outside the web. -/
def isRefused (c : Char) : Bool := "\x00\t\n\r #/:<>?@[\\]^|".toList.contains c

/-- The host of an address that is not for the web. -/
def parseOpaque (cs : List Char) : Except Fault Host :=
  if cs.head? = some '[' then bracketed cs
  else if cs.any isRefused then .error .domainCharacter
  else .ok (.domain (percentEncode inControls cs))

end Host

end Gatehouse.Url
