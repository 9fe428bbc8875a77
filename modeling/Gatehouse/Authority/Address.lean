import Gatehouse.Url
import Gatehouse.Exchange

/-!
# The address of the authority

Exchanges go over the web, so an address is used in its normal form and only if its scheme
is one of the two that exchanges are made with.
-/

set_option autoImplicit false

namespace Gatehouse.Address

/-- The normal form of an address that exchanges can be made with. -/
def parse (url : String) : Except ExchangeFault String :=
  match Url.parse url with
  | .error fault => .error (.invalidUrl url fault.message)
  | .ok (.web u) =>
    if u.scheme = "http" ∨ u.scheme = "https" then .ok u.text
    else .error (.invalidUrl url ("unsupported scheme " ++ u.scheme))
  | .ok (.other scheme) => .error (.invalidUrl url ("unsupported scheme " ++ scheme))

end Gatehouse.Address
