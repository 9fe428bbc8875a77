import Gatehouse.Snapshot
import Gatehouse.Exchange
import Gatehouse.Data.Json

/-!
# Refusals

A request that is not let in gets a response that tells the kind of reason and nothing of
its details, so what goes wrong between gate and authority stays inside.
-/

set_option autoImplicit false

namespace Gatehouse

/-- Why somebody is not let in, or an update not taken. -/
inductive Refusal where
  | unauthorized
  | noCredentials
  | transport (fault : ExchangeFault)
  | update (fault : UpdateFault)
  | insufficientPermissions
  deriving DecidableEq

/-- What a client gets to see. -/
structure Response where
  status : Nat
  contentType : Option String
  body : String
  deriving DecidableEq

namespace Refusal

/-- What is logged about a refusal. -/
def message : Refusal → String
  | .unauthorized => "Unauthorized"
  | .noCredentials => "No credentials supplied"
  | .transport fault => "Verification call failed: " ++ fault.message
  | .update fault => "Cache update rejected: " ++ fault.message
  | .insufficientPermissions => "Insufficient permissions"

/-- The status of a refusal. Credentials that are bad and that are missing are told apart by
their message. -/
def status : Refusal → Nat
  | .unauthorized => 401
  | .noCredentials => 401
  | .transport _ => 502
  | .update _ => 500
  | .insufficientPermissions => 403

/-- What the client is told. -/
def publicMessage : Refusal → String
  | .unauthorized => "Unauthorized"
  | .noCredentials => "No credentials supplied"
  | .transport _ => "Authentication service unavailable"
  | .update _ => "Internal error"
  | .insufficientPermissions => "Insufficient permissions"

/-- The response to a refused request. -/
def response (r : Refusal) : Response where
  status := r.status
  contentType := some "application/json"
  body := Json.write (.object [("error", .string r.publicMessage)])

end Refusal

end Gatehouse
