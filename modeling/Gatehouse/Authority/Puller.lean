import Gatehouse.Authority.Verifier
import Gatehouse.Update.Codec

/-!
# Pulling updates from the authority

A puller asks the authority for its full set of credentials. As a source of updates for
refresh tasks it reports any fault of the exchange as the reason why there is no update.
-/

set_option autoImplicit false

namespace Gatehouse

/-- The update that a body is the text of. -/
def Update.ofBody (body : Bytes) : Option Update := (Json.read body).bind Update.ofDatum

/-- Asks for updates at one address, with the same headers each time. -/
structure Puller where
  url : String
  headers : Headers

namespace Puller

def new (url : String) (headers : Headers) : Except ExchangeFault Puller :=
  match Address.parse url with
  | .error fault => .error fault
  | .ok url => .ok ⟨url, headers⟩

def request (p : Puller) : Request := ⟨.get, p.url, p.headers⟩

/-- One pull. Only `200 OK` with a body that can be read brings an update. -/
def pull (p : Puller) (authority : Authority) : Traced (Except ExchangeFault Update) := do
  match ← exchange authority p.request with
  | .error fault => pure (.error fault)
  | .ok reply =>
    if reply.status ≠ Status.ok then pure (.error (.unexpectedStatus reply.status))
    else
      match Update.ofBody reply.body with
      | none => pure (.error (.invalidResponse reply.complaint))
      | some u =>
        Traced.log (.snapshotFetched u.version u.admins.length u.buckets.length u.tokens.length)
        pure (.ok u)

/-- `pull` as a fetch of a refresh task. -/
def fetch (p : Puller) (authority : Authority) : Traced (Except UpdateFault Update) := do
  match ← p.pull authority with
  | .error fault => pure (.error (.notFetched fault.message))
  | .ok u => pure (.ok u)

end Puller

end Gatehouse
