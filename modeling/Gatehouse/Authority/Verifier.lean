import Gatehouse.Authority.Address
import Gatehouse.Data.Json
import Gatehouse.Data.Record
import Gatehouse.Trace

/-!
# Asking the authority who somebody is

A verifier sends the credentials of a request to the authority, unchanged and once. The
authority vouches for a user with a role, or answers with any status but `200 OK`, which
vouches for nobody.
-/

set_option autoImplicit false

namespace Gatehouse

/-- One exchange, which is observed before it is answered. -/
def exchange (authority : Authority) (request : Request) : Traced (Except ExchangeFault Reply) := do
  Traced.emit (.exchange request)
  pure (authority request)

/-- Whom the authority vouches for, in its own words. -/
structure Vouch where
  role : String
  user : String
  deriving DecidableEq

namespace Vouch

/-- The fields of an answer, in the order in which a list gives them. -/
def fieldNames : List String := ["role", "user"]

/-- Whom a value vouches for. -/
def ofDatum (d : Datum) : Option Vouch :=
  match d.record? .refused fieldNames with
  | none => none
  | some r => do
    let role ← r.required "role" Datum.string?
    let user ← r.required "user" Datum.string?
    pure { role, user }

/-- Whom a body vouches for. -/
def ofBody (body : Bytes) : Option Vouch := (Json.read body).bind ofDatum

end Vouch

/-- Asks at one address. -/
structure Verifier where
  url : String
  deriving DecidableEq

namespace Verifier

def new (url : String) : Traced (Except ExchangeFault Verifier) :=
  match Address.parse url with
  | .error fault => pure (.error fault)
  | .ok url => do
    Traced.log (.verifierCreated url)
    pure (.ok ⟨url⟩)

def request (v : Verifier) (credentials : Headers) : Request := ⟨.post, v.url, credentials⟩

/-- Asks about credentials. Only `200 OK` vouches for somebody, and then the body has to say for
whom. -/
def verify (v : Verifier) (authority : Authority) (credentials : Headers) :
    Traced (Except ExchangeFault (Option Vouch)) := do
  match ← exchange authority (v.request credentials) with
  | .error fault => pure (.error fault)
  | .ok reply =>
    if reply.status ≠ Status.ok then
      Traced.log (.credentialsRejected reply.status)
      pure (.ok none)
    else
      match Vouch.ofBody reply.body with
      | none => pure (.error (.invalidResponse reply.complaint))
      | some vouch =>
        Traced.log (.credentialsVerified vouch.user vouch.role)
        pure (.ok (some vouch))

end Verifier

end Gatehouse
