import Gatehouse.Gate

/-!
# Protected routes

Every request goes through the gate before it reaches a route. One with bad credentials
stops there; one without any goes on as nobody. A route may be open, or ask for the right to
look, or for full rights.
-/

set_option autoImplicit false

namespace Gatehouse

/-- What a route asks for. -/
inductive Access where
  | open
  | readOnlyAdmin
  | admin
  deriving DecidableEq

/-- Whether somebody, or nobody, may pass. -/
def Access.check (a : Access) (who : Option Identity) : Except Refusal (Option Identity) :=
  match a with
  | .open => .ok who
  | .readOnlyAdmin => limited Identity.isReadOnlyAdmin
  | .admin => limited Identity.isAdmin
where
  limited (right : Identity → Bool) : Except Refusal (Option Identity) :=
    match who with
    | none => .error .noCredentials
    | some i => if right i then .ok who else .error .insufficientPermissions

namespace Gate

/-- Whom a route's handler gets to see, if it is reached at all. -/
def enter (g : Gate) (cache : Cache) (authority : Authority) (access : Access) (path : String)
    (hs : Headers) : Traced (Except Refusal (Option Identity)) := do
  match ← g.authenticate cache authority hs with
  | .ok identity =>
    Traced.log (.admitted identity.name path)
    pure (access.check (some identity))
  | .error .noCredentials => pure (access.check none)
  | .error refusal => pure (.error refusal)

end Gate

namespace Route

/-- The path of a request's target, without its query. -/
def path (target : String) : String :=
  String.ofList (target.toList.takeWhile fun c => c ≠ '?' && c ≠ '#')

/-- What the route of a path asks for; there are three. -/
def access? (path : String) : Option Access :=
  if path = "/settings" then some .admin
  else if path = "/stats" then some .readOnlyAdmin
  else if path = "/public" then some .open
  else none

/-- A page that shows who is looking at it. -/
def page (who : Option Identity) : Response where
  status := 200
  contentType := some "text/plain; charset=utf-8"
  body := (who.map Identity.name).getD ""

def notFound : Response := ⟨404, none, ""⟩

end Route

/-- The response to a request for a target. A path without a route is open, to find nothing
there. -/
def Gate.serve (g : Gate) (cache : Cache) (authority : Authority) (target : String)
    (hs : Headers) : Traced Response := do
  let path := Route.path target
  let access := Route.access? path
  match ← g.enter cache authority (access.getD .open) path hs with
  | .error refusal => pure refusal.response
  | .ok who => pure (if access.isSome then Route.page who else Route.notFound)

end Gatehouse
