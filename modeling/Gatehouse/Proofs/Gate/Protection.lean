import Gatehouse.Proofs.Gate.Resolution
import Gatehouse.Route

/-!
# Protected routes

Two layers stand before a handler. The first authenticates and passes on who somebody is, or
that nobody is there; the second compares that with what the route asks for. `Gate.Protects`
says what they come to together: which requests reach the handler of a route, as whom, and
what a client is told instead. In between nothing is decided twice, so that

> the handler is reached exactly by those whom authentication names and the route admits, and
> every other client is told one of four things, which depend on the kind of refusal alone.

A request without credentials passes the first layer, so that open routes work, and what is
not open has its guard alone to keep such a request out. What went wrong between gate and
authority is not told to anyone.
-/

set_option autoImplicit false

namespace Gatehouse

/-! ## Why authentication fails -/

theorem Basic.error_of_parse {v : Header.Value} {r : Refusal}
    (h : (Basic.parse v).value = .error r) : r = .unauthorized ∨ r = .noCredentials := by
  unfold Basic.parse at h
  split at h
  · exact .inl (Except.error.inj h).symm
  · dsimp only at h
    split at h
    · split at h
      · exact .inl (Except.error.inj h).symm
      · cases h
    · exact .inr (Except.error.inj h).symm

namespace Gate

variable {g : Gate} {cache : Cache} {authority : Authority} {hs : Headers}

theorem error_of_basic {r : Refusal} (h : (classify.basic hs).value = .error r) :
    r = .unauthorized ∨ r = .noCredentials := by
  unfold classify.basic at h
  split at h
  · exact .inr (Except.error.inj h).symm
  · rw [Traced.value_bind] at h
    split at h
    · next refusal hp =>
      obtain rfl : refusal = r := Except.error.inj h
      exact Basic.error_of_parse hp
    · cases h

theorem error_of_classify {r : Refusal} (h : (g.classify hs).value = .error r) :
    r = .unauthorized ∨ r = .noCredentials := by
  by_cases hask : g.AsksSession hs
  · rw [classify_session hask] at h
    split at h
    · exact .inl (Except.error.inj h).symm
    · split at h
      · exact .inl (Except.error.inj h).symm
      · cases h
  · by_cases hpass : g.PassesMarker hs
    · rw [value_classify_passed hpass] at h
      exact error_of_basic h
    · rw [classify_rejected hask hpass] at h
      exact .inl (Except.error.inj h).symm

theorem error_of_consult {s : Snapshot} {c : Credential} {r : Refusal}
    (h : (s.consult c).value = some (.error r)) : r = .unauthorized := by
  have hc := s.consulted c
  generalize s.consult c = x at hc h
  cases hc with
  | adminWrong | bucketWrong => exact (Except.error.inj (Option.some.inj h)).symm
  | session | noSession | admin | bucket | nobody => cases h

/-- If nobody is let in after an exchange, the credentials were bad, or the exchange failed. -/
theorem error_of_reception {answer : Except ExchangeFault Reply} {r : Refusal}
    (h : (reception answer).value = .error r) :
    r = .unauthorized ∨ ∃ fault, answer = .error fault ∧ r = .transport fault := by
  have hreceived := received answer
  generalize reception answer = x at hreceived h
  cases hreceived with
  | failed hanswer => exact .inr ⟨_, hanswer, (Except.error.inj h).symm⟩
  | turnedDown => exact .inl (Except.error.inj h).symm
  | vouched => cases h

/-- **There are three kinds of failure.** The last one is an exchange that failed. -/
theorem error_of_authenticate {r : Refusal}
    (h : (g.authenticate cache authority hs).value = .error r) :
    r = .unauthorized ∨ r = .noCredentials ∨ ∃ c fault, g.Presents hs c ∧
      ¬ cache.current.Knows c ∧ authority (g.question hs c) = .error fault ∧
      r = .transport fault := by
  cases hc : (g.classify hs).value with
  | error refusal =>
    rw [authenticate_refused hc] at h
    obtain rfl : refusal = r := Except.error.inj h
    exact (error_of_classify hc).imp_right .inl
  | ok c =>
    cases hk : (cache.current.consult c).value with
    | some result =>
      rw [authenticate_known hc hk] at h
      obtain rfl : result = .error r := h
      exact .inl (error_of_consult hk)
    | none =>
      rw [authenticate_asked hc hk] at h
      refine (error_of_reception h).imp_right fun hfault => .inr ?_
      obtain ⟨fault, hanswer, hr⟩ := hfault
      exact ⟨c, fault, classify_eq_ok_iff.mp hc, (Snapshot.consult_eq_none_iff _ _).mp hk,
        hanswer, hr⟩

end Gate

/-! ## Who is let through -/

namespace Access

/-- What a route asks of somebody. -/
def Permits : Access → Identity → Prop
  | .open, _ => True
  | .readOnlyAdmin, i => i.role = some .admin ∨ i.role = some .readOnlyAdmin
  | .admin, i => i.role = some .admin

variable {access : Access} {i : Identity}

theorem permits_readOnlyAdmin_iff :
    Access.readOnlyAdmin.Permits i ↔ i.isReadOnlyAdmin = true := by
  rw [Identity.isReadOnlyAdmin, Bool.or_eq_true, decide_eq_true_iff, decide_eq_true_iff]
  exact Iff.rfl

theorem permits_admin_iff : Access.admin.Permits i ↔ i.isAdmin = true := by
  rw [Identity.isAdmin, decide_eq_true_iff]
  exact Iff.rfl

theorem check_of_permits (h : access.Permits i) : access.check (some i) = .ok (some i) := by
  cases access with
  | «open» => rfl
  | readOnlyAdmin => exact if_pos (permits_readOnlyAdmin_iff.mp h)
  | admin => exact if_pos (permits_admin_iff.mp h)

theorem check_of_not_permits (h : ¬ access.Permits i) :
    access.check (some i) = .error .insufficientPermissions := by
  cases access with
  | «open» => exact absurd trivial h
  | readOnlyAdmin => exact if_neg fun hright => h (permits_readOnlyAdmin_iff.mpr hright)
  | admin => exact if_neg fun hright => h (permits_admin_iff.mpr hright)

theorem check_none (h : access ≠ .open) : access.check none = .error .noCredentials := by
  cases access with
  | «open» => exact absurd rfl h
  | readOnlyAdmin => rfl
  | admin => rfl

end Access

namespace Gate

variable {g : Gate} {cache : Cache} {authority : Authority} {hs : Headers} {access : Access}
  {path : String} {seen : Option Identity}

/-- Both layers in one: authentication decides, and the route decides about whom it names. -/
theorem value_enter (g : Gate) (cache : Cache) (authority : Authority) (access : Access)
    (path : String) (hs : Headers) : (g.enter cache authority access path hs).value
      = match (g.authenticate cache authority hs).value with
        | .ok i => access.check (some i)
        | .error .noCredentials => access.check none
        | .error r => .error r := by
  unfold enter
  rw [Traced.value_bind]
  cases (g.authenticate cache authority hs).value with
  | ok i => rfl
  | error r => cases r <;> rfl

theorem enter_of_permits {i : Identity} (h : (g.authenticate cache authority hs).value = .ok i)
    (hp : access.Permits i) : (g.enter cache authority access path hs).value = .ok (some i) := by
  rw [value_enter, h]
  exact Access.check_of_permits hp

theorem enter_of_not_permits {i : Identity}
    (h : (g.authenticate cache authority hs).value = .ok i) (hp : ¬ access.Permits i) :
    (g.enter cache authority access path hs).value = .error .insufficientPermissions := by
  rw [value_enter, h]
  exact Access.check_of_not_permits hp

theorem enter_of_nobody (h : (g.authenticate cache authority hs).value = .error .noCredentials) :
    (g.enter cache authority .open path hs).value = .ok none := by
  rw [value_enter, h]
  rfl

/-- A refusal is the same on every route, except that nobody needs credentials for an open one.
-/
theorem enter_of_error {r : Refusal} (h : (g.authenticate cache authority hs).value = .error r)
    (hr : r = .noCredentials → access ≠ .open) :
    (g.enter cache authority access path hs).value = .error r := by
  rw [value_enter, h]
  cases r with
  | noCredentials => exact Access.check_none (hr rfl)
  | unauthorized | transport | update | insufficientPermissions => rfl

/-- **Who reaches a handler, and as whom it sees them.** -/
theorem enter_eq_ok_iff : (g.enter cache authority access path hs).value = .ok seen ↔
    (∃ i, (g.authenticate cache authority hs).value = .ok i ∧ access.Permits i ∧
        seen = some i) ∨
      ((g.authenticate cache authority hs).value = .error .noCredentials ∧ access = .open ∧
        seen = none) := by
  constructor
  · intro h
    cases ha : (g.authenticate cache authority hs).value with
    | ok i =>
      by_cases hp : access.Permits i
      · rw [enter_of_permits ha hp] at h
        exact .inl ⟨i, rfl, hp, (Except.ok.inj h).symm⟩
      · rw [enter_of_not_permits ha hp] at h
        cases h
    | error r =>
      by_cases hr : r = .noCredentials → access ≠ .open
      · rw [enter_of_error ha hr] at h
        cases h
      · obtain ⟨rfl, hopen⟩ := Classical.not_imp.mp hr
        obtain rfl := Classical.not_not.mp hopen
        rw [enter_of_nobody ha] at h
        exact .inr ⟨rfl, rfl, (Except.ok.inj h).symm⟩
  · rintro (⟨i, ha, hp, rfl⟩ | ⟨ha, rfl, rfl⟩)
    · exact enter_of_permits ha hp
    · exact enter_of_nobody ha

/-! ## What a client gets -/

/-- The response of a route, whatever its handler is. -/
def respond (g : Gate) (cache : Cache) (authority : Authority) (access : Access) (path : String)
    (hs : Headers) (handler : Option Identity → Response) : Response :=
  match (g.enter cache authority access path hs).value with
  | .ok who => handler who
  | .error refusal => refusal.response

/-- A response that tells a reason and nothing else. -/
def told (status : Nat) (reason : String) : Response where
  status
  contentType := some "application/json"
  body := "\x7b\"error\":\"" ++ reason ++ "\"\x7d"

theorem response_eq_told (r : Refusal) : r.response = told r.status r.publicMessage := by
  cases r with
  | transport fault =>
    have hbody : Json.write (.object [("error", .string "Authentication service unavailable")])
      = "\x7b\"error\":\"Authentication service unavailable\"\x7d" := by decide
    exact congrArg (Response.mk 502 (some "application/json")) hbody
  | update fault =>
    have hbody : Json.write (.object [("error", .string "Internal error")])
      = "\x7b\"error\":\"Internal error\"\x7d" := by decide
    exact congrArg (Response.mk 500 (some "application/json")) hbody
  | unauthorized | noCredentials | insufficientPermissions => decide

theorem respond_of_entered (h : (g.enter cache authority access path hs).value = .ok seen)
    (handler : Option Identity → Response) :
    g.respond cache authority access path hs handler = handler seen := by
  rw [respond, h]

theorem respond_of_refused {r : Refusal}
    (h : (g.enter cache authority access path hs).value = .error r)
    (handler : Option Identity → Response) :
    g.respond cache authority access path hs handler = told r.status r.publicMessage := by
  rw [respond, h]
  exact response_eq_told r

/-- How requests to a path are let through and turned away, by what authentication says. -/
structure Protects (g : Gate) (cache : Cache) (authority : Authority) (path : String)
    (hs : Headers) : Prop where
  /-- Only admins reach a handler that asks for full rights, and it sees them. -/
  admin (seen : Option Identity) :
    (g.enter cache authority .admin path hs).value = .ok seen ↔
      ∃ i, (g.authenticate cache authority hs).value = .ok i ∧ i.role = some .admin ∧
        seen = some i
  /-- Both kinds of admin reach one that asks for the right to look. -/
  readOnlyAdmin (seen : Option Identity) :
    (g.enter cache authority .readOnlyAdmin path hs).value = .ok seen ↔
      ∃ i, (g.authenticate cache authority hs).value = .ok i ∧
        (i.role = some .admin ∨ i.role = some .readOnlyAdmin) ∧ seen = some i
  /-- Anybody reaches an open one, and so does nobody. -/
  unguarded (seen : Option Identity) :
    (g.enter cache authority .open path hs).value = .ok seen ↔
      (∃ i, (g.authenticate cache authority hs).value = .ok i ∧ seen = some i) ∨
        ((g.authenticate cache authority hs).value = .error .noCredentials ∧ seen = none)
  /-- A client gets what the handler that is reached makes of whom it sees. -/
  handled {access : Access} {seen : Option Identity}
    (h : (g.enter cache authority access path hs).value = .ok seen)
    (handler : Option Identity → Response) :
    g.respond cache authority access path hs handler = handler seen
  /-- Bad credentials are turned away from every route. -/
  unauthorized (h : (g.authenticate cache authority hs).value = .error .unauthorized)
    (access : Access) (handler : Option Identity → Response) :
    g.respond cache authority access path hs handler = told 401 "Unauthorized"
  /-- Nobody is turned away from every route that is not open. -/
  noCredentials (h : (g.authenticate cache authority hs).value = .error .noCredentials)
    {access : Access} (ha : access ≠ .open) (handler : Option Identity → Response) :
    g.respond cache authority access path hs handler = told 401 "No credentials supplied"
  /-- Of an exchange that failed a client learns no more than that. -/
  failed {fault : ExchangeFault}
    (h : (g.authenticate cache authority hs).value = .error (.transport fault))
    (access : Access) (handler : Option Identity → Response) :
    g.respond cache authority access path hs handler
      = told 502 "Authentication service unavailable"
  /-- Who lacks the right is told so. -/
  lacking {i : Identity} (h : (g.authenticate cache authority hs).value = .ok i)
    {access : Access} (hp : ¬ access.Permits i) (handler : Option Identity → Response) :
    g.respond cache authority access path hs handler = told 403 "Insufficient permissions"
  /-- Authentication fails in no other way, and the last is about an exchange that failed. -/
  kinds {r : Refusal} (h : (g.authenticate cache authority hs).value = .error r) :
    r = .unauthorized ∨ r = .noCredentials ∨ ∃ c fault, g.Presents hs c ∧
      ¬ cache.current.Knows c ∧ authority (g.question hs c) = .error fault ∧ r = .transport fault
  /-- What passes a guard passes every weaker one, as the same identity. -/
  weaker {seen : Option Identity} :
    ((g.enter cache authority .admin path hs).value = .ok seen →
        (g.enter cache authority .readOnlyAdmin path hs).value = .ok seen) ∧
      ((g.enter cache authority .readOnlyAdmin path hs).value = .ok seen →
        (g.enter cache authority .open path hs).value = .ok seen)
  /-- The routes that there are, are protected like this. -/
  served {target : String} (h : Route.path target = path) :
    (g.serve cache authority target hs).value
      = g.respond cache authority ((Route.access? path).getD .open) path hs
          (if (Route.access? path).isSome then Route.page else fun _ => Route.notFound)

/-- A guarded route lets in whoever has the right, and nobody else. -/
theorem enter_guarded_iff (ha : access ≠ .open) :
    (g.enter cache authority access path hs).value = .ok seen ↔
      ∃ i, (g.authenticate cache authority hs).value = .ok i ∧ access.Permits i ∧
        seen = some i := by
  rw [enter_eq_ok_iff]
  exact or_iff_left fun h => ha h.2.1

/-- An open route lets in whoever is known, and as nobody those who have no credentials. -/
theorem enter_open_iff : (g.enter cache authority .open path hs).value = .ok seen ↔
    (∃ i, (g.authenticate cache authority hs).value = .ok i ∧ seen = some i) ∨
      ((g.authenticate cache authority hs).value = .error .noCredentials ∧ seen = none) := by
  rw [enter_eq_ok_iff]
  simp only [Access.Permits, true_and]

theorem value_serve (g : Gate) (cache : Cache) (authority : Authority) (target : String)
    (hs : Headers) : (g.serve cache authority target hs).value
      = g.respond cache authority ((Route.access? (Route.path target)).getD .open)
          (Route.path target) hs
          (if (Route.access? (Route.path target)).isSome then Route.page
            else fun _ => Route.notFound) := by
  unfold serve respond
  rw [Traced.value_bind]
  cases (g.enter cache authority _ (Route.path target) hs).value with
  | error refusal => rfl
  | ok who =>
    dsimp only
    split <;> rfl

/-- **Every path is protected.** -/
theorem protects (g : Gate) (cache : Cache) (authority : Authority) (path : String)
    (hs : Headers) : g.Protects cache authority path hs where
  admin seen := enter_guarded_iff nofun
  readOnlyAdmin seen := enter_guarded_iff nofun
  unguarded seen := enter_open_iff
  handled h handler := respond_of_entered h handler
  unauthorized h access handler := respond_of_refused (enter_of_error h nofun) handler
  noCredentials h access ha handler := respond_of_refused (enter_of_error h fun _ => ha) handler
  failed h access handler := respond_of_refused (enter_of_error h nofun) handler
  lacking h access hp handler := respond_of_refused (enter_of_not_permits h hp) handler
  kinds h := error_of_authenticate h
  weaker := by
    intro seen
    have hadmin : Access.admin ≠ .open := nofun
    have hlook : Access.readOnlyAdmin ≠ .open := nofun
    constructor
    · intro h
      obtain ⟨i, hi, hrole, hseen⟩ := (enter_guarded_iff hadmin).mp h
      exact (enter_guarded_iff hlook).mpr ⟨i, hi, .inl hrole, hseen⟩
    · intro h
      obtain ⟨i, hi, -, hseen⟩ := (enter_guarded_iff hlook).mp h
      exact enter_open_iff.mpr (.inl ⟨i, hi, hseen⟩)
  served := by
    rintro target rfl
    exact value_serve ..

end Gate

end Gatehouse
