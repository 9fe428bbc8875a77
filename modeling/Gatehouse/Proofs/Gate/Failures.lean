import Gatehouse.Proofs.Gate.Protection

/-!
# What a refusal tells

The kind of a refusal decides what becomes of the request: bad credentials end it, a failed
exchange is put down to the authority, and a request without any credentials goes on as nobody.
So a kind must not stand for anything else than it says. Each kind is settled by itself here,
as an `iff` where the requests to the authority or the headers decide it:

> a fault is reported exactly if the one exchange was made and failed with it, and a request
> is said to have no credentials exactly if neither its marker nor its authorization value
> has any to offer (`Gate.refuses`).

Both are about an attempt as a whole. What makes them work is that a request which presents no
credential is done with before cache and authority come in
(`authenticate_eq_of_refused`).
-/

set_option autoImplicit false

namespace Gatehouse

/-! ## Authorization values that do not count -/

namespace Basic

/-- The value can be read and is one of another scheme. -/
def Foreign (v : Header.Value) : Prop :=
  ∃ cs, v.text? = some cs ∧ isBasic (splitScheme cs).1 = false

theorem parse_eq_noCredentials_iff {v : Header.Value} :
    (parse v).value = .error .noCredentials ↔ Foreign v := by
  unfold parse Foreign
  cases hv : v.text? with
  | none => exact iff_of_false nofun fun ⟨cs, hcs, _⟩ => nomatch hcs
  | some cs =>
    simp only [Option.some.injEq, exists_eq_left']
    cases hb : isBasic (splitScheme cs).1 with
    | false => exact iff_of_true rfl rfl
    | true =>
      simp only [if_true, Bool.true_eq_false, iff_false]
      cases decodePair (splitScheme cs).2 with
      | none => exact nofun
      | some pair => exact nofun

/-- Such a value carries no pair. -/
theorem Foreign.not_spells {v : Header.Value} (h : Foreign v) (user password : String) :
    ¬ Spells v user password := by
  intro hs
  have hok := parse_eq_ok_iff.mpr hs
  rw [parse_eq_noCredentials_iff.mpr h] at hok
  cases hok

end Basic

namespace Gate

variable {g : Gate} {cache : Cache} {authority : Authority} {hs : Headers}

/-! ## No credentials -/

theorem basic_eq_noCredentials_iff : (classify.basic hs).value = .error .noCredentials ↔
    ∀ v, hs.get? .authorization = some v → Basic.Foreign v := by
  unfold classify.basic
  cases hv : hs.get? .authorization with
  | none => exact iff_of_true rfl nofun
  | some v =>
    simp only [Traced.value_bind, Option.some.injEq, forall_eq']
    rw [← Basic.parse_eq_noCredentials_iff]
    cases (Basic.parse v).value with
    | error refusal => simp only [Traced.value_pure, Except.error.injEq]
    | ok pair => exact iff_of_false nofun nofun

/-- No credentials are found exactly if no marker counts and what there is for an authorization
is of another scheme. -/
theorem classify_eq_noCredentials_iff : (g.classify hs).value = .error .noCredentials ↔
    g.PassesMarker hs ∧ ∀ v, hs.get? .authorization = some v → Basic.Foreign v := by
  by_cases hpass : g.PassesMarker hs
  · rw [value_classify_passed hpass, basic_eq_noCredentials_iff]
    exact (and_iff_right hpass).symm
  · refine iff_of_false (fun h => ?_) fun h => hpass h.1
    -- a marker that counts leaves no way to be nobody
    by_cases hask : g.AsksSession hs
    · rw [classify_session hask] at h
      split at h
      · cases h
      · split at h <;> cases h
    · rw [classify_rejected hask hpass] at h
      cases h

/-- Neither cache nor authority has a part in turning such a request away. -/
theorem authenticate_eq_of_refused {r : Refusal} (h : (g.classify hs).value = .error r)
    (cache cache' : Cache) (authority authority' : Authority) :
    g.authenticate cache authority hs = g.authenticate cache' authority' hs := by
  rw [authenticate_refused h, authenticate_refused h]

/-- A credential that is looked up or asked about is never said to be missing. -/
theorem classify_of_noCredentials
    (h : (g.authenticate cache authority hs).value = .error .noCredentials) :
    (g.classify hs).value = .error .noCredentials := by
  cases hc : (g.classify hs).value with
  | error refusal =>
    rw [authenticate_refused hc] at h
    obtain rfl : refusal = .noCredentials := Except.error.inj h
    rfl
  | ok c =>
    cases hk : (cache.current.consult c).value with
    | some result =>
      rw [authenticate_known hc hk] at h
      obtain rfl : result = .error .noCredentials := h
      cases error_of_consult hk
    | none =>
      rw [authenticate_asked hc hk] at h
      obtain h | ⟨fault, -, h⟩ := error_of_reception h
      · cases h
      · cases h

theorem authenticate_eq_noCredentials_iff :
    (g.authenticate cache authority hs).value = .error .noCredentials ↔
      g.PassesMarker hs ∧ ∀ v, hs.get? .authorization = some v → Basic.Foreign v := by
  rw [← classify_eq_noCredentials_iff]
  refine ⟨classify_of_noCredentials, fun h => ?_⟩
  rw [authenticate_refused h]

/-! ## A failed exchange -/

/-- A fault is passed on, but an answer that cannot be read is none. -/
theorem reception_eq_transport_iff {answer : Except ExchangeFault Reply}
    {fault : ExchangeFault} : (reception answer).value = .error (.transport fault) ↔
      (∀ reason, fault ≠ .invalidResponse reason) ∧ answer = .error fault := by
  have hreceived := received answer
  generalize reception answer = x at hreceived
  constructor
  · intro h
    cases hreceived with
    | failed hanswer hread =>
      obtain rfl := Refusal.transport.inj (Except.error.inj h)
      exact ⟨hread, hanswer⟩
    | turnedDown | vouched => cases h
  · rintro ⟨hne, rfl⟩
    cases hreceived with
    | failed hanswer =>
      obtain rfl := Except.error.inj hanswer
      rfl
    | turnedDown _ _ hanswer =>
      obtain ⟨reason, hreason⟩ := hanswer fault rfl
      exact absurd hreason (hne reason)
    | vouched hv =>
      obtain ⟨-, reply, ⟨⟩, -⟩ := hv

/-- Whoever is asked about is asked about once, and the answer decides. -/
theorem value_of_requests {r : Request}
    (h : Effect.requests (g.authenticate cache authority hs).trace = [r]) :
    (g.authenticate cache authority hs).value = (reception (authority r)).value := by
  cases hc : (g.classify hs).value with
  | error refusal =>
    rw [requests_refused hc] at h
    cases h
  | ok c =>
    cases hk : (cache.current.consult c).value with
    | some result =>
      rw [requests_known hc hk] at h
      cases h
    | none =>
      rw [requests_asked hc hk] at h
      obtain rfl : g.question hs c = r := List.singleton_inj.mp h
      rw [authenticate_asked hc hk]

theorem authenticate_eq_transport_iff {fault : ExchangeFault} :
    (g.authenticate cache authority hs).value = .error (.transport fault) ↔
      (∀ reason, fault ≠ .invalidResponse reason) ∧ ∃ r,
        Effect.requests (g.authenticate cache authority hs).trace = [r] ∧
          authority r = .error fault := by
  constructor
  · intro h
    obtain h' | h' | ⟨c, fault', hp, hk, -, -⟩ := error_of_authenticate h
    · cases h'
    · cases h'
    · have hreq : Effect.requests (g.authenticate cache authority hs).trace = [g.question hs c] :=
        requests_asked (classify_eq_ok_iff.mpr hp) ((cache.current.consult_eq_none_iff c).mpr hk)
      rw [value_of_requests hreq] at h
      obtain ⟨hne, hanswer⟩ := reception_eq_transport_iff.mp h
      exact ⟨hne, _, hreq, hanswer⟩
  · rintro ⟨hne, r, hreq, hanswer⟩
    rw [value_of_requests hreq]
    exact reception_eq_transport_iff.mpr ⟨hne, hanswer⟩

/-! ## The kinds of refusal -/

/-- What the refusals of an attempt tell about it. -/
structure Refuses (g : Gate) (cache : Cache) (authority : Authority) (hs : Headers) :
    Prop where
  /-- A fault is reported exactly if the one exchange was made and failed with it. -/
  transport (fault : ExchangeFault) :
    (g.authenticate cache authority hs).value = .error (.transport fault) ↔
      (∀ reason, fault ≠ .invalidResponse reason) ∧ ∃ r,
        Effect.requests (g.authenticate cache authority hs).trace = [r] ∧
          authority r = .error fault
  /-- With an answer somebody is let in or has bad credentials, whatever the answer is. It
  lets in exactly those whom it vouches for. -/
  answered {r : Request} {reply : Reply}
    (hr : Effect.requests (g.authenticate cache authority hs).trace = [r])
    (ha : authority r = .ok reply) :
    ((∃ i, (g.authenticate cache authority hs).value = .ok i) ∨
        (g.authenticate cache authority hs).value = .error .unauthorized) ∧
      ∀ i, (g.authenticate cache authority hs).value = .ok i ↔
        ∃ user role, Vouches (.ok reply) user role ∧ i = Identity.ofRole user role
  /-- So does an answer that the exchange itself could not read. -/
  unreadable {r : Request} {reason : String}
    (hr : Effect.requests (g.authenticate cache authority hs).trace = [r])
    (ha : authority r = .error (.invalidResponse reason)) :
    (g.authenticate cache authority hs).value = .error .unauthorized
  /-- A request has no credentials exactly if no marker counts, and if what it has for an
  authorization is of another scheme. -/
  noCredentials : (g.authenticate cache authority hs).value = .error .noCredentials ↔
    g.PassesMarker hs ∧ ∀ v, hs.get? .authorization = some v → Basic.Foreign v
  /-- Then nobody was asked, the marker did not ask for a session, a strict gate has met no
  marker, and the authorization value carries no pair. -/
  unasked (h : (g.authenticate cache authority hs).value = .error .noCredentials) :
    Effect.requests (g.authenticate cache authority hs).trace = [] ∧ ¬ g.AsksSession hs ∧
      (g.strict = true → hs.get? g.markerHeader = none) ∧
      ∀ v, hs.get? .authorization = some v → ∀ user password, ¬ Basic.Spells v user password
  /-- The remaining kinds are not those of an attempt. -/
  others (r : Refusal) (h : (g.authenticate cache authority hs).value = .error r) :
    (∀ fault, r ≠ .update fault) ∧ r ≠ .insufficientPermissions
  /-- The first layer lets a request pass as nobody exactly if it has no credentials. -/
  nobody (path : String) : (g.enter cache authority .open path hs).value = .ok none ↔
    (g.authenticate cache authority hs).value = .error .noCredentials
  /-- Whoever passes as nobody has presented nothing, nobody was asked, and no cache and no
  authority would have changed anything: there was nothing to look up. -/
  anonymous (h : (g.authenticate cache authority hs).value = .error .noCredentials) :
    (∀ c, ¬ g.Presents hs c) ∧
      (∀ path, Effect.requests (g.enter cache authority .open path hs).trace = []) ∧
      ∀ cache' authority',
        g.authenticate cache' authority' hs = g.authenticate cache authority hs

theorem not_asks_of_passes (h : g.PassesMarker hs) : ¬ g.AsksSession hs :=
  fun hask => hask.not_passesMarker h

theorem marker_of_strict (h : g.PassesMarker hs) (hstrict : g.strict = true) :
    hs.get? g.markerHeader = none := by
  cases hv : hs.get? g.markerHeader with
  | none => rfl
  | some v => exact absurd (hstrict.symm.trans (h v hv).2) nofun

/-- **Every attempt refuses by these rules.** -/
theorem refuses (g : Gate) (cache : Cache) (authority : Authority) (hs : Headers) :
    g.Refuses cache authority hs where
  transport fault := authenticate_eq_transport_iff
  answered := by
    intro r reply hr ha
    rw [value_of_requests hr, ha]
    refine ⟨?_, fun i => reception_eq_ok_iff⟩
    cases hv : (reception (.ok reply)).value with
    | ok i => exact .inl ⟨i, rfl⟩
    | error refusal =>
      obtain rfl | ⟨fault, hfault, -⟩ := error_of_reception hv
      · exact .inr rfl
      · cases hfault
  unreadable hr ha := by
    rw [value_of_requests hr, ha]
    rfl
  noCredentials := authenticate_eq_noCredentials_iff
  unasked h := by
    obtain ⟨hpass, hforeign⟩ := authenticate_eq_noCredentials_iff.mp h
    exact ⟨requests_refused (classify_of_noCredentials h), not_asks_of_passes hpass,
      marker_of_strict hpass, fun v hv => (hforeign v hv).not_spells⟩
  others r h := by
    obtain rfl | rfl | ⟨c, fault, -, -, -, rfl⟩ := error_of_authenticate h
    · exact ⟨nofun, nofun⟩
    · exact ⟨nofun, nofun⟩
    · exact ⟨nofun, nofun⟩
  nobody path := by
    rw [enter_open_iff]
    exact ⟨fun h => h.elim (fun ⟨i, _, hi⟩ => nomatch hi) And.left, fun h => .inr ⟨h, rfl⟩⟩
  anonymous h := by
    have hc := classify_of_noCredentials h
    refine ⟨fun c hp => ?_, fun path => ?_, fun cache' authority' => ?_⟩
    · rw [classify_eq_ok_iff.mpr hp] at hc
      cases hc
    · rw [enter, Traced.trace_bind, Effect.requests_append, requests_refused hc, h]
      rfl
    · exact authenticate_eq_of_refused hc ..

end Gate

end Gatehouse
