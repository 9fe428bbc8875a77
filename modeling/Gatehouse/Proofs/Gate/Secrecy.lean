import Gatehouse.Proofs.Gate.Admission

/-!
# What the log tells of a secret

Two requests are held side by side that are the same but for a secret: a session, a password,
or what an authorization value has after its scheme. If the gate comes to the same result and
the authority has answered the same, does the log tell the two apart?

Of a session and of a password nothing is told (`lines_of_alike`): log lines name the user, and
whether something was found. Of other credentials nothing is told either as long as there is
a space between them and their scheme. Behind tabs alone they count as a part of the scheme,
and the scheme is logged; `lines_eq_iff` says how much of them is (`Basic.exposed`).

A gate may be set up to look for its marker under the very header that has the secret. The
requests may then differ in the marker too, and the log always tells that (`lines_ne_of_asks`).
-/

set_option autoImplicit false

namespace Gatehouse

/-- The same headers in the same order, but for the values of one name. -/
structure Headers.AlikeBut (name : Header.Name) (hs₁ hs₂ : Headers) : Prop where
  names : hs₁.map Prod.fst = hs₂.map Prod.fst
  values : ∀ n, n ≠ name → hs₁.getAll n = hs₂.getAll n

theorem Headers.isSome_get?_iff (hs : Headers) (n : Header.Name) :
    (hs.get? n).isSome = true ↔ n ∈ hs.map Prod.fst := by
  induction hs with
  | nil => simp [get?, getAll]
  | cons h rest ih =>
    by_cases hn : h.1 = n
    · simp [get?, getAll, hn]
    · have hskip : Headers.get? (h :: rest) n = Headers.get? rest n := by
        simp [get?, getAll, hn]
      rw [hskip, ih, List.map_cons, List.mem_cons]
      exact ⟨.inr, fun hmem => hmem.resolve_left fun he => hn he.symm⟩

namespace Headers.AlikeBut

variable {name n : Header.Name} {hs₁ hs₂ : Headers}

theorem get? (h : AlikeBut name hs₁ hs₂) (hn : n ≠ name) : hs₁.get? n = hs₂.get? n :=
  congrArg List.head? (h.values n hn)

theorem isSome_get? (h : AlikeBut name hs₁ hs₂) (n : Header.Name) :
    (hs₁.get? n).isSome = (hs₂.get? n).isSome := by
  rw [Bool.eq_iff_iff, isSome_get?_iff, isSome_get?_iff, h.names]

end Headers.AlikeBut

/-- Both are tokens, or passwords of the same user. -/
inductive Credential.SameUser : Credential → Credential → Prop
  | token (token₁ token₂ : String) : SameUser (.token token₁) (.token token₂)
  | password (user password₁ password₂ : String) :
    SameUser (.password user password₁) (.password user password₂)

/-- Which way a check went can be seen from the value that it led to. -/
theorem Traced.ite_congr_of_value {α : Type} {p q : Prop} [Decidable p] [Decidable q]
    {x y : Traced α} (hne : x.value ≠ y.value)
    (hv : (if p then x else y).value = (if q then x else y).value) :
    (if p then x else y) = if q then x else y := by
  by_cases hp : p
  · by_cases hq : q
    · rw [if_pos hp, if_pos hq]
    · rw [if_pos hp, if_neg hq] at hv
      exact absurd hv hne
  · by_cases hq : q
    · rw [if_neg hp, if_pos hq] at hv
      exact absurd hv.symm hne
    · rw [if_neg hp, if_neg hq]

/-- What a snapshot does about a credential depends on the user and on the outcome. -/
theorem Snapshot.events_consult (s : Snapshot) {c₁ c₂ : Credential} (hc : c₁.SameUser c₂)
    (hv : (s.consult c₁).value = (s.consult c₂).value) :
    Effect.events (s.consult c₁).trace = Effect.events (s.consult c₂).trace := by
  cases hc with
  | token token₁ token₂ =>
    rw [consult, consult] at hv ⊢
    cases h₁ : s.token? token₁ with
    | none =>
      cases h₂ : s.token? token₂ with
      | none => rfl
      | some session => rw [h₁, h₂] at hv; cases hv
    | some session =>
      cases h₂ : s.token? token₂ with
      | none => rw [h₁, h₂] at hv; cases hv
      | some session' => rfl
  | password user password₁ password₂ =>
    rw [consult, consult] at hv ⊢
    cases ha : s.admin? user with
    | some admin =>
      rw [ha] at hv
      dsimp only at hv ⊢
      rw [Traced.ite_congr_of_value (by simp) hv]
    | none =>
      rw [ha] at hv
      dsimp only at hv ⊢
      cases hb : s.bucket? user with
      | none => rfl
      | some bucket =>
        rw [hb] at hv
        dsimp only at hv ⊢
        rw [Traced.ite_congr_of_value (by simp) hv]

namespace Gate

/-! ## Log lines of an attempt -/

/-- The log lines of an attempt, with their levels. -/
def lines (g : Gate) (cache : Cache) (authority : Authority) (hs : Headers) :
    List (Level × String) :=
  (Effect.events (g.authenticate cache authority hs).trace).map fun e => (e.level, e.message)

/-- What the authority has answered in an attempt. -/
def answers (g : Gate) (cache : Cache) (authority : Authority) (hs : Headers) :
    List (Except ExchangeFault Reply) :=
  (Effect.requests (g.authenticate cache authority hs).trace).map authority

variable {g : Gate} {cache : Cache} {authority a₁ a₂ : Authority} {hs hs₁ hs₂ : Headers}

theorem lines_refused {r : Refusal} (h : (g.classify hs).value = .error r) :
    g.lines cache authority hs
      = (Effect.events (g.classify hs).trace).map fun e => (e.level, e.message) := by
  rw [lines, authenticate_refused h]
  simp

theorem lines_known {c : Credential} {result : Except Refusal Identity}
    (h : (g.classify hs).value = .ok c) (hk : (cache.current.consult c).value = some result) :
    g.lines cache authority hs
      = (Effect.events (g.classify hs).trace ++ Effect.events (cache.current.consult c).trace).map
          fun e => (e.level, e.message) := by
  rw [lines, authenticate_known h hk]
  simp

theorem lines_asked {c : Credential} (h : (g.classify hs).value = .ok c)
    (hk : (cache.current.consult c).value = none) :
    g.lines cache authority hs
      = (Effect.events (g.classify hs).trace ++ Effect.events (cache.current.consult c).trace
          ++ Effect.events (reception (authority (g.question hs c))).trace).map
            fun e => (e.level, e.message) := by
  rw [lines, authenticate_asked h hk]
  simp

theorem answers_refused {r : Refusal} (h : (g.classify hs).value = .error r) :
    g.answers cache authority hs = [] := by
  rw [answers, requests_refused h]
  rfl

theorem answers_known {c : Credential} {result : Except Refusal Identity}
    (h : (g.classify hs).value = .ok c) (hk : (cache.current.consult c).value = some result) :
    g.answers cache authority hs = [] := by
  rw [answers, requests_known h hk]
  rfl

theorem answers_asked {c : Credential} (h : (g.classify hs).value = .ok c)
    (hk : (cache.current.consult c).value = none) :
    g.answers cache authority hs = [authority (g.question hs c)] := by
  rw [answers, requests_asked h hk]
  rfl

/-- The lines of an attempt follow those of the look at the request. -/
theorem lines_of_alike {c₁ c₂ : Credential} (h₁ : (g.classify hs₁).value = .ok c₁)
    (h₂ : (g.classify hs₂).value = .ok c₂) (hc : c₁.SameUser c₂)
    (he : Effect.events (g.classify hs₁).trace = Effect.events (g.classify hs₂).trace)
    (hv : (g.authenticate cache a₁ hs₁).value = (g.authenticate cache a₂ hs₂).value)
    (ha : g.answers cache a₁ hs₁ = g.answers cache a₂ hs₂) :
    g.lines cache a₁ hs₁ = g.lines cache a₂ hs₂ := by
  cases hk₁ : (cache.current.consult c₁).value with
  | none =>
    cases hk₂ : (cache.current.consult c₂).value with
    | none =>
      have hcon := cache.current.events_consult hc (hk₁.trans hk₂.symm)
      rw [answers_asked h₁ hk₁, answers_asked h₂ hk₂, List.cons.injEq] at ha
      rw [lines_asked h₁ hk₁, lines_asked h₂ hk₂, he, hcon, ha.1]
    | some result =>
      -- one of the two has an answer of the authority, and the other has none
      rw [answers_asked h₁ hk₁, answers_known h₂ hk₂] at ha
      cases ha
  | some result₁ =>
    cases hk₂ : (cache.current.consult c₂).value with
    | none =>
      rw [answers_known h₁ hk₁, answers_asked h₂ hk₂] at ha
      cases ha
    | some result₂ =>
      rw [authenticate_known h₁ hk₁, authenticate_known h₂ hk₂] at hv
      obtain rfl : result₁ = result₂ := hv
      have hcon := cache.current.events_consult hc (hk₁.trans hk₂.symm)
      rw [lines_known h₁ hk₁, lines_known h₂ hk₂, he, hcon]

theorem lines_of_classify_eq (h : g.classify hs₁ = g.classify hs₂)
    (hv : (g.authenticate cache a₁ hs₁).value = (g.authenticate cache a₂ hs₂).value)
    (ha : g.answers cache a₁ hs₁ = g.answers cache a₂ hs₂) :
    g.lines cache a₁ hs₁ = g.lines cache a₂ hs₂ := by
  cases hc : (g.classify hs₁).value with
  | error refusal => rw [lines_refused hc, lines_refused (h ▸ hc), h]
  | ok c =>
    have hself : c.SameUser c := by
      cases c with
      | token token => exact .token token token
      | password user password => exact .password user password password
    exact lines_of_alike hc (h ▸ hc) hself (by rw [h]) hv ha

/-! ## A session -/

/-- A request that asks for a session has none, or has a token. -/
theorem classify_of_asks (h : g.AsksSession hs) : g.classify hs = classify.noSession
    ∨ ∃ token, g.classify hs = pure (.ok (.token token)) := by
  rw [classify_session h]
  cases Cookie.find? hs g.cookieName with
  | none => exact .inl rfl
  | some token =>
    by_cases hempty : token = ""
    · exact .inl (if_pos hempty)
    · exact .inr ⟨token, if_neg hempty⟩

/-- Without a session the request is turned away unasked, and with one it is not. -/
theorem not_missing_of_token {token : String} (h₁ : g.classify hs₁ = classify.noSession)
    (h₂ : g.classify hs₂ = pure (.ok (.token token)))
    (hv : (g.authenticate cache a₁ hs₁).value = (g.authenticate cache a₂ hs₂).value)
    (ha : g.answers cache a₁ hs₁ = g.answers cache a₂ hs₂) : False := by
  have hc₁ : (g.classify hs₁).value = .error .unauthorized := by rw [h₁]; rfl
  have hc₂ : (g.classify hs₂).value = .ok (.token token) := by rw [h₂]; rfl
  cases hk : (cache.current.consult (.token token)).value with
  | none =>
    rw [answers_refused hc₁, answers_asked hc₂ hk] at ha
    cases ha
  | some result =>
    rw [authenticate_refused hc₁, authenticate_known hc₂ hk] at hv
    obtain rfl : .error .unauthorized = result := hv
    have hcon := cache.current.consulted (.token token)
    generalize cache.current.consult (.token token) = x at hcon hk
    cases hcon with
    | session hs => cases hk
    | noSession hs => cases hk

/-- **Nothing is told of a session**, not even whether it was there. -/
theorem lines_of_asks (h₁ : g.AsksSession hs₁) (h₂ : g.AsksSession hs₂)
    (hv : (g.authenticate cache a₁ hs₁).value = (g.authenticate cache a₂ hs₂).value)
    (ha : g.answers cache a₁ hs₁ = g.answers cache a₂ hs₂) :
    g.lines cache a₁ hs₁ = g.lines cache a₂ hs₂ := by
  rcases classify_of_asks h₁ with hc₁ | ⟨token₁, hc₁⟩
  · rcases classify_of_asks h₂ with hc₂ | ⟨token₂, hc₂⟩
    · exact lines_of_classify_eq (hc₁.trans hc₂.symm) hv ha
    · exact absurd (not_missing_of_token hc₁ hc₂ hv ha) id
  · rcases classify_of_asks h₂ with hc₂ | ⟨token₂, hc₂⟩
    · exact absurd (not_missing_of_token hc₂ hc₁ hv.symm ha.symm) id
    · exact lines_of_alike (by rw [hc₁]; rfl) (by rw [hc₂]; rfl) (.token token₁ token₂)
        (by rw [hc₁, hc₂]; rfl) hv ha

/-! ## The marker -/

/-- The first line of an attempt is the first that is written about the request. -/
theorem head?_lines {e : Event} {rest : List Event}
    (h : Effect.events (g.classify hs).trace = e :: rest) :
    (g.lines cache authority hs).head? = some (e.level, e.message) := by
  cases hc : (g.classify hs).value with
  | error refusal => rw [lines_refused hc, h]; rfl
  | ok c =>
    cases hk : (cache.current.consult c).value with
    | none => rw [lines_asked hc hk, h]; rfl
    | some result => rw [lines_known hc hk, h]; rfl

theorem head?_lines_of_asks (h : g.AsksSession hs) (cache : Cache) (authority : Authority) :
    ∃ e : Event, (g.lines cache authority hs).head? = some (e.level, e.message)
      ∧ (e = .sessionCookieMissing ∨ ∃ hit, e = .tokenLookedUp hit) := by
  rcases classify_of_asks h with hc | ⟨token, hc⟩
  · have hfirst : Effect.events (g.classify hs).trace = [.sessionCookieMissing] := by rw [hc]; rfl
    exact ⟨.sessionCookieMissing, head?_lines hfirst, .inl rfl⟩
  · have hok : (g.classify hs).value = .ok (.token token) := by rw [hc]; rfl
    have hnothing : Effect.events (g.classify hs).trace = [] := by rw [hc]; rfl
    refine ⟨.tokenLookedUp (cache.current.token? token).isSome, ?_, .inr ⟨_, rfl⟩⟩
    have hlook : Effect.events (cache.current.consult (.token token)).trace
        = [.tokenLookedUp (cache.current.token? token).isSome] := by
      simp [Snapshot.consult]
    cases hk : (cache.current.consult (.token token)).value with
    | none => rw [lines_asked hok hk, hnothing, hlook]; rfl
    | some result => rw [lines_known hok hk, hnothing, hlook]; rfl

theorem passesMarker_iff : g.PassesMarker hs ↔ ¬ g.AsksSession hs
    ∧ ((hs.get? g.markerHeader).isSome = true → g.strict = false) := by
  constructor
  · intro h
    refine ⟨fun hask => hask.not_passesMarker h, fun hsome => ?_⟩
    obtain ⟨v, hv⟩ := Option.isSome_iff_exists.mp hsome
    exact (h v hv).2
  · rintro ⟨hno, hstrict⟩ v hv
    exact ⟨fun hm => hno ⟨v, hv, hm⟩, hstrict (hv ▸ rfl)⟩

theorem events_classify_passed (h : g.PassesMarker hs) : Effect.events (g.classify hs).trace
    = (if (hs.get? g.markerHeader).isSome then [.markerIgnored] else [])
      ++ Effect.events (classify.basic hs).trace := by
  rw [classify_passed h]
  cases hs.get? g.markerHeader with
  | none => rfl
  | some v => rfl

theorem head?_lines_of_marker (hno : ¬ g.AsksSession hs)
    (hm : (hs.get? g.markerHeader).isSome = true) (cache : Cache) (authority : Authority) :
    ∃ e : Event, (g.lines cache authority hs).head? = some (e.level, e.message)
      ∧ (e = .markerRejected ∨ e = .markerIgnored) := by
  by_cases hpass : g.PassesMarker hs
  · refine ⟨.markerIgnored, ?_, .inr rfl⟩
    apply head?_lines
    rw [events_classify_passed hpass, if_pos hm]
    rfl
  · have hfirst : Effect.events (g.classify hs).trace = [.markerRejected] := by
      rw [classify_rejected hno hpass]
      rfl
    exact ⟨.markerRejected, head?_lines hfirst, .inl rfl⟩

/-- **The log tells whether the marker asks for a session.** -/
theorem lines_ne_of_asks (h₁ : g.AsksSession hs₁) (h₂ : ¬ g.AsksSession hs₂)
    (hm : (hs₂.get? g.markerHeader).isSome = true) :
    g.lines cache a₁ hs₁ ≠ g.lines cache a₂ hs₂ := by
  intro heq
  -- the first lines differ already, whatever comes after them
  obtain ⟨e₁, hhead₁, he₁⟩ := head?_lines_of_asks h₁ cache a₁
  obtain ⟨e₂, hhead₂, he₂⟩ := head?_lines_of_marker h₂ hm cache a₂
  rw [heq, hhead₂, Option.some.injEq, Prod.mk.injEq] at hhead₁
  have hmessage : e₂.message = e₁.message := hhead₁.2
  rcases he₁ with rfl | ⟨hit, rfl⟩
  · rcases he₂ with rfl | rfl
    · exact absurd hmessage (by decide)
    · exact absurd hmessage (by decide)
  · rcases he₂ with rfl | rfl
    · cases hit <;> exact absurd hmessage (by decide)
    · cases hit <;> exact absurd hmessage (by decide)

/-! ## An authorization value -/

theorem events_basic {v : Header.Value} (h : hs.get? .authorization = some v) :
    Effect.events (classify.basic hs).trace = Effect.events (Basic.parse v).trace := by
  unfold classify.basic
  rw [h]
  dsimp only
  rw [Traced.trace_bind, Effect.events_append]
  split <;> simp

theorem value_basic_of_error {v : Header.Value} {r : Refusal}
    (h : hs.get? .authorization = some v) (hp : (Basic.parse v).value = .error r) :
    (classify.basic hs).value = .error r := by
  unfold classify.basic
  rw [h]
  dsimp only
  rw [Traced.value_bind, hp]
  rfl

/-- Two requests are the same but for a secret. With a session and a password nothing is to
be seen of it; of other credentials there is what is exposed. -/
inductive AlikeButSecret (hs₁ hs₂ : Headers) : List Char → List Char → Prop
  | session (h : hs₁.AlikeBut .cookie hs₂) : AlikeButSecret hs₁ hs₂ [] []
  | password {v₁ v₂ : Header.Value} {user password₁ password₂ : String}
      (h : hs₁.AlikeBut .authorization hs₂)
      (h₁ : hs₁.get? .authorization = some v₁) (h₂ : hs₂.get? .authorization = some v₂)
      (hp₁ : Basic.Spells v₁ user password₁) (hp₂ : Basic.Spells v₂ user password₂) :
    AlikeButSecret hs₁ hs₂ [] []
  | credentials {v₁ v₂ : Header.Value} {scheme separator credentials₁ credentials₂ : List Char}
      (h : hs₁.AlikeBut .authorization hs₂)
      (h₁ : hs₁.get? .authorization = some v₁) (h₂ : hs₂.get? .authorization = some v₂)
      (hp₁ : Basic.Parted v₁ scheme separator credentials₁)
      (hp₂ : Basic.Parted v₂ scheme separator credentials₂)
      (hno₁ : ∀ user password, ¬ Basic.Spells v₁ user password)
      (hno₂ : ∀ user password, ¬ Basic.Spells v₂ user password) :
    AlikeButSecret hs₁ hs₂ (Basic.exposed v₁ separator credentials₁)
      (Basic.exposed v₂ separator credentials₂)

namespace AlikeButSecret

variable {shown₁ shown₂ : List Char}

theorem isSome_get? (h : AlikeButSecret hs₁ hs₂ shown₁ shown₂) (n : Header.Name) :
    (hs₁.get? n).isSome = (hs₂.get? n).isSome := by
  cases h with
  | session h => exact h.isSome_get? n
  | password h => exact h.isSome_get? n
  | credentials h => exact h.isSome_get? n

/-- Unless the marker stands where the secret stands, both requests ask for the same. -/
theorem asksSession_iff (h : AlikeButSecret hs₁ hs₂ shown₁ shown₂)
    (hcookie : g.markerHeader ≠ .cookie) (hauth : g.markerHeader ≠ .authorization) :
    g.AsksSession hs₁ ↔ g.AsksSession hs₂ := by
  have hmarker : hs₁.get? g.markerHeader = hs₂.get? g.markerHeader := by
    cases h with
    | session h => exact h.get? hcookie
    | password h => exact h.get? hauth
    | credentials h => exact h.get? hauth
  rw [AsksSession, AsksSession, hmarker]

end AlikeButSecret

/-- The line about a scheme has the scheme in it. -/
theorem schemeUnsupported_injective {cs ds : List Char}
    (h : (Event.schemeUnsupported (String.ofList cs)).message
      = (Event.schemeUnsupported (String.ofList ds)).message) : cs = ds := by
  have hmessage : ∀ scheme, (Event.schemeUnsupported scheme).message
      = "Unsupported authorization scheme: " ++ scheme := fun _ => rfl
  rw [hmessage, hmessage] at h
  have hlist := congrArg String.toList h
  rw [String.toList_append, String.toList_append, List.append_cancel_left_eq] at hlist
  simpa using hlist

/-- What is exposed is told, and nothing else. -/
theorem lines_eq_iff_of_credentials {v₁ v₂ : Header.Value}
    {scheme separator credentials₁ credentials₂ : List Char}
    (hpass₁ : g.PassesMarker hs₁) (hpass₂ : g.PassesMarker hs₂)
    (hm : (hs₁.get? g.markerHeader).isSome = (hs₂.get? g.markerHeader).isSome)
    (h₁ : hs₁.get? .authorization = some v₁) (h₂ : hs₂.get? .authorization = some v₂)
    (hp₁ : Basic.Parted v₁ scheme separator credentials₁)
    (hp₂ : Basic.Parted v₂ scheme separator credentials₂)
    (hno₁ : ∀ user password, ¬ Basic.Spells v₁ user password)
    (hno₂ : ∀ user password, ¬ Basic.Spells v₂ user password)
    (hv : (g.authenticate cache a₁ hs₁).value = (g.authenticate cache a₂ hs₂).value) :
    g.lines cache a₁ hs₁ = g.lines cache a₂ hs₂ ↔
      Basic.exposed v₁ separator credentials₁ = Basic.exposed v₂ separator credentials₂ := by
  have hrefused : ∀ {hs : Headers} {v : Header.Value} {r : Refusal}, g.PassesMarker hs →
      hs.get? .authorization = some v → (Basic.parse v).value = .error r →
      (g.classify hs).value = .error r := by
    intro hs v r hpass h hr
    rw [value_classify_passed hpass, value_basic_of_error h hr]
  rcases hp₁.parse hno₁ with ⟨hr₁, he₁, hx₁⟩ | ⟨hr₁, he₁⟩
  · have hc₁ := hrefused hpass₁ h₁ hr₁
    rcases hp₂.parse hno₂ with ⟨hr₂, he₂, hx₂⟩ | ⟨hr₂, he₂⟩
    · have hc₂ := hrefused hpass₂ h₂ hr₂
      refine iff_of_true ?_ (hx₁.trans hx₂.symm)
      rw [lines_refused hc₁, lines_refused hc₂, events_classify_passed hpass₁,
        events_classify_passed hpass₂, events_basic h₁, events_basic h₂, he₁, he₂, hm]
    · rw [authenticate_refused hc₁, authenticate_refused (hrefused hpass₂ h₂ hr₂)] at hv
      cases hv
  · have hc₁ := hrefused hpass₁ h₁ hr₁
    rcases hp₂.parse hno₂ with ⟨hr₂, he₂, hx₂⟩ | ⟨hr₂, he₂⟩
    · rw [authenticate_refused hc₁, authenticate_refused (hrefused hpass₂ h₂ hr₂)] at hv
      cases hv
    · have hc₂ := hrefused hpass₂ h₂ hr₂
      rw [lines_refused hc₁, lines_refused hc₂, events_classify_passed hpass₁,
        events_classify_passed hpass₂, events_basic h₁, events_basic h₂, he₁, he₂, hm,
        List.map_append, List.map_append, List.append_cancel_left_eq]
      constructor
      · intro h
        have hmessage := (Prod.mk.inj (List.cons.inj h).1).2
        exact List.append_cancel_left (schemeUnsupported_injective hmessage)
      · intro h
        rw [h]

/-! ## All secrets -/

/-- Two requests that do not ask for a session. -/
theorem AlikeButSecret.lines_eq_iff_of_not_asks {shown₁ shown₂ : List Char}
    (h : AlikeButSecret hs₁ hs₂ shown₁ shown₂) (hno₁ : ¬ g.AsksSession hs₁)
    (hno₂ : ¬ g.AsksSession hs₂)
    (hv : (g.authenticate cache a₁ hs₁).value = (g.authenticate cache a₂ hs₂).value)
    (ha : g.answers cache a₁ hs₁ = g.answers cache a₂ hs₂) :
    g.lines cache a₁ hs₁ = g.lines cache a₂ hs₂ ↔ (g.PassesMarker hs₁ → shown₁ = shown₂) := by
  -- neither asks for a session, so both pass the marker or neither does
  have hm := h.isSome_get? g.markerHeader
  have hpass : g.PassesMarker hs₁ ↔ g.PassesMarker hs₂ := by
    rw [passesMarker_iff, passesMarker_iff, hm]
    exact and_congr_left' (iff_of_true hno₁ hno₂)
  by_cases hpass₁ : g.PassesMarker hs₁
  · have hpass₂ := hpass.mp hpass₁
    cases h with
    | session h =>
      refine iff_of_true (lines_of_classify_eq ?_ hv ha) fun _ => rfl
      have hbasic : classify.basic hs₁ = classify.basic hs₂ := by
        rw [classify.basic, classify.basic, h.get? (n := .authorization) (by decide)]
      rw [classify_passed hpass₁, classify_passed hpass₂, hbasic]
      cases hget₁ : hs₁.get? g.markerHeader with
      | none =>
        cases hget₂ : hs₂.get? g.markerHeader with
        | none => rfl
        | some v => rw [hget₁, hget₂] at hm; cases hm
      | some v =>
        cases hget₂ : hs₂.get? g.markerHeader with
        | none => rw [hget₁, hget₂] at hm; cases hm
        | some w => rfl
    | @password v₁ v₂ user password₁ password₂ h h₁ h₂ hp₁ hp₂ =>
      refine iff_of_true ?_ fun _ => rfl
      have hc₁ : (g.classify hs₁).value = .ok (.password user password₁) :=
        classify_eq_ok_iff.mpr ⟨hpass₁, v₁, h₁, hp₁⟩
      have hc₂ : (g.classify hs₂).value = .ok (.password user password₂) :=
        classify_eq_ok_iff.mpr ⟨hpass₂, v₂, h₂, hp₂⟩
      refine lines_of_alike hc₁ hc₂ (.password user password₁ password₂) ?_ hv ha
      rw [events_classify_passed hpass₁, events_classify_passed hpass₂, events_basic h₁,
        events_basic h₂, Basic.events_parse_of_spells hp₁, Basic.events_parse_of_spells hp₂, hm]
    | credentials h h₁ h₂ hp₁ hp₂ hspells₁ hspells₂ =>
      rw [lines_eq_iff_of_credentials hpass₁ hpass₂ hm h₁ h₂ hp₁ hp₂ hspells₁ hspells₂ hv]
      exact ⟨fun heq _ => heq, fun heq => heq hpass₁⟩
  · refine iff_of_true ?_ fun hp => absurd hp hpass₁
    have hpass₂ : ¬ g.PassesMarker hs₂ := fun hp => hpass₁ (hpass.mpr hp)
    exact lines_of_classify_eq
      ((classify_rejected hno₁ hpass₁).trans (classify_rejected hno₂ hpass₂).symm) hv ha

/-- **What the log tells of a secret.** Two requests that are the same but for a secret, with
the same result and the same answers of the authority, leave the same log lines if and only if
the marker asks both for the same and, where the authorization value is read, nothing different
is exposed in it. -/
theorem lines_eq_iff {settings : Settings} {g : Gate} (hg : (ofSettings settings).value = .ok g)
    (cache : Cache) (a₁ a₂ : Authority) {hs₁ hs₂ : Headers} {shown₁ shown₂ : List Char}
    (h : AlikeButSecret hs₁ hs₂ shown₁ shown₂)
    (hv : (g.authenticate cache a₁ hs₁).value = (g.authenticate cache a₂ hs₂).value)
    (ha : g.answers cache a₁ hs₁ = g.answers cache a₂ hs₂) :
    g.Configured settings ∧
      (g.lines cache a₁ hs₁ = g.lines cache a₂ hs₂ ↔
        (g.AsksSession hs₁ ↔ g.AsksSession hs₂) ∧ (g.PassesMarker hs₁ → shown₁ = shown₂)) ∧
      (g.markerHeader ≠ .cookie → g.markerHeader ≠ .authorization →
        (g.AsksSession hs₁ ↔ g.AsksSession hs₂)) := by
  refine ⟨(ofSettings_eq_ok_iff.mp hg).2, ?_, h.asksSession_iff⟩
  have hm := h.isSome_get? g.markerHeader
  have hsome : ∀ {hs}, g.AsksSession hs → (hs.get? g.markerHeader).isSome = true := by
    rintro hs ⟨v, hget, -⟩
    rw [hget]
    rfl
  by_cases hask₁ : g.AsksSession hs₁
  · by_cases hask₂ : g.AsksSession hs₂
    -- no authorization value is read where a session is asked for
    · refine iff_of_true (lines_of_asks hask₁ hask₂ hv ha) ⟨iff_of_true hask₁ hask₂, ?_⟩
      exact fun hp => absurd hp hask₁.not_passesMarker
    · refine iff_of_false (lines_ne_of_asks hask₁ hask₂ (hm ▸ hsome hask₁)) ?_
      exact fun hsame => hask₂ (hsame.1.mp hask₁)
  · by_cases hask₂ : g.AsksSession hs₂
    · refine iff_of_false (lines_ne_of_asks hask₂ hask₁ (hm.symm ▸ hsome hask₂)).symm ?_
      exact fun hsame => hask₁ (hsame.1.mpr hask₂)
    · rw [h.lines_eq_iff_of_not_asks hask₁ hask₂ hv ha]
      exact ⟨fun heq => ⟨iff_of_false hask₁ hask₂, heq⟩, fun heq => heq.2⟩

/-- A request with an authorization value. -/
def authorized (v : Header.Value) : Headers := [(.authorization, v)]

/-- Values of another scheme, with a space before their credentials. -/
def spaced₁ : Header.Value := ⟨Utf8.encode "Bearer abc", by decide⟩
def spaced₂ : Header.Value := ⟨Utf8.encode "Bearer xyz", by decide⟩

/-- The same with a tab. -/
def tabbed₁ : Header.Value := ⟨Utf8.encode "Bearer\tabc", by decide⟩
def tabbed₂ : Header.Value := ⟨Utf8.encode "Bearer\txyz", by decide⟩

theorem alikeButSecret_authorized {v₁ v₂ : Header.Value}
    {scheme separator credentials₁ credentials₂ : List Char}
    (hp₁ : Basic.Parted v₁ scheme separator credentials₁)
    (hp₂ : Basic.Parted v₂ scheme separator credentials₂)
    (hr₁ : (Basic.parse v₁).value = .error .noCredentials)
    (hr₂ : (Basic.parse v₂).value = .error .noCredentials) :
    AlikeButSecret (authorized v₁) (authorized v₂)
      (Basic.exposed v₁ separator credentials₁) (Basic.exposed v₂ separator credentials₂) := by
  have hno : ∀ {v : Header.Value}, (Basic.parse v).value = .error .noCredentials →
      ∀ user password, ¬ Basic.Spells v user password := by
    intro v hr user password hspells
    rw [Basic.parse_eq_ok_iff.mpr hspells] at hr
    cases hr
  refine .credentials ⟨rfl, ?_⟩ rfl rfl hp₁ hp₂ (hno hr₁) (hno hr₂)
  intro n hn
  simp [authorized, Headers.getAll, hn.symm]

/-- Credentials behind a space are not told, and behind a tab they are. -/
theorem lines_tabbed :
    (ofSettings loopbackSettings).value = .ok loopback ∧
      loopback.lines Cache.empty unreachable (authorized spaced₁)
        = loopback.lines Cache.empty unreachable (authorized spaced₂) ∧
      loopback.lines Cache.empty unreachable (authorized tabbed₁)
        ≠ loopback.lines Cache.empty unreachable (authorized tabbed₂) := by
  have hsolid : ∀ c ∈ "Bearer".toList, Text.isBlank c = false := by simp [Text.isBlank]
  have hspace : Basic.Blank [' '] := by simp [Basic.Blank, Text.isBlank]
  have htab : Basic.Blank ['\t'] := by simp [Basic.Blank, Text.isBlank]
  have hs₁ : Basic.Parted spaced₁ "Bearer".toList [' '] "abc".toList :=
    ⟨by decide, by decide, hsolid, by decide, hspace, 'a', rfl, by decide⟩
  have hs₂ : Basic.Parted spaced₂ "Bearer".toList [' '] "xyz".toList :=
    ⟨by decide, by decide, hsolid, by decide, hspace, 'x', rfl, by decide⟩
  have ht₁ : Basic.Parted tabbed₁ "Bearer".toList ['\t'] "abc".toList :=
    ⟨by decide, by decide, hsolid, by decide, htab, 'a', rfl, by decide⟩
  have ht₂ : Basic.Parted tabbed₂ "Bearer".toList ['\t'] "xyz".toList :=
    ⟨by decide, by decide, hsolid, by decide, htab, 'x', rfl, by decide⟩
  have hspaced : AlikeButSecret (authorized spaced₁) (authorized spaced₂) [] [] :=
    alikeButSecret_authorized hs₁ hs₂ rfl rfl
  have htabbed : AlikeButSecret (authorized tabbed₁) (authorized tabbed₂)
      "abc".toList "xyz".toList := alikeButSecret_authorized ht₁ ht₂ rfl rfl
  have hpass : ∀ v, loopback.PassesMarker (authorized v) := by
    intro v w hw
    cases hw
  have hnone : ∀ v, ¬ loopback.AsksSession (authorized v) :=
    fun v hask => hask.not_passesMarker (hpass v)
  refine ⟨ofSettings_loopback, ?_, ?_⟩
  · apply (lines_eq_iff ofSettings_loopback Cache.empty unreachable unreachable hspaced rfl
      rfl).2.1.mpr
    exact ⟨iff_of_false (hnone spaced₁) (hnone spaced₂), fun _ => rfl⟩
  · intro heq
    have htold := (lines_eq_iff ofSettings_loopback Cache.empty unreachable unreachable htabbed
      rfl rfl).2.1.mp heq
    exact absurd (htold.2 (hpass tabbed₁)) (by decide)

end Gate

end Gatehouse
