import Gatehouse.Gate
import Gatehouse.Proofs.Basic

/-!
# What a request presents to a gate

A request is to be known by one credential, or by none. `Gate.Presents` says which, in terms
of the headers alone: the marker decides whether the session cookie counts or the
authorization value. `classify_eq_ok_iff` says that a gate takes a request by that credential
and by no other, and refuses it when it presents none.

The three cases of the marker are `classify_session`, `classify_rejected` and
`classify_passed`; a statement about what a gate logs while it looks at a request splits on
them.
-/

set_option autoImplicit false

namespace Gatehouse

namespace Gate

/-! ## What a gate is made from -/

/-- The gate is the one that the settings describe. -/
structure Configured (g : Gate) (s : Settings) : Prop where
  markerHeader : Header.Name.parse s.session.markerHeader = some g.markerHeader
  markerValue : g.markerValue = s.session.markerValue
  cookieName : g.cookieName = s.session.cookieName
  strict : g.strict = s.strictSessionMarker
  refresh : g.refresh = s.refresh
  url : Address.parse s.verifyUrl = .ok g.verifier.url

/-- **Settings make the gate that they describe**, if they can be used at all. -/
theorem ofSettings_eq_ok_iff {s : Settings} {g : Gate} :
    (ofSettings s).value = .ok g ↔ s.validate = .ok () ∧ g.Configured s := by
  unfold ofSettings
  cases hv : s.validate with
  | error fault =>
    refine iff_of_false (fun h => ?_) (fun h => ?_)
    · cases h
    · cases h.1
  -- the checks have been passed, and two names are still to be read
  | ok checked =>
    dsimp only
    cases hn : Header.Name.parse s.session.markerHeader with
    | none =>
      refine iff_of_false (fun h => ?_) (fun h => ?_)
      · cases h
      · exact absurd (hn.symm.trans h.2.markerHeader) (by simp)
    | some name =>
      dsimp only
      rw [Traced.value_bind, Verifier.new]
      cases ha : Address.parse s.verifyUrl with
      | error fault =>
        refine iff_of_false (fun h => ?_) (fun h => ?_)
        · cases fault <;> cases h
        · exact absurd (ha.symm.trans h.2.url) (by simp)
      | ok url =>
        simp only [Traced.value_bind, Traced.value_pure, Except.ok.injEq, true_and]
        constructor
        · rintro rfl
          exact ⟨hn, rfl, rfl, rfl, rfl, ha⟩
        · rintro ⟨hname, hvalue, hcookie, hstrict, hrefresh, hurl⟩
          obtain ⟨⟨url'⟩, name', value', cookie', strict', refresh'⟩ := g
          obtain rfl := Option.some.inj (hn.symm.trans hname)
          obtain rfl := Except.ok.inj (ha.symm.trans hurl)
          simp only at hvalue hcookie hstrict hrefresh
          rw [hvalue, hcookie, hstrict, hrefresh]

/-- Default settings, with the authority on the same machine. -/
def loopbackSettings : Settings := { verifyUrl := "http://[::]/" }

/-- The gate that they make. -/
def loopback : Gate where
  verifier := ⟨"http://[::]/"⟩
  markerHeader := ⟨"ns_server-ui"⟩
  markerValue := "yes"
  cookieName := "ui-auth-q"
  strict := false
  refresh := none

theorem parse_loopbackUrl : Url.parse "http://[::]/" = .ok (.web
    ⟨"http", [], [], .ipv6 (List.replicate 8 0), none, [[]], none, none⟩) := by
  have hs : Url.splitScheme (Url.relevant "http://[::]/")
      = some ("http".toList, "//[::]/".toList) := by decide
  have hu : Url.splitUserinfo true "[::]/".toList = .ok ([], [], "[::]/".toList) := rfl
  have hh : Url.splitHost true false "[::]/".toList = ("[::]".toList, "/".toList) := rfl
  have hp : Url.splitPort "/".toList = .ok (none, "/".toList) := rfl
  have hpieces : Url.Ipv6.parse "::".toList = .ok (List.replicate 8 0) := by
    simp [Url.Ipv6.parse, Url.Ipv6.pieces]
  have hhost : Url.Host.parse "[::]".toList = .ok (.ipv6 (List.replicate 8 0)) := by
    unfold Url.Host.parse Url.Host.bracketed
    rw [if_pos (by decide), if_pos (by decide)]
    exact congrArg (Except.map Url.Host.ipv6) hpieces
  unfold Url.parse
  rw [hs]
  show Url.parseWeb "http" 80 "[::]/".toList = _
  unfold Url.parseWeb
  rw [hu]
  simp only [bind, Except.bind, hh]
  rw [if_neg (by decide)]
  simp only [pure, Except.pure, hhost, hp]
  rfl

theorem ofSettings_loopback : (ofSettings loopbackSettings).value = .ok loopback := by
  have hname : Header.Name.parse "ns_server-ui" = some ⟨"ns_server-ui"⟩ := by decide
  have hurl : Address.parse "http://[::]/" = .ok "http://[::]/" := by
    rw [Address.parse, parse_loopbackUrl]
    rfl
  refine ofSettings_eq_ok_iff.mpr ⟨?_, hname, rfl, rfl, rfl, rfl, hurl⟩
  unfold Settings.validate Settings.checkUrl loopbackSettings
  simp only [parse_loopbackUrl, hname]
  rfl

/-! ## The marker -/

/-- The first marker has the agreed value. -/
def AsksSession (g : Gate) (hs : Headers) : Prop :=
  ∃ v, hs.get? g.markerHeader = some v ∧ v.bytes = Utf8.encode g.markerValue

/-- There is no marker, or one of another value that does not count. -/
def PassesMarker (g : Gate) (hs : Headers) : Prop :=
  ∀ v, hs.get? g.markerHeader = some v → v.bytes ≠ Utf8.encode g.markerValue ∧ g.strict = false

/-- The credential that a request is to be known by. -/
def Presents (g : Gate) (hs : Headers) : Credential → Prop
  | .token token =>
    g.AsksSession hs ∧ Cookie.find? hs g.cookieName = some token ∧ token ≠ ""
  | .password user password =>
    g.PassesMarker hs ∧ ∃ v, hs.get? .authorization = some v ∧ Basic.Spells v user password

variable {g : Gate} {hs : Headers}

/-- Without a marker there is nothing to refuse. -/
theorem passesMarker_of_none (h : hs.get? g.markerHeader = none) : g.PassesMarker hs := by
  intro v hv
  rw [h] at hv
  cases hv

/-- Without a marker, the header that is written for a user and a password presents them. -/
theorem presents_header {user : String} (hcolon : ':' ∉ user.toList)
    (hmarker : hs.get? g.markerHeader = none) {password : String}
    (hv : hs.get? .authorization = some (Basic.header user password)) :
    g.Presents hs (.password user password) :=
  ⟨passesMarker_of_none hmarker, _, hv, Basic.spells_header hcolon password⟩

theorem AsksSession.not_passesMarker (h : g.AsksSession hs) : ¬ g.PassesMarker hs := by
  obtain ⟨v, hv, hm⟩ := h
  intro hp
  exact (hp v hv).1 hm

/-! ## Classification -/

theorem classify_session (h : g.AsksSession hs) :
    g.classify hs = match Cookie.find? hs g.cookieName with
      | none => classify.noSession
      | some token => if token = "" then classify.noSession else pure (.ok (.token token)) := by
  obtain ⟨v, hv, hm⟩ := h
  unfold classify
  rw [hv]
  exact if_pos hm

/-- Without a session, nobody. -/
theorem classify_sessionless (hask : g.AsksSession hs)
    (h : Cookie.find? hs g.cookieName = none ∨ Cookie.find? hs g.cookieName = some "") :
    (g.classify hs).value = .error .unauthorized := by
  rw [classify_session hask]
  rcases h with h | h
  · rw [h]
    rfl
  · rw [h]
    rfl

theorem classify_rejected (h : ¬ g.AsksSession hs) (hp : ¬ g.PassesMarker hs) :
    g.classify hs = { value := .error .unauthorized, trace := [.log .markerRejected] } := by
  unfold classify
  cases hv : hs.get? g.markerHeader with
  | none => exact absurd (passesMarker_of_none hv) hp
  | some v =>
    have hne : ¬ v.bytes = Utf8.encode g.markerValue := fun hm => h ⟨v, hv, hm⟩
    have hstrict : g.strict = true := by
      cases hs' : g.strict with
      | true => rfl
      | false =>
        refine absurd (fun w hw => ?_) hp
        rw [hv, Option.some.injEq] at hw
        exact ⟨hw ▸ hne, hs'⟩
    simp only [hne, hstrict, if_true, if_false]
    rfl

theorem classify_passed (h : g.PassesMarker hs) :
    g.classify hs = (match hs.get? g.markerHeader with
      | none => classify.basic hs
      | some _ => Traced.log .markerIgnored >>= fun _ => classify.basic hs) := by
  unfold classify
  cases hv : hs.get? g.markerHeader with
  | none => rfl
  | some v =>
    obtain ⟨hne, hstrict⟩ := h v hv
    simp [hne, hstrict]

theorem value_classify_passed (h : g.PassesMarker hs) :
    (g.classify hs).value = (classify.basic hs).value := by
  rw [classify_passed h]
  cases hs.get? g.markerHeader with
  | none => rfl
  | some v => rfl

theorem basic_eq_ok_iff {c : Credential} : (classify.basic hs).value = .ok c ↔
    ∃ user password v, c = .password user password ∧ hs.get? .authorization = some v
      ∧ Basic.Spells v user password := by
  unfold classify.basic
  cases hv : hs.get? .authorization with
  | none => simp
  | some v =>
    simp only [Traced.value_bind, Option.some.injEq]
    cases hp : (Basic.parse v).value with
    | error refusal =>
      constructor
      · intro h; cases h
      · rintro ⟨user, password, w, -, rfl, hw⟩
        rw [Basic.parse_eq_ok_iff.mpr hw] at hp
        cases hp
    | ok pair =>
      obtain ⟨user, password⟩ := pair
      have hspells := Basic.parse_eq_ok_iff.mp hp
      constructor
      · intro h
        obtain rfl := Except.ok.inj h
        exact ⟨user, password, v, rfl, rfl, hspells⟩
      · rintro ⟨user', password', w, rfl, rfl, hw⟩
        obtain ⟨rfl, rfl⟩ := hspells.unique hw
        rfl

/-- **What a request presents is what the gate takes it to present.** -/
theorem classify_eq_ok_iff {c : Credential} :
    (g.classify hs).value = .ok c ↔ g.Presents hs c := by
  -- the three cases of the marker, and in each both kinds of credential
  by_cases hask : g.AsksSession hs
  · rw [classify_session hask]
    cases c with
    | token token =>
      cases hf : Cookie.find? hs g.cookieName with
      | none => simp [Presents, hf, classify.noSession]
      | some found =>
        by_cases hempty : found = ""
        · simp only [Presents, hf, hempty, if_true, classify.noSession, Traced.value_bind,
            Traced.value_pure, reduceCtorEq, Option.some.injEq, false_iff, not_and]
          intro _ he
          exact fun hne => hne he.symm
        · simp only [Presents, hf, hempty, if_false, Traced.value_pure, Except.ok.injEq,
            Credential.token.injEq, Option.some.injEq]
          constructor
          · rintro rfl
            exact ⟨hask, rfl, hempty⟩
          · exact fun h => h.2.1
    | password user password =>
      have hno : ¬ g.Presents hs (.password user password) :=
        fun h => hask.not_passesMarker h.1
      refine iff_of_false ?_ hno
      cases Cookie.find? hs g.cookieName with
      | none => simp [classify.noSession]
      | some found =>
        by_cases hempty : found = ""
        · simp [hempty, classify.noSession]
        · simp [hempty]
  · by_cases hpass : g.PassesMarker hs
    · rw [value_classify_passed hpass, basic_eq_ok_iff]
      cases c with
      | token token => simp [Presents, hask]
      | password user password =>
        simp only [Presents, hpass, true_and]
        constructor
        · rintro ⟨_, _, v, hc, hv, hs⟩
          obtain ⟨rfl, rfl⟩ := Credential.password.inj hc
          exact ⟨v, hv, hs⟩
        · rintro ⟨v, hv, hs⟩
          exact ⟨user, password, v, rfl, hv, hs⟩
    · rw [classify_rejected hask hpass]
      cases c with
      | token token => simp [Presents, hask]
      | password user password => simp [Presents, hpass]

/-- A request presents at most one credential. -/
theorem Presents.unique {c c' : Credential} (h : g.Presents hs c) (h' : g.Presents hs c') :
    c = c' :=
  Except.ok.inj ((classify_eq_ok_iff.mpr h).symm.trans (classify_eq_ok_iff.mpr h'))

end Gate

end Gatehouse
