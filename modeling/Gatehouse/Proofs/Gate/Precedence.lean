import Gatehouse.Proofs.Gate.Disturbance
import Gatehouse.Proofs.Gate.Failures
import Gatehouse.Proofs.Gate.Relevance
import Gatehouse.Proofs.Gate.Usable

/-!
# The marker comes first

A request may have a marker, cookies and an authorization value at once, and they may speak for
different people. The marker settles which of them is heard:

> with the agreed marker no authorization value counts, without a marker no cookie does, and
> another marker ends the request or is as good as none (`Gate.precedence`).

Each of these is about two requests that differ in what is not heard, so nothing of it can reach
the result, the authority or the counters. Whether the gate is strict matters for another marker
alone.

The marker's header is one of several names for the same header, which differ in the case of their
letters. Settings may use any of them (`Header.Name.parse_congr`).
-/

set_option autoImplicit false

namespace Gatehouse

/-! ## Names in any case -/

namespace Header.Name

/-- The character of a byte, in lowercase. -/
def lowered (b : UInt8) : Char := (Char.ofNat b.toNat).toLower

/-- Case is a matter of ASCII letters, and these are single bytes. -/
theorem map_lowered_toLower (c : Char) : (String.utf8EncodeChar c.toLower).map lowered
    = (String.utf8EncodeChar c).map lowered := by
  by_cases hascii : c.toNat < 128
  · have all : ∀ n : Fin 128, (String.utf8EncodeChar (Char.ofNat n.val).toLower).map lowered
        = (String.utf8EncodeChar (Char.ofNat n.val)).map lowered := by decide
    have hc := all ⟨c.toNat, hascii⟩
    rwa [Char.ofNat_toNat] at hc
  · have hsame : c.toLower = c := by
      unfold Char.toLower
      rw [dif_neg]
      intro hupper
      have hz : c.toNat ≤ 90 := UInt32.le_iff_toNat_le.mp hupper.2
      exact hascii (Nat.lt_of_le_of_lt hz (by decide))
    rw [hsame]

theorem map_lowered_flatMap (cs : List Char) :
    ((cs.map Char.toLower).flatMap String.utf8EncodeChar).map lowered
      = (cs.flatMap String.utf8EncodeChar).map lowered := by
  induction cs with
  | nil => rfl
  | cons c cs ih =>
    rw [List.map_cons, List.flatMap_cons, List.flatMap_cons, List.map_append, List.map_append,
      map_lowered_toLower, ih]

theorem parse_toLower (s : String) : parse s.toLower = parse s := by
  have hencode : ∀ t : String, Utf8.encode t = t.toList.flatMap String.utf8EncodeChar := by
    intro t
    rw [← Utf8.encode_ofList, String.ofList_toList]
  have hchars : s.toLower.toList = s.toList.map Char.toLower := String.toList_map
  have hlower : (Utf8.encode s.toLower).map lowered = (Utf8.encode s).map lowered := by
    rw [hencode, hencode, hchars, map_lowered_flatMap]
  unfold parse ofBytes?
  unfold lowered at hlower
  rw [hlower]

/-- **A name is read without regard to case.** -/
theorem parse_congr {a b : String} (h : a.toLower = b.toLower) : parse a = parse b := by
  rw [← parse_toLower a, h, parse_toLower]

end Header.Name

/-! ## Settings that differ in the marker -/

namespace Gate

variable {s : Settings} {g : Gate} {hs hs' : Headers}

/-- Strictness is a setting of its own. -/
theorem ofSettings_strict (hg : (ofSettings s).value = .ok g) (strict : Bool) :
    (ofSettings { s with strictSessionMarker := strict }).value = .ok { g with strict } := by
  obtain ⟨hvalid, hconfigured⟩ := ofSettings_eq_ok_iff.mp hg
  refine ofSettings_eq_ok_iff.mpr ⟨hvalid, ?_⟩
  exact ⟨hconfigured.markerHeader, hconfigured.markerValue, hconfigured.cookieName, rfl,
    hconfigured.refresh, hconfigured.url⟩

/-- The marker's name may be spelled in any case. -/
theorem ofSettings_spelling (hg : (ofSettings s).value = .ok g) {name : String}
    (h : name.toLower = s.session.markerHeader.toLower) :
    ofSettings { s with session := { s.session with markerHeader := name } } = ofSettings s := by
  obtain ⟨hvalid, hconfigured⟩ := ofSettings_eq_ok_iff.mp hg
  have hname := Header.Name.parse_congr h
  obtain ⟨hurl, hrefresh, -, hcookie⟩ := Settings.validate_eq_ok_iff.mp hvalid
  have hvalid' : Settings.validate
      { s with session := { s.session with markerHeader := name } } = .ok () :=
    Settings.validate_eq_ok_iff.mpr
      ⟨hurl, hrefresh, ⟨_, hname.trans hconfigured.markerHeader⟩, hcookie⟩
  unfold ofSettings
  rw [hvalid, hvalid']
  dsimp only
  rw [hname, hconfigured.markerHeader]

/-! ## What is not heard -/

/-- The first marker has another value than the agreed one. -/
def MarkedOtherwise (g : Gate) (hs : Headers) : Prop :=
  ∃ v, hs.get? g.markerHeader = some v ∧ v.bytes ≠ Utf8.encode g.markerValue

end Gate

/-- The headers without those of a name. -/
def Headers.without (hs : Headers) (name : Header.Name) : Headers := hs.filter fun h => h.1 ≠ name

namespace Headers

theorem getAll_without_self (hs : Headers) (name : Header.Name) :
    (hs.without name).getAll name = [] := by
  rw [getAll, without, List.filter_filter, List.map_eq_nil_iff, List.filter_eq_nil_iff]
  simp

theorem getAll_without {name other : Header.Name} (h : other ≠ name) (hs : Headers) :
    (hs.without name).getAll other = hs.getAll other := by
  rw [getAll, getAll, without, List.filter_filter]
  congr 1
  apply List.filter_congr
  intro header _
  by_cases hother : header.1 = other
  · simp [hother, h]
  · simp [hother]

end Headers

namespace Gate

/-- What the marker decides, for all requests and whatever is in the cache. -/
structure Precedence (s : Settings) (g : Gate) : Prop where
  /-- There is a strict gate with these settings, and one that is not. -/
  strictness (strict : Bool) :
    (ofSettings { s with strictSessionMarker := strict }).value = .ok { g with strict }
  /-- With the marker's name in another case, the settings make the same gate. -/
  spelling {name : String} (h : name.toLower = s.session.markerHeader.toLower) :
    ofSettings { s with session := { s.session with markerHeader := name } } = ofSettings s
  /-- With the agreed marker, authorization values make no difference, nor does strictness, and
  somebody is always meant. -/
  agreed {hs hs' : Headers} (hask : g.AsksSession hs) (h : Headers.SameBut .authorization hs hs')
    (strict : Bool) (cache : Cache) (authority : Authority) :
    ({ g with strict }.authenticate cache authority hs').SameButLog
        (g.authenticate cache authority hs) ∧
      ({ g with strict }.authenticate cache authority hs').value ≠ .error .noCredentials
  /-- With another marker, a strict gate refuses the request and asks nobody, whatever else the
  request has. -/
  rejected {hs : Headers} (h : g.MarkedOtherwise hs) (cache : Cache) (authority : Authority) :
    ({ g with strict := true }.authenticate cache authority hs).value = .error .unauthorized ∧
      Effect.requests ({ g with strict := true }.authenticate cache authority hs).trace = []
  /-- And for one that is not, it is as if there were no marker at all. -/
  ignored {hs : Headers} (h : g.MarkedOtherwise hs) (cache : Cache) (authority : Authority) :
    ({ g with strict := false }.authenticate cache authority hs).SameButLog
      ({ g with strict := false }.authenticate cache authority (hs.without g.markerHeader))
  /-- Without a marker, cookies make no difference, nor does strictness. -/
  absent {hs hs' : Headers} (hnone : hs.get? g.markerHeader = none)
    (h : Headers.SameBut .cookie hs hs') (strict : Bool) (cache : Cache) (authority : Authority) :
    ({ g with strict }.authenticate cache authority hs').SameButLog
      (g.authenticate cache authority hs)

/-- **The marker comes first.** -/
theorem precedence {settings : Settings} {g : Gate} (hg : (ofSettings settings).value = .ok g)
    (hcookie : g.markerHeader ≠ .cookie) (hauth : g.markerHeader ≠ .authorization) :
    g.Configured settings ∧ Precedence settings g := by
  refine ⟨(ofSettings_eq_ok_iff.mp hg).2, ofSettings_strict hg, ofSettings_spelling hg,
    ?_, ?_, ?_, ?_⟩
  · intro hs hs' hask h strict cache authority
    have hmarker : hs'.get? g.markerHeader = hs.get? g.markerHeader :=
      congrArg List.head? (h _ hauth).symm
    have hcookies : hs'.getAll .cookie = hs.getAll .cookie := (h _ (by decide)).symm
    refine ⟨sameButLog_of_asks strict hask hmarker hcookies cache authority, ?_⟩
    intro hnobody
    obtain ⟨v, hv, hbytes⟩ := hask
    exact ((authenticate_eq_noCredentials_iff.mp hnobody).1 v (hmarker.trans hv)).1 hbytes
  · intro hs h cache authority
    obtain ⟨v, hv, hbytes⟩ := h
    have hask : ¬ { g with strict := true }.AsksSession hs := by
      rintro ⟨w, hw, hagreed⟩
      obtain rfl := Option.some.inj (hv.symm.trans hw)
      exact hbytes hagreed
    have hpass : ¬ { g with strict := true }.PassesMarker hs := fun hp => nomatch (hp v hv).2
    have hc : ({ g with strict := true }.classify hs).value = .error .unauthorized := by
      rw [classify_rejected hask hpass]
    exact ⟨by rw [authenticate_refused hc], requests_refused hc⟩
  · intro hs h cache authority
    obtain ⟨v, hv, hbytes⟩ := h
    have hpass : { g with strict := false }.PassesMarker hs := by
      intro w hw
      obtain rfl := Option.some.inj (hv.symm.trans hw)
      exact ⟨hbytes, rfl⟩
    have hnone : { g with strict := false }.PassesMarker (hs.without g.markerHeader) := by
      apply passesMarker_of_none
      rw [Headers.get?, Headers.getAll_without_self]
      rfl
    refine sameButLog_of_passes hnone hpass ?_ cache authority
    exact congrArg List.head? (Headers.getAll_without hauth.symm hs).symm
  · intro hs hs' hnone h strict cache authority
    have hnone' : hs'.get? g.markerHeader = none := by
      rw [Headers.get?, ← h _ hcookie]
      exact hnone
    have hpass' : { g with strict }.PassesMarker hs' := passesMarker_of_none hnone'
    refine sameButLog_of_passes (passesMarker_of_none hnone) hpass' ?_ cache authority
    exact congrArg List.head? (h .authorization (by decide)).symm

/-- A session request that has the authorization value of somebody else, too. -/
def doubled : Headers := (.authorization, shadowingHeader) :: withCookies [sessionCookie]

/-- The same cookies behind another marker. -/
def mismarked : Headers :=
  (loopback.markerHeader, ⟨Utf8.encode "no", by decide⟩) :: withCookies [sessionCookie]

/-- The same cookies without a marker. -/
def unmarked : Headers := [(.cookie, sessionCookie)]

/-- The session is heard and the password is not. Behind another marker the session is not heard
either, which a strict gate minds; and without a marker it is nothing to any gate. -/
theorem precedence_doubled :
    (ofSettings loopbackSettings).value = .ok loopback ∧
      loopback.markerHeader ≠ .cookie ∧ loopback.markerHeader ≠ .authorization ∧
      (ofSettings { loopbackSettings with session := { markerHeader := "NS_Server-UI" } }).value
        = .ok loopback ∧
      ({ loopback with strict := true }.authenticate sessionCache unreachable doubled).value
        = .ok (Identity.ofAdmin "u" .admin) ∧
      ({ loopback with strict := true }.authenticate sessionCache unreachable mismarked).value
        = .error .unauthorized ∧
      (loopback.authenticate sessionCache unreachable mismarked).value = .error .noCredentials ∧
      ({ loopback with strict := true }.authenticate sessionCache unreachable unmarked).value
        = .error .noCredentials := by
  have hcookie : loopback.markerHeader ≠ .cookie := by decide
  have hauth : loopback.markerHeader ≠ .authorization := by decide
  have hprecedence := (precedence ofSettings_loopback hcookie hauth).2
  have hpresents : loopback.Presents (withCookies [sessionCookie]) (.token "t") := by
    refine ⟨⟨_, rfl, rfl⟩, Cookie.find?_eq_some_iff_shows.mpr ?_, by decide⟩
    rw [Cookie.Shows, getAll_withCookies]
    decide
  have hknown := (settled hpresents (sessionCache.current.consult_of_session token?_sessionCache)
    unreachable).2
  have hother : loopback.MarkedOtherwise mismarked := ⟨_, rfl, by decide⟩
  have hbare : ∀ hs : Headers, hs.get? loopback.markerHeader = none →
      hs.get? .authorization = none →
      (loopback.authenticate sessionCache unreachable hs).value = .error .noCredentials := by
    intro hs hmarker hnone
    refine authenticate_eq_noCredentials_iff.mpr ⟨passesMarker_of_none hmarker, ?_⟩
    intro v hv
    rw [hnone] at hv
    cases hv
  refine ⟨ofSettings_loopback, hcookie, hauth, ?_, ?_, ?_, ?_, ?_⟩
  · have hlower : "NS_Server-UI".toLower = loopbackSettings.session.markerHeader.toLower := by
      have hchars : ∀ s : String, s.toLower.toList = s.toList.map Char.toLower := fun _ =>
        String.toList_map
      apply String.toList_inj.mp
      rw [hchars, hchars]
      decide
    exact (congrArg Traced.value (hprecedence.spelling hlower)).trans ofSettings_loopback
  · have hsame : Headers.SameBut .authorization (withCookies [sessionCookie]) doubled := by
      intro other hother
      simp [doubled, Headers.getAll, hother.symm]
    rw [(hprecedence.agreed hpresents.1 hsame true sessionCache unreachable).1.value, hknown]
    rfl
  · exact (hprecedence.rejected hother sessionCache unreachable).1
  · exact (hprecedence.ignored hother sessionCache unreachable).value.trans (hbare _ rfl rfl)
  · have hsame : Headers.SameBut .cookie [] unmarked := by
      intro other hother
      simp [unmarked, Headers.getAll, hother.symm]
    exact (hprecedence.absent rfl hsame true sessionCache unreachable).value.trans
      (hbare [] rfl rfl)

end Gate

end Gatehouse
