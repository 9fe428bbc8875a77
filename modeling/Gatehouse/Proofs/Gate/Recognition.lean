import Gatehouse.Proofs.Cookie
import Gatehouse.Proofs.Gate.Admission
import Gatehouse.Proofs.Gate.Usable

/-!
# Which settings can recognise a session

A session request has to have the marker with the agreed value, and a cookie of the agreed name.
The check of the settings makes sure that there is such a header and that the name is not
empty; but it takes values that no header can hold and names that no cookie can have, and then
no request whatever is recognised. `recognition` says exactly which settings are left:

> a session is recognised for some request, and then for the plainest one, exactly if marker
> value and cookie name can be written down (`SessionSettings.CanCarry`) and the gate can be made
> at all (`Address.Usable`).

A marker that is sent as a cookie header takes part in the search for the cookie, so it must not
name a session of its own.
-/

set_option autoImplicit false

namespace Gatehouse

/-- Session settings under which a token can be sent. -/
structure SessionSettings.CanCarry (s : SessionSettings) (token : String) : Prop where
  /-- The agreed value can stand in a header. -/
  markerValue : ∀ b ∈ Utf8.encode s.markerValue, Header.isValueByte b = true
  cookieName : Cookie.IsName s.cookieName
  /-- A marker among the cookies names no other session. -/
  alone : Header.Name.parse s.markerHeader = some .cookie → ∀ v : Header.Value,
    v.bytes = Utf8.encode s.markerValue →
      ∀ other, Cookie.Carries v s.cookieName other → other = token

namespace Cookie

theorem toNat_lt_of_isAlphanum {c : Char} (h : c.isAlphanum = true) : c.toNat < 127 := by
  have hval : c.val ≤ 'z'.val := by
    rcases Bool.or_eq_true_iff.mp h with hletter | hdigit
    · rcases Bool.or_eq_true_iff.mp hletter with hupper | hlower
      · exact UInt32.le_trans (of_decide_eq_true hupper).2 (by decide)
      · exact of_decide_eq_true (Bool.and_eq_true_iff.mp hlower).2
    · exact UInt32.le_trans (of_decide_eq_true (Bool.and_eq_true_iff.mp hdigit).2) (by decide)
  exact Nat.lt_of_le_of_lt (UInt32.le_iff_toNat_le.mp hval) (by decide)

theorem of_isAlphanum {c : Char} (h : c.isAlphanum = true) :
    Header.isTextChar c = true ∧ Text.isBlank c = false := by
  have all : ∀ n : Fin 127, (Char.ofNat n.val).isAlphanum = true →
      Header.isTextChar (Char.ofNat n.val) = true ∧ Text.isBlank (Char.ofNat n.val) = false := by
    decide
  have hc := all ⟨c.toNat, toNat_lt_of_isAlphanum h⟩
  simp only [Char.ofNat_toNat] at hc
  exact hc h

/-- Letters and digits can always be written down. -/
theorem IsValue.of_alphanum {token : String} (h : ∀ c ∈ token.toList, c.isAlphanum = true) :
    IsValue token where
  text := fun c hc => (of_isAlphanum (h c hc)).1
  last := fun c hc => (of_isAlphanum (h c (List.mem_of_getLast? hc))).2
  nosemicolon := fun hc => absurd (h _ hc) (by decide)

end Cookie

namespace Gate

variable {g : Gate} {hs : Headers} {s : Settings} {token : String}

/-- The request has the marker, and a cookie header that holds the token and nothing else. -/
structure Brings (g : Gate) (hs : Headers) (token : String) : Prop where
  marker : ∃ v, (g.markerHeader, v) ∈ hs ∧ v.bytes = Utf8.encode g.markerValue
  cookie : ∃ v, (Header.Name.cookie, v) ∈ hs
    ∧ v.bytes = Utf8.encode (g.cookieName ++ "=" ++ token)

/-- Whatever the request is, its session can be sent. -/
theorem canCarry_of_presents (hg : g.Configured s) (h : g.Presents hs (.token token)) :
    s.session.CanCarry token := by
  obtain ⟨⟨v, hv, hmarker⟩, hfind, -⟩ := h
  rw [hg.cookieName] at hfind
  rw [hg.markerValue] at hmarker
  refine ⟨?_, (Cookie.of_find? hfind).1, ?_⟩
  · rw [← hmarker]
    exact List.all_eq_true.mp v.legal
  · intro hcookie w hw other hcarries
    -- the marker is the first cookie header, so its pair is found first
    have hname : g.markerHeader = .cookie :=
      Option.some.inj (hg.markerHeader.symm.trans hcookie)
    obtain ⟨bytes, legal⟩ := w
    obtain rfl : bytes = v.bytes := hw.trans hmarker.symm
    rw [hname] at hv
    obtain ⟨rest, hrest⟩ := Cookie.find?_of_get? hv s.session.cookieName
    rw [hfind, Cookie.within_eq_some_iff.mpr hcarries] at hrest
    exact (Option.some.inj hrest).symm

/-- And if it can, then in the plainest way. -/
theorem exists_presents (hg : g.Configured s) (h : s.session.CanCarry token)
    (hvalue : Cookie.IsValue token) (hne : token ≠ "") :
    ∃ hs, g.Brings hs token ∧ g.Presents hs (.token token) := by
  let marker : Header.Value :=
    ⟨Utf8.encode s.session.markerValue, List.all_eq_true.mpr h.markerValue⟩
  have htext : Header.IsText (s.session.cookieName ++ "=" ++ token).toList := by
    rw [String.toList_append, String.toList_append]
    have hequals : Header.IsText "=".toList := by decide
    exact (h.cookieName.text.append hequals).append hvalue.text
  let cookie := Header.Value.ofText (s.session.cookieName ++ "=" ++ token) htext
  have hcookie : Cookie.within cookie s.session.cookieName = some token :=
    Cookie.within_of_carries (Cookie.carries_of_bytes h.cookieName hvalue rfl)
  refine ⟨[(g.markerHeader, marker), (.cookie, cookie)], ⟨⟨marker, ?_, ?_⟩, cookie, ?_, ?_⟩, ?_⟩
  · exact List.mem_cons_self
  · rw [hg.markerValue]
  · exact List.mem_cons_of_mem _ List.mem_cons_self
  · rw [hg.cookieName]
    rfl
  · refine ⟨⟨marker, ?_, ?_⟩, ?_, hne⟩
    · simp [Headers.get?, Headers.getAll]
    · rw [hg.markerValue]
    · rw [hg.cookieName, Cookie.find?_eq_findSome?]
      by_cases hname : g.markerHeader = .cookie
      · -- the marker is looked at first
        have hall : Headers.getAll [(g.markerHeader, marker), (.cookie, cookie)] .cookie
            = [marker, cookie] := by simp [Headers.getAll, hname]
        rw [hall, List.findSome?_cons]
        cases hmarker : Cookie.within marker s.session.cookieName with
        | none => rw [List.findSome?_singleton, hcookie]
        | some other =>
          have hother : other = token := h.alone (hname ▸ hg.markerHeader) marker rfl other
            (Cookie.within_eq_some_iff.mp hmarker)
          rw [hother]
      · have hall : Headers.getAll [(g.markerHeader, marker), (.cookie, cookie)] .cookie
            = [cookie] := by simp [Headers.getAll, hname]
        rw [hall, List.findSome?_singleton, hcookie]

/-- Which sessions a gate with these settings recognises. -/
structure Recognition (s : Settings) (token : String) : Prop where
  /-- A request that brings the token in the plainest way is taken for its session under these
  conditions and under no others. -/
  plainest : (∃ g, (ofSettings s).value = .ok g ∧
      ∃ hs, g.Brings hs token ∧ (g.classify hs).value = .ok (.token token)) ↔
    Address.Usable s.verifyUrl ∧ s.session.CanCarry token
  /-- Where that does not help, no request does, for this or any other token. -/
  any {g : Gate} {hs : Headers} {other : String} (hg : (ofSettings s).value = .ok g)
    (h : (g.classify hs).value = .ok (.token other)) : s.session.CanCarry other
  /-- A session that is recognised and in the cache is let in by the cache alone. -/
  known {g : Gate} {hs : Headers} (hg : (ofSettings s).value = .ok g)
    (h : (g.classify hs).value = .ok (.token token)) {cache : Cache} {session : SessionToken}
    (hk : cache.current.token? token = some session) (authority : Authority) :
    (g.authenticate cache authority hs).value
        = .ok (Identity.ofRole session.user session.role) ∧
      Effect.requests (g.authenticate cache authority hs).trace = []

/-- **Which settings recognise sessions.** Passing the check is not enough. -/
theorem recognition (h : s.validate = .ok ()) (hne : token ≠ "")
    (ht : ∀ c ∈ token.toList, c.isAlphanum = true) : Recognition s token where
  plainest := by
    constructor
    · rintro ⟨g, hg, hs, -, hrecognised⟩
      have hconfigured := (ofSettings_eq_ok_iff.mp hg).2
      exact ⟨Address.usable_of_parse hconfigured.url,
        canCarry_of_presents hconfigured (classify_eq_ok_iff.mp hrecognised)⟩
    · rintro ⟨husable, hcarry⟩
      obtain ⟨g, hg⟩ := exists_ofSettings h husable
      obtain ⟨hs, hbrings, hpresents⟩ :=
        exists_presents (ofSettings_eq_ok_iff.mp hg).2 hcarry (.of_alphanum ht) hne
      exact ⟨g, hg, hs, hbrings, classify_eq_ok_iff.mpr hpresents⟩
  any hg hrecognised :=
    canCarry_of_presents (ofSettings_eq_ok_iff.mp hg).2 (classify_eq_ok_iff.mp hrecognised)
  known := by
    intro g hs hg hrecognised cache session hk authority
    have hconsult : (cache.current.consult (.token token)).value
        = some (.ok (Identity.ofRole session.user session.role)) := by
      rw [Snapshot.consult, hk]
      rfl
    exact ⟨authenticate_of_consulted (classify_eq_ok_iff.mp hrecognised) hconsult,
      requests_known hrecognised hconsult⟩

/-- Settings that pass the check, with a name that no cookie can have. -/
def misnamedSettings : Settings := { loopbackSettings with session := { cookieName := "a=b" } }

/-- The gate that they make. -/
def misnamed : Gate := { loopback with cookieName := "a=b" }

/-- It never recognises a session. -/
theorem not_recognised_misnamed : misnamedSettings.validate = .ok () ∧
    (ofSettings misnamedSettings).value = .ok misnamed ∧
      ¬ ∃ hs, (misnamed.classify hs).value = .ok (.token "t") := by
  have hloopback := (ofSettings_eq_ok_iff.mp ofSettings_loopback).2
  have hvalid : misnamedSettings.validate = .ok () :=
    Settings.validate_eq_ok_iff.mpr
      ⟨⟨_, parse_loopbackUrl⟩, nofun, ⟨_, hloopback.markerHeader⟩, by decide⟩
  have hmade : (ofSettings misnamedSettings).value = .ok misnamed :=
    ofSettings_eq_ok_iff.mpr ⟨hvalid, hloopback.markerHeader, rfl, rfl, rfl, rfl, hloopback.url⟩
  refine ⟨hvalid, hmade, ?_⟩
  rintro ⟨hs, hrecognised⟩
  have hletters : ∀ c ∈ "t".toList, c.isAlphanum = true := List.forall_mem_singleton.mpr rfl
  have hrecognition : Recognition misnamedSettings "t" :=
    recognition hvalid (by decide) hletters
  have hnoequals := (hrecognition.any hmade hrecognised).cookieName.noequals
  exact hnoequals (by decide)

end Gate

end Gatehouse
