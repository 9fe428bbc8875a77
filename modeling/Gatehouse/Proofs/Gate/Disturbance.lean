import Gatehouse.Proofs.CookieBytes
import Gatehouse.Proofs.Gate.Admission

/-!
# A session among other cookies

A browser sends its cookies together, and the session's is only one of them. The others are
nobody's business here, so two requests that differ in those alone should be taken for the same
session. They are as long as the header with the session's cookie can be read; but one byte
beyond ASCII in another cookie of that header takes the session away with it, and then

> the request is refused, or taken for a session that a later header names (`Gate.undisturbed`).

What such cookies do in headers of their own, and what any readable cookies do, makes no
difference.
-/

set_option autoImplicit false

namespace Gatehouse

/-- The headers are the same but for those of a name. -/
def Headers.SameBut (name : Header.Name) (hs₁ hs₂ : Headers) : Prop :=
  ∀ other, other ≠ name → hs₁.getAll other = hs₂.getAll other

namespace Gate

variable {g : Gate} {hs hs₁ hs₂ : Headers} {token : String}

/-- Session requests that differ in other cookies than the session's. -/
structure Twins (g : Gate) (hs₁ hs₂ : Headers) (token : String) : Prop where
  asks : g.AsksSession hs₁
  others : Headers.SameBut .cookie hs₁ hs₂
  pairs : Cookie.listed (hs₁.getAll .cookie) g.cookieName
    = Cookie.listed (hs₂.getAll .cookie) g.cookieName
  first : (Cookie.listed (hs₁.getAll .cookie) g.cookieName).head? = some (Utf8.encode token)
  nonempty : token ≠ ""

namespace Twins

theorem asks_both (h : g.Twins hs₁ hs₂ token) (hmarker : g.markerHeader ≠ .cookie) :
    ∀ hs ∈ [hs₁, hs₂], g.AsksSession hs := by
  obtain ⟨v, hv, hbytes⟩ := h.asks
  have hv₂ : hs₂.get? g.markerHeader = some v := by
    rw [Headers.get?, ← h.others g.markerHeader hmarker]
    exact hv
  exact List.forall_mem_cons.mpr
    ⟨⟨v, hv, hbytes⟩, List.forall_mem_singleton.mpr ⟨v, hv₂, hbytes⟩⟩

theorem first_both (h : g.Twins hs₁ hs₂ token) : ∀ hs ∈ [hs₁, hs₂],
    (Cookie.listed (hs.getAll .cookie) g.cookieName).head? = some (Utf8.encode token) := by
  have hfirst₂ := h.first
  rw [h.pairs] at hfirst₂
  exact List.forall_mem_cons.mpr ⟨h.first, List.forall_mem_singleton.mpr hfirst₂⟩

end Twins

/-- A session request is taken for the session of the pair that it shows. -/
theorem classify_eq_token_iff (hask : g.AsksSession hs) :
    (g.classify hs).value = .ok (.token token) ↔
      Cookie.Shows hs g.cookieName token ∧ token ≠ "" := by
  rw [classify_eq_ok_iff, ← Cookie.find?_eq_some_iff_shows]
  exact and_iff_right hask

/-- And refused if it shows none. -/
theorem classify_of_hidden (hask : g.AsksSession hs) (h : Cookie.Hidden hs g.cookieName) :
    (g.classify hs).value = .error .unauthorized :=
  classify_sessionless hask (.inl h.find?_eq_none)

/-- What other cookies do to a session. -/
structure Undisturbed (g : Gate) (hs₁ hs₂ : Headers) (token : String) : Prop where
  /-- Both requests are taken for the session of the token exactly if both show it. -/
  resolved : (∀ hs ∈ [hs₁, hs₂], (g.classify hs).value = .ok (.token token)) ↔
    ∀ hs ∈ [hs₁, hs₂], Cookie.Shows hs g.cookieName token
  /-- With the token in the cache, they are let in as the same user, and nobody is asked. -/
  known (hshows : ∀ hs ∈ [hs₁, hs₂], Cookie.Shows hs g.cookieName token) {cache : Cache}
    {session : SessionToken} (hk : cache.current.token? token = some session)
    (authority : Authority) :
    ∀ hs ∈ [hs₁, hs₂],
      (g.authenticate cache authority hs).value
          = .ok (Identity.ofRole session.user session.role) ∧
        Effect.requests (g.authenticate cache authority hs).trace = []
  /-- A request shows the token if the header that has it can be read, whatever other cookies
  there are. -/
  exposed : ∀ hs ∈ [hs₁, hs₂], Cookie.Exposed hs g.cookieName →
    Cookie.Shows hs g.cookieName token
  /-- If no such header can be read, the request is refused with whatever cache. -/
  hidden : ∀ hs ∈ [hs₁, hs₂], Cookie.Hidden hs g.cookieName →
    ∀ (cache : Cache) (authority : Authority),
      (g.authenticate cache authority hs).value = .error .unauthorized ∧
        Effect.requests (g.authenticate cache authority hs).trace = []
  /-- And if one can be read that has another token first, the request is taken for that one. -/
  replaced : ∀ hs ∈ [hs₁, hs₂], ∀ other, Cookie.Shows hs g.cookieName other → other ≠ "" →
    (g.classify hs).value = .ok (.token other)

/-- **Other cookies do not disturb a session**, unless they make its header unreadable. -/
theorem undisturbed {settings : Settings} {g : Gate}
    (hg : (ofSettings settings).value = .ok g) (hmarker : g.markerHeader ≠ .cookie)
    (h : g.Twins hs₁ hs₂ token) : g.Configured settings ∧ g.Undisturbed hs₁ hs₂ token := by
  have hask := h.asks_both hmarker
  have hresolved : ∀ hs ∈ [hs₁, hs₂], (g.classify hs).value = .ok (.token token) ↔
      Cookie.Shows hs g.cookieName token := by
    intro hs hmem
    rw [classify_eq_token_iff (hask hs hmem)]
    exact and_iff_left h.nonempty
  refine ⟨(ofSettings_eq_ok_iff.mp hg).2, ?_, ?_, ?_, ?_, ?_⟩
  · exact forall₂_congr hresolved
  · intro hshows cache session hk authority hs hmem
    have hc := (hresolved hs hmem).mpr (hshows hs hmem)
    exact (settled (classify_eq_ok_iff.mp hc) (cache.current.consult_of_session hk)
      authority).symm
  · intro hs hmem hexposed
    exact hexposed.shows (h.first_both hs hmem)
  · intro hs hmem hhidden cache authority
    have hc := classify_of_hidden (hask hs hmem) hhidden
    refine ⟨?_, requests_refused hc⟩
    rw [authenticate_refused hc]
  · intro hs hmem other hshows hne
    exact (classify_eq_token_iff (hask hs hmem)).mpr ⟨hshows, hne⟩

/-- An update with one session. -/
def sessionUpdate : Update := (Update.new 1).addToken "t" "u" .admin

/-- A cache that has taken it. -/
def sessionCache : Cache := (Session.run ⟨fun _ => unreachable, fun _ => unreachable⟩
  { gate := loopback } [.store (.replace sessionUpdate)]).2.store.cache

theorem token?_sessionCache : sessionCache.current.token? "t" = some ⟨"t", "u", .admin⟩ := by
  have htaken : sessionUpdate.isTaken = true := by
    refine sessionUpdate.isTaken_iff.mpr ⟨⟨nofun, by decide⟩, ⟨nofun, by decide⟩, ⟨?_, by decide⟩⟩
    intro t ht
    obtain rfl := List.mem_singleton.mp ht
    rfl
  have hr := (Session.records_run ⟨fun _ => unreachable, fun _ => unreachable⟩ loopback
    [.store (.replace sessionUpdate)]).reflects
  have hlists : Update.lastTaken (Session.history ⟨fun _ => unreachable, fun _ => unreachable⟩
      { gate := loopback } [.store (.replace sessionUpdate)]) = sessionUpdate :=
    Update.lastTaken_append_of_isTaken [] htaken
  rw [hlists] at hr
  exact hr.token?_eq_some.mpr ⟨List.mem_cons_self, rfl⟩

/-- A session request with the given cookie headers. -/
def withCookies (cookies : List Header.Value) : Headers :=
  (loopback.markerHeader, ⟨Utf8.encode loopback.markerValue, by decide⟩)
    :: cookies.map fun v => (.cookie, v)

/-- The session's cookie. -/
def sessionCookie : Header.Value := ⟨Utf8.encode (loopback.cookieName ++ "=t"), by decide⟩

/-- Another cookie, with a byte that cannot be read. -/
def themeCookie : Header.Value := ⟨Utf8.encode "theme=" ++ [0xff], by decide⟩

/-- Both in one header. -/
def mixedCookies : Header.Value :=
  ⟨themeCookie.bytes ++ Utf8.encode "; " ++ sessionCookie.bytes, by decide⟩

theorem getAll_withCookies (cookies : List Header.Value) :
    (withCookies cookies).getAll .cookie = cookies := by
  have hmarker : loopback.markerHeader ≠ .cookie := by decide
  simp [withCookies, Headers.getAll, hmarker, List.filter_map, Function.comp_def]

theorem twins_withCookies {cookies : List Header.Value}
    (h : Cookie.listed cookies "ui-auth-q" = [Utf8.encode "t"]) :
    loopback.Twins (withCookies [sessionCookie]) (withCookies cookies) "t" where
  asks := ⟨_, rfl, rfl⟩
  others := by
    intro name hname
    have hnone : ∀ vs : List Header.Value, (vs.map fun v => (Header.Name.cookie, v)).filter
        (fun h => decide (h.1 = name)) = [] := by
      intro vs
      rw [List.filter_eq_nil_iff]
      simp [hname.symm]
    rw [withCookies, withCookies, Headers.getAll, Headers.getAll, List.filter_cons,
      List.filter_cons, hnone, hnone]
  pairs := by
    rw [getAll_withCookies, getAll_withCookies]
    exact Eq.trans (by decide) h.symm
  first := by
    rw [getAll_withCookies]
    decide
  nonempty := by decide

/-- In a header of its own the other cookie does no harm, and in the session's it ends it. -/
theorem undisturbed_theme :
    loopback.Twins (withCookies [sessionCookie]) (withCookies [themeCookie, sessionCookie]) "t" ∧
      loopback.Twins (withCookies [sessionCookie]) (withCookies [mixedCookies]) "t" ∧
      (loopback.authenticate sessionCache unreachable
          (withCookies [themeCookie, sessionCookie])).value = .ok (Identity.ofAdmin "u" .admin) ∧
      (loopback.authenticate sessionCache unreachable (withCookies [mixedCookies])).value
        = .error .unauthorized := by
  have hmarker : loopback.markerHeader ≠ .cookie := by decide
  have happart : loopback.Twins (withCookies [sessionCookie])
      (withCookies [themeCookie, sessionCookie]) "t" := twins_withCookies (by decide)
  have hmixed : loopback.Twins (withCookies [sessionCookie]) (withCookies [mixedCookies]) "t" :=
    twins_withCookies (by decide)
  have hkept := (undisturbed ofSettings_loopback hmarker happart).2
  have hlost := (undisturbed ofSettings_loopback hmarker hmixed).2
  refine ⟨happart, hmixed, ?_, ?_⟩
  · have hshows : ∀ hs ∈ [withCookies [sessionCookie], withCookies [themeCookie, sessionCookie]],
        Cookie.Shows hs "ui-auth-q" "t" := by
      refine List.forall_mem_cons.mpr ⟨?_, List.forall_mem_singleton.mpr ?_⟩
      · rw [Cookie.Shows, getAll_withCookies]
        decide
      · rw [Cookie.Shows, getAll_withCookies]
        decide
    exact (hkept.known hshows token?_sessionCache unreachable _
      (List.mem_cons_of_mem _ List.mem_cons_self)).1
  · have hhidden : Cookie.Hidden (withCookies [mixedCookies]) "ui-auth-q" := by
      intro v hv hread
      rw [getAll_withCookies] at hv
      obtain rfl := List.mem_singleton.mp hv
      exact absurd hread (by decide)
    exact (hlost.hidden _ (List.mem_cons_of_mem _ List.mem_cons_self) hhidden _ _).1

end Gate

end Gatehouse
