import Gatehouse.Proofs.Cookie
import Gatehouse.Proofs.Gate.Disturbance
import Gatehouse.Proofs.Gate.Exchanges
import Gatehouse.Proofs.Gate.Relevance

/-!
# What the authority gets to see

A question about a request goes out with some of its headers, as they came. `Gate.Sends` says which:
of a session the marker and all cookies, of a password the authorization value, and of repeated
markers and authorization values the first. The authority reads them as the gate has read the
request:

> what is sent presents the very credential that the request presents (`Gate.relays`).

For that, the cookies have to be sent all together and in order, those that cannot be read
included: which of them counts is found out by looking at all of them. The marker may go by the name
of the cookies, and then the first of these goes out twice; it is looked at first both times.
-/

set_option autoImplicit false

namespace Gatehouse

/-! ## Headers that are put together -/

namespace Headers

variable {name other : Header.Name}

theorem getAll_cons_self (v : Header.Value) (hs : Headers) :
    getAll ((name, v) :: hs) name = v :: hs.getAll name := by
  simp [getAll]

theorem getAll_cons_of_ne (h : name ≠ other) (v : Header.Value) (hs : Headers) :
    getAll ((name, v) :: hs) other = hs.getAll other := by
  simp [getAll, h]

theorem getAll_map_self (vs : List Header.Value) :
    getAll (vs.map fun v => (name, v)) name = vs := by
  induction vs with
  | nil => rfl
  | cons v vs ih => rw [List.map_cons, getAll_cons_self, ih]

theorem getAll_map_of_ne (h : name ≠ other) (vs : List Header.Value) :
    getAll (vs.map fun v => (name, v)) other = [] := by
  induction vs with
  | nil => rfl
  | cons v vs ih => rw [List.map_cons, getAll_cons_of_ne h, ih]

end Headers

namespace Gate

variable {g : Gate} {cache : Cache} {authority : Authority} {hs : Headers}

/-- What is to be sent of a request about a credential, and nothing else. -/
inductive Sends (g : Gate) (hs : Headers) : Credential → Headers → Prop
  /-- The first marker, and all cookies in order. -/
  | session {token : String} {marker : Header.Value}
      (hmarker : hs.get? g.markerHeader = some marker) :
    Sends g hs (.token token)
      ((g.markerHeader, marker) :: (hs.getAll .cookie).map fun v => (.cookie, v))
  /-- The first authorization value. -/
  | password {user password : String} {value : Header.Value}
      (hvalue : hs.get? .authorization = some value) :
    Sends g hs (.password user password) [(.authorization, value)]

/-- What a gate forwards is what is to be sent of the request. -/
theorem sends_forwarded {c : Credential} (h : g.Presents hs c) :
    g.Sends hs c (g.forwarded hs c) := by
  cases c with
  | token token =>
    obtain ⟨⟨marker, hmarker, -⟩, -⟩ := h
    rw [forwarded, sessionHeaders, hmarker]
    exact .session hmarker
  | password user password =>
    obtain ⟨-, value, hvalue, -⟩ := h
    rw [forwarded, passwordHeaders, hvalue]
    exact .password hvalue

/-! ## Reading what is sent -/

/-- The cookies that are sent show the same session, even if the marker is one of them. -/
theorem find?_session {marker : Header.Value} (hmarker : hs.get? g.markerHeader = some marker)
    (name : String) :
    Cookie.find? ((g.markerHeader, marker) :: (hs.getAll .cookie).map fun v => (.cookie, v)) name
      = Cookie.find? hs name := by
  by_cases hcookie : g.markerHeader = .cookie
  · rw [hcookie] at hmarker ⊢
    obtain ⟨rest, hrest⟩ := List.head?_eq_some_iff.mp hmarker
    rw [Cookie.find?_eq_findSome?, Cookie.find?_eq_findSome?, Headers.getAll_cons_self,
      Headers.getAll_map_self, hrest, List.findSome?_cons, List.findSome?_cons]
    -- the first cookie is looked at twice, to the same end
    cases Cookie.within marker name <;> rfl
  · apply find?_congr
    rw [Headers.getAll_cons_of_ne hcookie, Headers.getAll_map_self]

/-- **What is sent presents what the request presents.** -/
theorem Sends.presents {c : Credential} {sent : Headers} (hsent : g.Sends hs c sent)
    (h : g.Presents hs c) : g.Presents sent c := by
  cases hsent with
  | @session token marker hmarker =>
    obtain ⟨⟨v, hv, hbytes⟩, hfind, hne⟩ := h
    obtain rfl := Option.some.inj (hmarker.symm.trans hv)
    refine ⟨⟨marker, ?_, hbytes⟩, ?_, hne⟩
    · rw [Headers.get?, Headers.getAll_cons_self]
      rfl
    · rw [find?_session hmarker]
      exact hfind
  | @password user password value hvalue =>
    obtain ⟨hpass, v, hv, hspells⟩ := h
    obtain rfl := Option.some.inj (hvalue.symm.trans hv)
    refine ⟨?_, value, ?_, hspells⟩
    · -- a marker among what is sent is the authorization value itself, and so it was before
      intro w hw
      by_cases hname : Header.Name.authorization = g.markerHeader
      · rw [Headers.get?, ← hname, Headers.getAll_cons_self] at hw
        obtain rfl : value = w := Option.some.inj hw
        exact hpass value (hname ▸ hvalue)
      · rw [Headers.get?, Headers.getAll_cons_of_ne hname] at hw
        cases hw
    · rw [Headers.get?, Headers.getAll_cons_self]
      rfl

/-! ## Questions -/

/-- What the authority is told of a request. -/
structure Relays (g : Gate) (cache : Cache) (authority : Authority) (hs : Headers) : Prop where
  /-- A question is the only one, sends what it has to, and presents the credential of the
  request. -/
  asked {r : Request} (hr : r ∈ Effect.requests (g.authenticate cache authority hs).trace) :
    ∃ c, Effect.requests (g.authenticate cache authority hs).trace = [r] ∧
      (g.classify hs).value = .ok c ∧ g.Sends hs c r.headers ∧ (g.classify r.headers).value = .ok c
  /-- A question about a session has the first marker once, and each cookie once, unless they go
  by the same name. -/
  once {r : Request} (hr : r ∈ Effect.requests (g.authenticate cache authority hs).trace)
    {token : String} (hc : (g.classify hs).value = .ok (.token token))
    (hcookie : g.markerHeader ≠ .cookie) :
    r.headers.getAll g.markerHeader = (hs.get? g.markerHeader).toList ∧
      r.headers.getAll .cookie = hs.getAll .cookie ∧
      ∀ other, other ≠ g.markerHeader → other ≠ .cookie → r.headers.getAll other = []
  /-- Other headers make no difference. -/
  others {hs' : Headers} (hmarker : hs'.getAll g.markerHeader = hs.getAll g.markerHeader)
    (hcookie : hs'.getAll .cookie = hs.getAll .cookie)
    (hauth : hs'.getAll .authorization = hs.getAll .authorization) :
    (g.authenticate cache authority hs').SameButLog (g.authenticate cache authority hs)

/-- A question is about what the request presents. -/
theorem of_mem_requests {r : Request}
    (hr : r ∈ Effect.requests (g.authenticate cache authority hs).trace) :
    ∃ c, Effect.requests (g.authenticate cache authority hs).trace = [r] ∧ g.Presents hs c ∧
      r.headers = g.forwarded hs c := by
  by_cases hm : g.Misses cache hs
  · obtain ⟨c, hp, hk⟩ := hm
    have hone := requests_of_misses hp hk authority
    rw [hone] at hr
    obtain rfl := List.mem_singleton.mp hr
    exact ⟨c, hone, hp, rfl⟩
  · rw [requests_of_not_misses hm] at hr
    cases hr

/-- **The authority is asked about the very credential of the request, and sees nothing else.** -/
theorem relays {settings : Settings} {g : Gate} (hg : (ofSettings settings).value = .ok g) :
    g.Configured settings ∧ ∀ cache authority hs, g.Relays cache authority hs := by
  refine ⟨(ofSettings_eq_ok_iff.mp hg).2, fun cache authority hs => ⟨?_, ?_, ?_⟩⟩
  · intro r hr
    obtain ⟨c, hone, hp, hheaders⟩ := of_mem_requests hr
    have hsent := sends_forwarded hp
    rw [← hheaders] at hsent
    exact ⟨c, hone, classify_eq_ok_iff.mpr hp, hsent, classify_eq_ok_iff.mpr (hsent.presents hp)⟩
  · intro r hr token hc hcookie
    obtain ⟨c, -, hp, hheaders⟩ := of_mem_requests hr
    obtain rfl := hp.unique (classify_eq_ok_iff.mp hc)
    have hsent := sends_forwarded hp
    rw [← hheaders] at hsent
    generalize r.headers = sent at hsent
    cases hsent with
    | session hmarker =>
      refine ⟨?_, ?_, ?_⟩
      · rw [Headers.getAll_cons_self, Headers.getAll_map_of_ne hcookie.symm, hmarker]
        rfl
      · rw [Headers.getAll_cons_of_ne hcookie, Headers.getAll_map_self]
      · intro other hne hne'
        rw [Headers.getAll_cons_of_ne hne.symm, Headers.getAll_map_of_ne hne'.symm]
  · intro hs' hmarker hcookie hauth
    exact sameButLog_of_getAll hmarker hcookie hauth cache authority

/-- A second session in a cookie header of its own. -/
def laterCookie : Header.Value := ⟨Utf8.encode (loopback.cookieName ++ "=s"), by decide⟩

/-- A session request with a cookie that cannot be read, a later session, and the authorization
value of somebody else. -/
def scattered : Headers :=
  (.authorization, shadowingHeader) :: withCookies [themeCookie, sessionCookie, laterCookie]

/-- Marker and cookies are sent, and the authority finds the session that the gate has found. -/
theorem relays_scattered : (ofSettings loopbackSettings).value = .ok loopback ∧
    (loopback.classify scattered).value = .ok (.token "t") ∧
      ∃ r, Effect.requests (loopback.authenticate Cache.empty unreachable scattered).trace = [r] ∧
        r.headers = withCookies [themeCookie, sessionCookie, laterCookie] ∧
        (loopback.classify r.headers).value = .ok (.token "t") := by
  have hcookies : scattered.getAll .cookie = [themeCookie, sessionCookie, laterCookie] := by
    rw [scattered, Headers.getAll_cons_of_ne (by decide), getAll_withCookies]
  have hpresents : loopback.Presents scattered (.token "t") := by
    refine ⟨⟨_, rfl, rfl⟩, Cookie.find?_eq_some_iff_shows.mpr ?_, by decide⟩
    rw [Cookie.Shows, hcookies]
    decide
  have hunknown : ¬ Cache.empty.current.Knows (.token "t") := by
    intro hk
    obtain ⟨session, hmem, -⟩ := (Snapshot.reflects_empty.knows_iff _).mp hk
    cases hmem
  have hone := requests_of_misses hpresents hunknown unreachable
  obtain ⟨c, -, hc, hsends, hread⟩ :=
    ((relays ofSettings_loopback).2 Cache.empty unreachable scattered).asked
      (hone ▸ List.mem_singleton_self _)
  have htoken := classify_eq_ok_iff.mpr hpresents
  obtain rfl := Except.ok.inj (hc.symm.trans htoken)
  refine ⟨ofSettings_loopback, htoken, _, hone, ?_, hread⟩
  generalize (loopback.question scattered (.token "t")).headers = sent at hsends
  cases hsends with
  | session hmarker =>
    obtain rfl := Option.some.inj hmarker
    rw [hcookies]
    rfl

end Gate

end Gatehouse
