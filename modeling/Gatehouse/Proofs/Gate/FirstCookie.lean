import Gatehouse.Proofs.CookieLayout
import Gatehouse.Proofs.Gate.Disturbance

/-!
# The cookie that is the session

A request with the marker may send many cookies, several of the session's name among them. Only
the first of these is looked at:

> the token is the value of the first cookie of the agreed name, however the cookies are laid
> out, and if that value is empty the request is refused (`Gate.takesFirst`).

So a later cookie of the name never stands in for an empty one, and nobody is asked whether it
would do.
-/

set_option autoImplicit false

namespace Gatehouse

namespace Gate

variable {hs : Headers} {ps : List Cookie.Pair}

/-- What a gate makes of a request that lays out some cookies. -/
structure TakesFirst (g : Gate) (hs : Headers) (ps : List Cookie.Pair) : Prop where
  /-- Under any name the first cookie of exactly that name is found, and nothing if there is
  none. -/
  found (name : String) : Cookie.find? hs name = Cookie.first? ps name
  /-- With the marker, its value is the token. -/
  token (hask : g.AsksSession hs) {token : String}
    (hfirst : Cookie.first? ps g.cookieName = some token) (hne : token ≠ "") :
    (g.classify hs).value = .ok (.token token)
  /-- If the cache has a session of the token, the user of that session is let in. -/
  known (hask : g.AsksSession hs) {token : String}
    (hfirst : Cookie.first? ps g.cookieName = some token) (hne : token ≠ "") {cache : Cache}
    {session : SessionToken} (hk : cache.current.token? token = some session)
    (authority : Authority) :
    Effect.requests (g.authenticate cache authority hs).trace = [] ∧
      (g.authenticate cache authority hs).value
        = .ok (Identity.ofRole session.user session.role)
  /-- If it has none, the authority is asked about the token, once, and has its way. -/
  unknown (hask : g.AsksSession hs) {token : String}
    (hfirst : Cookie.first? ps g.cookieName = some token) (hne : token ≠ "") {cache : Cache}
    (hk : cache.current.token? token = none) (authority : Authority) :
    Effect.requests (g.authenticate cache authority hs).trace = [g.question hs (.token token)] ∧
      (g.authenticate cache authority hs).value
        = (reception (authority (g.question hs (.token token)))).value
  /-- Without such a cookie, or if the first one is empty, nobody is let in, and nobody asked. -/
  refused (hask : g.AsksSession hs)
    (hfirst : Cookie.first? ps g.cookieName = none ∨ Cookie.first? ps g.cookieName = some "")
    (cache : Cache) (authority : Authority) :
    Effect.requests (g.authenticate cache authority hs).trace = [] ∧
      (g.authenticate cache authority hs).value = .error .unauthorized

/-- **The first cookie of the name is the session.** -/
theorem takesFirst {settings : Settings} {g : Gate} (hg : (ofSettings settings).value = .ok g)
    (hlaid : Cookie.Lays (hs.getAll .cookie) ps) :
    g.Configured settings ∧ g.TakesFirst hs ps := by
  have hpresents : g.AsksSession hs → ∀ {token : String},
      Cookie.first? ps g.cookieName = some token → token ≠ "" →
        g.Presents hs (.token token) := by
    intro hask token hfirst hne
    exact ⟨hask, (hlaid.find?_eq _).trans hfirst, hne⟩
  refine ⟨(ofSettings_eq_ok_iff.mp hg).2, hlaid.find?_eq, ?_, ?_, ?_, ?_⟩
  · intro hask token hfirst hne
    exact classify_eq_ok_iff.mpr (hpresents hask hfirst hne)
  · intro hask token hfirst hne cache session hk authority
    exact settled (hpresents hask hfirst hne) (cache.current.consult_of_session hk) authority
  · intro hask token hfirst hne cache hk authority
    have hc := classify_eq_ok_iff.mpr (hpresents hask hfirst hne)
    have hnone : (cache.current.consult (.token token)).value = none := by
      rw [Snapshot.consult, hk]
      rfl
    exact ⟨requests_asked hc hnone, by rw [authenticate_asked hc hnone]⟩
  · intro hask hfirst cache authority
    rw [← hlaid.find?_eq] at hfirst
    have hc := classify_sessionless hask hfirst
    exact ⟨requests_refused hc, by rw [authenticate_refused hc]⟩

/-- A cookie of the session's name, with an equals sign in its value. -/
def filledCookie : Cookie.Pair := ⟨loopback.cookieName, "a=b", by decide, by decide⟩

/-- Another one without a value. -/
def emptyCookie : Cookie.Pair := ⟨loopback.cookieName, "", by decide, by decide⟩

/-- No blanks at all. -/
def noBlanks : Cookie.Blanks := ⟨[], List.forall_mem_nil _⟩

/-- A space. -/
def oneSpace : Cookie.Blanks := ⟨[' '], List.forall_mem_singleton.mpr rfl⟩

/-- A tab and a space. -/
def tabAndSpace : Cookie.Blanks := ⟨['\t', ' '], List.forall_mem_cons.mpr ⟨rfl, oneSpace.blank⟩⟩

/-- Cookies in two headers, with blanks, empty pieces, a piece that is no cookie, and a name that
goes on where the session's ends. -/
def laidOut (first second : Cookie.Pair) : List (List Cookie.Piece) :=
  [[.other [] (by decide) (by decide) (by decide),
    .other " flag".toList (by decide) (by decide) (by decide),
    .pair oneSpace ⟨loopback.cookieName ++ "2", "x", by decide, by decide⟩ noBlanks],
   [.pair tabAndSpace first oneSpace,
    .other [] (by decide) (by decide) (by decide),
    .pair noBlanks second noBlanks]]

/-- A request that sends them. -/
def laidOutRequest (first second : Cookie.Pair) : Headers :=
  withCookies ((laidOut first second).map Cookie.header)

theorem lays_laidOutRequest (first second : Cookie.Pair) :
    Cookie.Lays ((laidOutRequest first second).getAll .cookie)
      ((laidOut first second).flatMap Cookie.linePairs) :=
  ⟨laidOut first second, getAll_withCookies _, rfl⟩

/-- A value with an equals sign is taken whole, and an empty one is not made good by a later. -/
theorem takesFirst_laidOut : (ofSettings loopbackSettings).value = .ok loopback ∧
    (loopback.classify (laidOutRequest filledCookie emptyCookie)).value = .ok (.token "a=b") ∧
      (loopback.authenticate Cache.empty unreachable
          (laidOutRequest emptyCookie filledCookie)).value = .error .unauthorized := by
  have hfilled :=
    (takesFirst ofSettings_loopback (lays_laidOutRequest filledCookie emptyCookie)).2
  have hempty :=
    (takesFirst ofSettings_loopback (lays_laidOutRequest emptyCookie filledCookie)).2
  refine ⟨ofSettings_loopback, ?_, ?_⟩
  · exact hfilled.token ⟨_, rfl, rfl⟩ rfl (by decide)
  · exact (hempty.refused ⟨_, rfl, rfl⟩ (.inr rfl) Cache.empty unreachable).2

end Gate

end Gatehouse
