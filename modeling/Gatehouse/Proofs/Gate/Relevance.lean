import Gatehouse.Proofs.Gate.Resolution

/-!
# What an attempt depends on

An attempt looks at three kinds of headers: the marker, the cookies and the authorization value.
Nothing else of a request has a part in the outcome (`sameButLog_of_getAll`), and which of the three
have is decided by the marker:

* with the agreed marker, what is not a cookie makes no difference (`sameButLog_of_asks`);
* with no marker that counts, only the first authorization value does (`sameButLog_of_passes`).

"No difference" means for the result, for what the authority is asked and for what is counted
(`Traced.SameButLog`). Log lines are left out: they say that a marker was ignored, so they tell a
request with a marker that does not count from one without.

Strictness is a matter of markers that do not count, so the two lemmas hold across gates that
differ in it.
-/

set_option autoImplicit false

namespace Gatehouse

/-- The same result, exchanges and counters. The log lines may be others. -/
structure Traced.SameButLog {α : Type} (x y : Traced α) : Prop where
  value : x.value = y.value
  requests : Effect.requests x.trace = Effect.requests y.trace
  counts : Effect.counts x.trace = Effect.counts y.trace

namespace Gate

variable {g : Gate} {hs hs' : Headers}

/-- Two attempts are alike as soon as the requests are taken for the same, and the authority
would be asked the same. -/
theorem sameButLog_of_classify {g' : Gate}
    (hclass : (g'.classify hs').value = (g.classify hs).value)
    (hask : ∀ c, (g.classify hs).value = .ok c → g'.question hs' c = g.question hs c)
    (cache : Cache) (authority : Authority) :
    (g'.authenticate cache authority hs').SameButLog (g.authenticate cache authority hs) := by
  cases hc : (g.classify hs).value with
  | error refusal =>
    rw [authenticate_refused (hclass.trans hc), authenticate_refused hc]
    refine ⟨rfl, ?_, ?_⟩
    · rw [Effect.requests_append, Effect.requests_append, requests_classify, requests_classify]
    · rw [Effect.counts_append, Effect.counts_append, (quiet_classify g' hs').counts,
        (quiet_classify g hs).counts]
  | ok c =>
    cases hk : (cache.current.consult c).value with
    | some result =>
      rw [authenticate_known (hclass.trans hc) hk, authenticate_known hc hk]
      refine ⟨rfl, ?_, ?_⟩
      · simp only [Effect.requests_append, requests_classify]
      · simp only [Effect.counts_append, (quiet_classify g' hs').counts,
          (quiet_classify g hs).counts]
    | none =>
      rw [authenticate_asked (hclass.trans hc) hk, authenticate_asked hc hk, hask c hc]
      refine ⟨rfl, ?_, ?_⟩
      · simp only [Effect.requests_append, requests_classify]
      · simp only [Effect.counts_append, (quiet_classify g' hs').counts,
          (quiet_classify g hs).counts]

theorem find?_congr (h : hs'.getAll .cookie = hs.getAll .cookie) (name : String) :
    Cookie.find? hs' name = Cookie.find? hs name := by
  rw [Cookie.find?, Cookie.find?, Cookie.allPairs, Cookie.allPairs, h]

/-- With the agreed marker, marker and cookies are all that counts. -/
theorem sameButLog_of_asks (strict : Bool) (hask : g.AsksSession hs)
    (hmarker : hs'.get? g.markerHeader = hs.get? g.markerHeader)
    (hcookie : hs'.getAll .cookie = hs.getAll .cookie) (cache : Cache) (authority : Authority) :
    ({ g with strict }.authenticate cache authority hs').SameButLog
      (g.authenticate cache authority hs) := by
  have hask' : { g with strict }.AsksSession hs' := by
    obtain ⟨v, hv, hbytes⟩ := hask
    exact ⟨v, hmarker.trans hv, hbytes⟩
  have hclass : { g with strict }.classify hs' = g.classify hs := by
    rw [classify_session hask', classify_session hask, find?_congr hcookie]
  refine sameButLog_of_classify (congrArg Traced.value hclass) ?_ cache authority
  intro c hc
  cases c with
  | token token =>
    show g.verifier.request (sessionHeaders { g with strict } hs') = _
    rw [sessionHeaders, hmarker, hcookie]
    rfl
  | password user password =>
    exact absurd (classify_eq_ok_iff.mp hc).1 hask.not_passesMarker

/-- With no marker that counts, the authorization value is all that does. -/
theorem sameButLog_of_passes {strict : Bool} (hpass : g.PassesMarker hs)
    (hpass' : { g with strict }.PassesMarker hs')
    (hauth : hs'.get? .authorization = hs.get? .authorization) (cache : Cache)
    (authority : Authority) :
    ({ g with strict }.authenticate cache authority hs').SameButLog
      (g.authenticate cache authority hs) := by
  have hbasic : classify.basic hs' = classify.basic hs := by
    rw [classify.basic, classify.basic, hauth]
  refine sameButLog_of_classify ?_ ?_ cache authority
  · rw [value_classify_passed hpass', value_classify_passed hpass, hbasic]
  · intro c hc
    cases c with
    | token token => exact absurd hpass (classify_eq_ok_iff.mp hc).1.not_passesMarker
    | password user password =>
      show g.verifier.request (passwordHeaders hs') = g.verifier.request (passwordHeaders hs)
      rw [passwordHeaders, passwordHeaders, hauth]

/-- **Three lists of values are all that an attempt depends on**: those of the marker, of the
cookies and of the authorization. -/
theorem sameButLog_of_getAll (hmarker : hs'.getAll g.markerHeader = hs.getAll g.markerHeader)
    (hcookie : hs'.getAll .cookie = hs.getAll .cookie)
    (hauth : hs'.getAll .authorization = hs.getAll .authorization) (cache : Cache)
    (authority : Authority) :
    (g.authenticate cache authority hs').SameButLog (g.authenticate cache authority hs) := by
  have hmarker? : hs'.get? g.markerHeader = hs.get? g.markerHeader := congrArg List.head? hmarker
  by_cases hask : g.AsksSession hs
  · exact sameButLog_of_asks g.strict hask hmarker? hcookie cache authority
  · have hask' : ¬ g.AsksSession hs' := by rwa [AsksSession, hmarker?]
    by_cases hpass : g.PassesMarker hs
    · have hpass' : g.PassesMarker hs' := by rwa [PassesMarker, hmarker?]
      exact sameButLog_of_passes hpass hpass' (congrArg List.head? hauth) cache authority
    · have hpass' : ¬ g.PassesMarker hs' := by rwa [PassesMarker, hmarker?]
      refine sameButLog_of_classify ?_ ?_ cache authority
      · rw [classify_rejected hask hpass, classify_rejected hask' hpass']
      · intro c hc
        rw [classify_rejected hask hpass] at hc
        cases hc

end Gate

end Gatehouse
