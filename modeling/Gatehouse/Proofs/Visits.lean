import Gatehouse.Proofs.Gate.Exchanges
import Gatehouse.Proofs.Gate.Failures

/-!
# Visits

A visit is a request to a gate together with what it met there: the cache and the authority of
that moment. Over a run there is one for each request that came, in order, and what the run
answers, asks and counts for the request is what the gate alone makes of the visit
(`Session.outcomes_run`).

How a visit is counted depends on how far it got: it was turned away as it stood, or the cache
knew it, or the authority was asked (`Session.Visit.counted`).
-/

set_option autoImplicit false

namespace Gatehouse

/-! ## What an attempt counts -/

/-- What is counted of an exchange goes with what comes of it. -/
inductive Verification.Fits : Verification → Except Refusal Identity → Prop
  | verified (i : Identity) : Fits .verified (.ok i)
  | rejected : Fits .rejected (.error .unauthorized)
  | invalid : Fits .invalid (.error .unauthorized)
  | error (fault : ExchangeFault) : Fits .error (.error (.transport fault))

namespace Gate

variable {g : Gate} {cache : Cache} {authority : Authority} {hs : Headers}

/-- Every exchange is counted once, as what comes of it. -/
theorem counts_reception (answer : Except ExchangeFault Reply) : ∃ v : Verification,
    Effect.counts (reception answer).trace = [.verification v] ∧
      v.Fits (reception answer).value := by
  have hreceived := received answer
  generalize reception answer = x at hreceived
  cases hreceived with
  | failed => exact ⟨.error, rfl, .error _⟩
  | turnedDown hquiet houtcome =>
    refine ⟨_, by rw [Effect.counts_append, hquiet.counts]; rfl, ?_⟩
    rcases houtcome with rfl | rfl
    · exact .rejected
    · exact .invalid
  | vouched => exact ⟨.verified, rfl, .verified _⟩

theorem counts_asked {c : Credential} {v : Verification} (h : (g.classify hs).value = .ok c)
    (hk : (cache.current.consult c).value = none)
    (hv : Effect.counts (reception (authority (g.question hs c))).trace = [.verification v]) :
    Effect.counts (g.authenticate cache authority hs).trace
      = [.verification v,
          .attempt c.mechanism (attemptOf (g.authenticate cache authority hs).value)] := by
  rw [authenticate_asked h hk]
  simp only [Effect.counts_append, (quiet_classify g hs).counts,
    (cache.current.quiet_consult c).counts, Effect.counts_exchange, hv]
  rfl

theorem counts_known {c : Credential} {result : Except Refusal Identity}
    (h : (g.classify hs).value = .ok c) (hk : (cache.current.consult c).value = some result) :
    Effect.counts (g.authenticate cache authority hs).trace
      = [.attempt c.mechanism (attemptOf (g.authenticate cache authority hs).value)] := by
  rw [authenticate_known h hk]
  simp only [Effect.counts_append, (quiet_classify g hs).counts,
    (cache.current.quiet_consult c).counts]
  rfl

theorem counts_refused {r : Refusal} (h : (g.classify hs).value = .error r) :
    Effect.counts (g.authenticate cache authority hs).trace
      = [.attempt .none (attemptOf (g.authenticate cache authority hs).value)] := by
  rw [authenticate_refused h]
  simp only [Effect.counts_append, (quiet_classify g hs).counts]
  rfl

/-- Routes count nothing that authentication does not count. -/
theorem counts_serve (g : Gate) (cache : Cache) (authority : Authority) (target : String)
    (hs : Headers) : Effect.counts (g.serve cache authority target hs).trace
      = Effect.counts (g.authenticate cache authority hs).trace := by
  obtain ⟨rest, hquiet, htrace⟩ := g.trace_serve cache authority target hs
  rw [htrace, Effect.counts_append, hquiet.counts, List.append_nil]

end Gate

namespace Session

/-! ## Visits -/

/-- A request to a gate, with the cache and the authority that it met. -/
structure Visit where
  gate : Gate
  cache : Cache
  authority : Authority
  headers : Headers
  /-- What is asked for, if it is a route and not the gate itself. -/
  target : Option String

namespace Visit

/-- The one attempt that is made about it. -/
def attempt (v : Visit) : Traced (Except Refusal Identity) :=
  v.gate.authenticate v.cache v.authority v.headers

def result (v : Visit) : Except Refusal Identity := v.attempt.value

def requests (v : Visit) : List Request := Effect.requests v.attempt.trace

/-- Whether the authority was asked. -/
def asked (v : Visit) : Bool := !v.requests.isEmpty

/-- What the gate takes the request to present. -/
def presented (v : Visit) : Except Refusal Credential := (v.gate.classify v.headers).value

def answer (v : Visit) : Answer :=
  match v.target with
  | none => .authenticated v.result
  | some target => .served (v.gate.serve v.cache v.authority target v.headers).value

/-- How a visit is counted, by how far it got. -/
inductive Counted (v : Visit) : List Count → Prop
  /-- The request was turned away as it stood. -/
  | refused {r : Refusal} (hp : v.presented = .error r) (hq : v.requests = [])
      (hr : ∀ fault, v.result ≠ .error (.transport fault)) :
    Counted v [.attempt .none (Gate.attemptOf v.result)]
  /-- The cache knew it. -/
  | known {c : Credential} (hp : v.presented = .ok c) (hq : v.requests = [])
      (hr : ∀ fault, v.result ≠ .error (.transport fault)) :
    Counted v [.attempt c.mechanism (Gate.attemptOf v.result)]
  /-- The authority was asked. -/
  | asked {c : Credential} {verification : Verification} (hp : v.presented = .ok c)
      (hq : v.requests = [v.gate.question v.headers c]) (hr : verification.Fits v.result) :
    Counted v [.verification verification, .attempt c.mechanism (Gate.attemptOf v.result)]

/-- Who has asked nobody has met no fault. -/
theorem result_ne_transport {v : Visit} (h : v.requests = []) (fault : ExchangeFault) :
    v.result ≠ .error (.transport fault) := by
  intro hf
  obtain ⟨-, request, hrequest, -⟩ := Gate.authenticate_eq_transport_iff.mp hf
  cases h.symm.trans hrequest

/-- **Every visit is counted in one of these ways.** -/
theorem counted (v : Visit) : v.Counted (Effect.counts v.attempt.trace) := by
  cases hp : v.presented with
  | error r =>
    have hcounts : Effect.counts v.attempt.trace = _ := Gate.counts_refused hp
    have hq : v.requests = [] := Gate.requests_refused hp
    rw [hcounts]
    exact .refused hp hq (result_ne_transport hq)
  | ok c =>
    cases hk : (v.cache.current.consult c).value with
    | some result =>
      have hcounts : Effect.counts v.attempt.trace = _ := Gate.counts_known hp hk
      have hq : v.requests = [] := Gate.requests_known hp hk
      rw [hcounts]
      exact .known hp hq (result_ne_transport hq)
    | none =>
      obtain ⟨verification, hv, hfits⟩ :=
        Gate.counts_reception (v.authority (v.gate.question v.headers c))
      have hcounts : Effect.counts v.attempt.trace = _ := Gate.counts_asked hp hk hv
      have hq : v.requests = [v.gate.question v.headers c] := Gate.requests_asked hp hk
      rw [← Gate.value_of_requests hq] at hfits
      rw [hcounts]
      exact .asked hp hq hfits

end Visit

/-- The request that an action brings, if it brings one. -/
def Action.headers? : Action → Option Headers
  | .authenticate hs => some hs
  | .serve _ hs => some hs
  | _ => none

def Answer.isOfRequest : Answer → Bool
  | .authenticated _ => true
  | .served _ => true
  | _ => false

def visit? (authority : Correspondence) (s : Session) : Action → Option Visit
  | .authenticate hs => some ⟨s.gate, s.store.cache, authority.question s.questions, hs, none⟩
  | .serve target hs =>
    some ⟨s.gate, s.store.cache, authority.question s.questions, hs, some target⟩
  | _ => none

/-- The requests of a run, each with what it met when it came. -/
def visits (authority : Correspondence) : Session → List Action → List Visit
  | _, [] => []
  | s, a :: rest =>
    (visit? authority s a).toList ++ visits authority (step authority s a).value.2 rest

/-! ## The visits are those of the run -/

theorem visit?_headers (authority : Correspondence) (s : Session) (a : Action) :
    (visit? authority s a).map Visit.headers = a.headers? := by
  cases a <;> rfl

theorem visits_headers (authority : Correspondence) (actions : List Action) : ∀ (s : Session),
    (visits authority s actions).map Visit.headers = actions.filterMap Action.headers? := by
  induction actions with
  | nil => intro s; rfl
  | cons a rest ih =>
    intro s
    rw [visits, List.map_append, ih, ← Option.toList_map, visit?_headers]
    cases ha : a.headers? <;> simp [ha]

theorem gate_of_mem_visits {authority : Correspondence} {actions : List Action} {v : Visit} :
    ∀ {s : Session}, v ∈ visits authority s actions → v.gate = s.gate := by
  induction actions with
  | nil => intro s hv; cases hv
  | cons a rest ih =>
    intro s hv
    rcases List.mem_append.mp hv with hv | hv
    · cases a with
      | store | startRefresh => cases hv
      | authenticate | serve => rw [List.mem_singleton.mp hv]
    · rw [ih hv, gate_step]

/-- What a visit is answered, what was asked for it, and what is counted of it. -/
def Visit.outcome (v : Visit) : Answer × List Request × List Count :=
  (v.answer, v.requests, Effect.counts v.attempt.trace)

/-- The answers of a run that are answers to requests, each with what was asked and counted
for it. -/
def outcomes (answers : List (Traced Answer)) : List (Answer × List Request × List Count) :=
  (answers.filter fun done => done.value.isOfRequest).map fun done =>
    (done.value, Effect.requests done.trace, Effect.counts done.trace)

theorem outcomes_step (authority : Correspondence) (s : Session) (a : Action) :
    outcomes [{ value := (step authority s a).value.1, trace := (step authority s a).trace }]
      = (visit? authority s a).toList.map Visit.outcome := by
  cases a with
  | store a => rfl
  | startRefresh =>
    simp only [step, outcomes]
    split <;> rfl
  | authenticate hs => rfl
  | serve target hs =>
    have hrequests := s.gate.requests_serve s.store.cache (authority.question s.questions) target hs
    have hcounts := s.gate.counts_serve s.store.cache (authority.question s.questions) target hs
    show [(_, Effect.requests (s.gate.serve _ _ target hs).trace,
      Effect.counts (s.gate.serve _ _ target hs).trace)] = _
    rw [hrequests, hcounts]
    rfl

/-- The answers of a run are those of its visits. -/
theorem outcomes_run (authority : Correspondence) (actions : List Action) : ∀ (s : Session),
    outcomes (run authority s actions).1 = (visits authority s actions).map Visit.outcome := by
  induction actions with
  | nil => intro s; rfl
  | cons a rest ih =>
    intro s
    rw [visits, List.map_append, ← ih, ← outcomes_step, outcomes, outcomes, outcomes,
      ← List.map_append, ← List.filter_append]
    rfl

end Session

end Gatehouse
