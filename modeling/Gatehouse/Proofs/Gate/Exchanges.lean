import Gatehouse.Proofs.Gate.Admission
import Gatehouse.Proofs.Puller

/-!
# When the authority is asked

A gate asks about a request exactly if the request presents a credential that the snapshot in
force does not know (`Gate.Misses`), and then once. Nothing of the answer is kept: the store
is the same afterwards, so the next request of the same credential is asked about again.

Over a run there are two kinds of requests to the authority. Questions are sent by `POST` and
pulls of tasks by `GET`, and `posts_run` counts the former: as many as there were requests that
missed the snapshot in force when they came.
-/

set_option autoImplicit false

namespace Gatehouse

namespace Gate

variable {g : Gate} {cache : Cache} {hs : Headers}

/-- The request presents a credential that is not in the snapshot in force. -/
def Misses (g : Gate) (cache : Cache) (hs : Headers) : Prop :=
  ∃ c, g.Presents hs c ∧ ¬ cache.current.Knows c

theorem misses_iff_of_presents {c : Credential} (hp : g.Presents hs c) :
    g.Misses cache hs ↔ ¬ cache.current.Knows c := by
  constructor
  · rintro ⟨c', hp', hno⟩
    rw [hp.unique hp']
    exact hno
  · intro hno
    exact ⟨c, hp, hno⟩

instance (s : Snapshot) (c : Credential) : Decidable (s.Knows c) :=
  match c with
  | .token token => inferInstanceAs (Decidable ((s.token? token).isSome = true))
  | .password user _ =>
    inferInstanceAs (Decidable ((s.admin? user).isSome = true ∨ (s.bucket? user).isSome = true))

instance (g : Gate) (cache : Cache) (hs : Headers) : Decidable (g.Misses cache hs) :=
  match h : (g.classify hs).value with
  | .ok _ => decidable_of_iff _ (misses_iff_of_presents (classify_eq_ok_iff.mp h)).symm
  | .error _ => isFalse fun ⟨_, hp, _⟩ => nomatch h.symm.trans (classify_eq_ok_iff.mpr hp)

/-! ## One attempt -/

/-- An unknown credential is asked about once, with what the request says of it. -/
theorem requests_of_misses {c : Credential} (hp : g.Presents hs c)
    (hk : ¬ cache.current.Knows c) (authority : Authority) :
    Effect.requests (g.authenticate cache authority hs).trace = [g.question hs c] :=
  requests_asked (classify_eq_ok_iff.mpr hp) ((cache.current.consult_eq_none_iff c).mpr hk)

/-- In every other case nobody is asked. -/
theorem requests_of_not_misses (h : ¬ g.Misses cache hs) (authority : Authority) :
    Effect.requests (g.authenticate cache authority hs).trace = [] := by
  cases hc : (g.classify hs).value with
  | error refusal => exact requests_refused hc
  | ok c =>
    cases hk : (cache.current.consult c).value with
    | none =>
      have hno := (cache.current.consult_eq_none_iff c).mp hk
      exact absurd ⟨c, classify_eq_ok_iff.mp hc, hno⟩ h
    | some result => exact requests_known hc hk

/-- What an attempt sends: one question about a credential that is not known, and nothing in
every other case. -/
structure Exchanges (g : Gate) (cache : Cache) (authority : Authority) (hs : Headers) :
    Prop where
  asked : ∀ c, g.Presents hs c → ¬ cache.current.Knows c →
    Effect.requests (g.authenticate cache authority hs).trace
      = [⟨.post, g.verifier.url, g.forwarded hs c⟩]
  silent : ¬ g.Misses cache hs → Effect.requests (g.authenticate cache authority hs).trace = []

/-- **An attempt asks once, and only if it has to.** -/
theorem exchanges (g : Gate) (cache : Cache) (authority : Authority) (hs : Headers) :
    g.Exchanges cache authority hs where
  asked := fun _ hp hk => requests_of_misses hp hk authority
  silent := fun h => requests_of_not_misses h authority

/-- Routes do what authentication does, and write log lines. -/
theorem trace_serve (g : Gate) (cache : Cache) (authority : Authority) (target : String)
    (hs : Headers) : ∃ rest, Effect.Quiet rest ∧ (g.serve cache authority target hs).trace
      = (g.authenticate cache authority hs).trace ++ rest := by
  have henter : ∀ access path, ∃ rest, Effect.Quiet rest ∧
      (g.enter cache authority access path hs).trace
        = (g.authenticate cache authority hs).trace ++ rest := by
    intro access path
    refine ⟨_, ?_, Traced.trace_bind ..⟩
    split
    · exact (Effect.Quiet.log _).append .nil
    · exact .nil
    · exact .nil
  obtain ⟨rest, hquiet, hrest⟩ :=
    henter ((Route.access? (Route.path target)).getD .open) (Route.path target)
  refine ⟨rest, hquiet, ?_⟩
  unfold serve
  dsimp only
  rw [Traced.trace_bind, hrest]
  split <;> exact List.append_nil _

/-- Routes ask for nothing that authentication does not ask for. -/
theorem requests_serve (g : Gate) (cache : Cache) (authority : Authority) (target : String)
    (hs : Headers) : Effect.requests (g.serve cache authority target hs).trace
      = Effect.requests (g.authenticate cache authority hs).trace := by
  obtain ⟨rest, hquiet, htrace⟩ := g.trace_serve cache authority target hs
  rw [htrace, Effect.requests_append, hquiet.requests, List.append_nil]

end Gate

/-! ## Runs -/

namespace Session

/-- The questions in a trace. Pulls are requests of the other method. -/
def posts (trace : List Effect) : List Request :=
  (Effect.requests trace).filter fun r => r.method = .post

/-- How often an action misses the snapshot in force: once or not at all. -/
def missed (s : Session) : Action → Nat
  | .authenticate hs => if s.gate.Misses s.store.cache hs then 1 else 0
  | .serve _ hs => if s.gate.Misses s.store.cache hs then 1 else 0
  | _ => 0

/-- How often each action of a run misses the snapshot that is in force when it comes. -/
def misses (authority : Correspondence) : Session → List Action → List Nat
  | _, [] => []
  | s, a :: rest => missed s a :: misses authority (step authority s a).value.2 rest

theorem posts_append (first rest : List Effect) :
    posts (first ++ rest) = posts first ++ posts rest := by
  rw [posts, Effect.requests_append, List.filter_append]
  rfl

/-- A pull is no question. -/
theorem method_of_feed {g : Gate} {authority : Correspondence} {n : Nat} {r : Request}
    (h : r ∈ Effect.requests (feed g authority n).trace) : r.method = .get := by
  unfold feed at h
  split at h
  · rename_i puller interval hpuller
    rw [Puller.requests_fetch, List.mem_singleton] at h
    rw [h]
    rfl
  · cases h

/-- Nothing that is done to a store asks a question. -/
theorem posts_store (authority : Correspondence) (g : Gate) (s : Store) (a : Store.Action) :
    posts (s.step (feed g authority) a).trace = [] := by
  obtain ⟨first, count, hreq⟩ := s.requests_step (feed g authority) a
  rw [posts, hreq, List.filter_eq_nil_iff]
  intro r hr
  obtain ⟨n, -, hn⟩ := List.mem_flatMap.mp hr
  rw [method_of_feed hn]
  decide

/-- The questions of one attempt, in number. -/
theorem posts_authenticate (s : Session) (authority : Authority) (hs : Headers) :
    (posts (s.gate.authenticate s.store.cache authority hs).trace).length
      = missed s (.authenticate hs) := by
  by_cases hm : s.gate.Misses s.store.cache hs
  · obtain ⟨c, hp, hk⟩ := id hm
    rw [posts, Gate.requests_of_misses hp hk, missed, if_pos hm]
    rfl
  · rw [posts, Gate.requests_of_not_misses hm, missed, if_neg hm]
    rfl

/-- **One step.** An action asks as often as it misses. -/
theorem posts_step (authority : Correspondence) (s : Session) (a : Action) :
    (posts (step authority s a).trace).length = missed s a := by
  cases a with
  | store a =>
    have hstore := posts_store authority s.gate s.store a
    have htrace : (step authority s (.store a)).trace
        = (s.store.step (feed s.gate authority) a).trace := List.append_nil _
    rw [htrace, hstore]
    rfl
  | startRefresh =>
    simp only [step]
    split <;> rfl
  | authenticate hs => exact posts_authenticate s _ hs
  | serve target hs =>
    have hserve := s.gate.requests_serve s.store.cache (authority.question s.questions) target hs
    show (posts (s.gate.serve _ _ target hs).trace).length = _
    rw [posts, hserve]
    exact posts_authenticate s _ hs

/-- **A run** asks in each of its steps as often as the step misses. -/
theorem posts_run (authority : Correspondence) (actions : List Action) : ∀ (s : Session),
    (run authority s actions).1.map (fun done => (posts done.trace).length)
      = misses authority s actions := by
  induction actions with
  | nil => intro s; rfl
  | cons a rest ih =>
    intro s
    rw [misses, ← posts_step authority s a, ← ih]
    rfl

/-- The questions of a run, in number. -/
theorem length_posts_run (authority : Correspondence) (s : Session) (actions : List Action) :
    (posts ((run authority s actions).1.flatMap Traced.trace)).length
      = (misses authority s actions).foldr (· + ·) 0 := by
  rw [← posts_run]
  induction (run authority s actions).1 with
  | nil => rfl
  | cons done rest ih =>
    rw [List.flatMap_cons, posts_append, List.length_append, ih]
    rfl

theorem url_of_posts_step {authority : Correspondence} {s : Session} {a : Action} {r : Request}
    (h : r ∈ posts (step authority s a).trace) : r.url = s.gate.verifier.url := by
  have hattempt : ∀ answer hs,
      r ∈ posts (s.gate.authenticate s.store.cache answer hs).trace →
        r.url = s.gate.verifier.url := by
    intro answer hs hr
    by_cases hm : s.gate.Misses s.store.cache hs
    · obtain ⟨c, hp, hk⟩ := hm
      rw [posts, Gate.requests_of_misses hp hk] at hr
      rw [List.mem_singleton.mp (List.mem_filter.mp hr).1]
      rfl
    · rw [posts, Gate.requests_of_not_misses hm] at hr
      cases hr
  -- an action that is no attempt misses nothing, so it has no question at all
  have hlength := posts_step authority s a
  cases a with
  | store a => exact absurd h (List.length_eq_zero_iff.mp hlength ▸ List.not_mem_nil)
  | startRefresh => exact absurd h (List.length_eq_zero_iff.mp hlength ▸ List.not_mem_nil)
  | authenticate hs => exact hattempt _ hs h
  | serve target hs =>
    have hserve := s.gate.requests_serve s.store.cache (authority.question s.questions) target hs
    apply hattempt (authority.question s.questions) hs
    rw [posts, ← hserve]
    exact h

theorem url_of_posts_run {authority : Correspondence} {actions : List Action} :
    ∀ {s : Session} {done : Traced Answer} {r : Request}, done ∈ (run authority s actions).1 →
      r ∈ posts done.trace → r.url = s.gate.verifier.url := by
  induction actions with
  | nil => intro s done r hdone; cases hdone
  | cons a rest ih =>
    intro s done r hdone hr
    rcases List.mem_cons.mp hdone with rfl | hrest
    · exact url_of_posts_step hr
    · rw [ih hrest hr, gate_step]

/-! ## Nothing is kept -/

/-- Requests leave the store as it is, so each is held against the snapshot of the first. -/
theorem run_authenticate (authority : Correspondence) (requests : List Headers) :
    ∀ (s : Session),
      (run authority s (requests.map .authenticate)).2.store = s.store ∧
        misses authority s (requests.map .authenticate)
          = requests.map fun hs => missed s (.authenticate hs) := by
  induction requests with
  | nil => intro s; exact ⟨rfl, rfl⟩
  | cons hs rest ih =>
    intro s
    obtain ⟨hstore, hmisses⟩ := ih (step authority s (.authenticate hs)).value.2
    exact ⟨hstore, congrArg (List.cons (missed s (.authenticate hs))) hmisses⟩

/-- **One question for each miss, and nothing kept of the answer.** In any run the questions go
to the address of the settings, and each action asks as often as it misses the snapshot in
force, which knows what the last update taken lists. -/
theorem posts_eq_misses {settings : Settings} {g : Gate}
    (hg : (Gate.ofSettings settings).value = .ok g) :
    g.Configured settings ∧
      (∀ cache authority hs, g.Exchanges cache authority hs) ∧
      (∀ correspondence (s : Session) (requests : List Headers),
        (run correspondence s (requests.map .authenticate)).2.store = s.store ∧
          misses correspondence s (requests.map .authenticate)
            = requests.map fun hs => missed s (.authenticate hs)) ∧
      ∀ (correspondence : Correspondence) (actions : List Action),
        ((run correspondence { gate := g } actions).1.map fun done => (posts done.trace).length)
            = misses correspondence { gate := g } actions ∧
          (posts ((run correspondence { gate := g } actions).1.flatMap Traced.trace)).length
            = (misses correspondence { gate := g } actions).foldr (· + ·) 0 ∧
          (∀ done ∈ (run correspondence { gate := g } actions).1, ∀ r ∈ posts done.trace,
            r.url = g.verifier.url) ∧
          ∀ c, (run correspondence { gate := g } actions).2.store.cache.current.Knows c
            ↔ (Update.lastTaken (history correspondence { gate := g } actions)).Lists c := by
  refine ⟨(Gate.ofSettings_eq_ok_iff.mp hg).2, g.exchanges, ?_, ?_⟩
  · intro correspondence s requests
    exact run_authenticate correspondence requests s
  intro correspondence actions
  refine ⟨posts_run correspondence actions _, length_posts_run correspondence _ actions, ?_, ?_⟩
  · intro done hdone r hr
    exact url_of_posts_run hdone hr
  · exact (records_run correspondence g actions).reflects.knows_iff

/-- A request that is asked about, made twice, then an update with its user, then the request
again. -/
def askingTwice : List Action :=
  [.authenticate [(.authorization, Gate.shadowingHeader)],
    .authenticate [(.authorization, Gate.shadowingHeader)],
    .store (.replace Gate.shadowing),
    .authenticate [(.authorization, Gate.shadowingHeader)]]

/-- The second request is asked about like the first, and the third is not. -/
theorem length_posts_askingTwice :
    (Gate.ofSettings Gate.loopbackSettings).value = .ok Gate.loopback ∧
      ((run ⟨fun _ => Gate.unreachable, fun _ => Gate.unreachable⟩ { gate := Gate.loopback }
        askingTwice).1.map fun done => (posts done.trace).length) = [1, 1, 0, 0] := by
  have hpresents : Gate.loopback.Presents [(.authorization, Gate.shadowingHeader)]
      (.password "foo" "admin-pass") := by
    refine ⟨?_, Gate.shadowingHeader, rfl, Gate.spells_shadowingHeader⟩
    intro v hv
    cases hv
  have hmiss : Gate.loopback.Misses Cache.empty [(.authorization, Gate.shadowingHeader)] := by
    refine ⟨_, hpresents, ?_⟩
    intro hk
    rcases (Snapshot.reflects_empty.knows_iff _).mp hk with ⟨a, ha, -⟩ | ⟨b, hb, -⟩
    · cases ha
    · cases hb
  have hhit : ¬ Gate.loopback.Misses (Cache.empty.replace Gate.shadowing).value.2
      [(.authorization, Gate.shadowingHeader)] := by
    rw [Gate.misses_iff_of_presents hpresents, Decidable.not_not]
    have hr := (Cache.records_offered [Gate.shadowing]).reflects
    rw [Gate.lastTaken_shadowing] at hr
    apply (hr.knows_iff _).mpr
    exact .inl ⟨Gate.foo, List.mem_cons_self, rfl⟩
  refine ⟨Gate.ofSettings_loopback, ?_⟩
  rw [((posts_eq_misses Gate.ofSettings_loopback).2.2.2 _ askingTwice).1]
  have hbefore : ∀ s : Session, s.gate = Gate.loopback → s.store.cache = Cache.empty →
      missed s (.authenticate [(.authorization, Gate.shadowingHeader)]) = 1 := by
    intro s hgate hcache
    rw [missed, hgate, hcache, if_pos hmiss]
  have hafter : ∀ s : Session, s.gate = Gate.loopback →
      s.store.cache = (Cache.empty.replace Gate.shadowing).value.2 →
      missed s (.authenticate [(.authorization, Gate.shadowingHeader)]) = 0 := by
    intro s hgate hcache
    rw [missed, hgate, hcache, if_neg hhit]
  simp only [askingTwice, misses, List.cons.injEq, and_true]
  exact ⟨hbefore _ rfl rfl, hbefore _ rfl rfl, rfl, hafter _ rfl rfl⟩

end Session

end Gatehouse
