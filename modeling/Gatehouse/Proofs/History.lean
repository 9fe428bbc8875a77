import Gatehouse.Proofs.Snapshot
import Gatehouse.Session

/-!
# What a cache has been through

A cache is offered updates: some are pushed, some are pulled by tasks while time passes. It
takes the sound ones and turns the others down, so all that a cache tells can be read off
the list of what it was offered (`Cache.Records`), and of that list only the last update
taken counts for a look-up.

The second half says what was offered in a run. A wait may tick many timers, in an order
that depends on their due times; but ticks fetch one after the other, so whatever the timers
do, a wait offers the updates of consecutive fetches (`Upkeep.Ran`). With that, the cache
after any run is a new cache that was offered the run's history (`Session.cache_run`).
-/

set_option autoImplicit false

namespace Gatehouse

/-! ## Offers -/

/-- Whether a cache takes the update. -/
def Update.isTaken (u : Update) : Bool := (Snapshot.ofUpdate u).isOk

/-- The last update that a cache takes from a list of offers, and no credentials at all if
it takes none. -/
def Update.lastTaken (offers : List Update) : Update :=
  (offers.filter Update.isTaken).getLast?.getD {}

theorem Update.isTaken_iff (u : Update) : u.isTaken = true ↔ u.Sound := by
  rw [← Snapshot.exists_ofUpdate_iff, Update.isTaken]
  cases Snapshot.ofUpdate u with
  | ok s => simp [Except.isOk, Except.toBool]
  | error fault => simp [Except.isOk, Except.toBool]

theorem Update.lastTaken_append_of_isTaken {u : Update} (offers : List Update)
    (h : u.isTaken = true) : lastTaken (offers ++ [u]) = u := by
  simp [lastTaken, List.filter_append, h]

theorem Update.lastTaken_append_of_not {u : Update} (offers : List Update)
    (h : u.isTaken = false) : lastTaken (offers ++ [u]) = lastTaken offers := by
  simp [lastTaken, List.filter_append, h]

/-- What is counted of an offer. -/
def Update.tally (u : Update) : Count :=
  .replacement (if u.isTaken then .installed else .rejected)

namespace Cache

theorem replace_of_ok (c : Cache) {u : Update} {s : Snapshot}
    (h : Snapshot.ofUpdate u = .ok s) :
    (c.replace u).value
      = (.ok (c.current.generation + 1), { current := s.install (c.current.generation + 1) }) := by
  unfold replace
  rw [h]
  rfl

/-- An update that is refused leaves the cache as it is. -/
theorem replace_of_error (c : Cache) {u : Update} {fault : UpdateFault}
    (h : Snapshot.ofUpdate u = .error fault) : (c.replace u).value = (.error fault, c) := by
  unfold replace
  rw [h]
  rfl

theorem counts_replace (c : Cache) (u : Update) :
    Effect.counts (c.replace u).trace = [u.tally] := by
  unfold replace Update.tally Update.isTaken
  cases Snapshot.ofUpdate u with
  | ok s => rfl
  | error fault => rfl

/-- The cache after some offers, one after the other. -/
def offered (c : Cache) (offers : List Update) : Cache :=
  offers.foldl (fun c u => (c.replace u).value.2) c

@[simp] theorem offered_nil (c : Cache) : c.offered [] = c := rfl

theorem offered_append (c : Cache) (first rest : List Update) :
    c.offered (first ++ rest) = (c.offered first).offered rest := List.foldl_append

/-- The cache tells what a new one tells after these offers: the entries of the last update
that was taken, and how many were. -/
structure Records (c : Cache) (offers : List Update) : Prop where
  reflects : c.current.Reflects (Update.lastTaken offers)
  generation : c.current.generation = (offers.filter Update.isTaken).length
  installed : c.current.installed = decide (0 < c.current.generation)

theorem records_empty : Cache.empty.Records [] := ⟨Snapshot.reflects_empty, rfl, rfl⟩

/-- One offer, taken or turned down. -/
theorem Records.replace {c : Cache} {offers : List Update} (h : c.Records offers) (u : Update) :
    (c.replace u).value.2.Records (offers ++ [u]) := by
  cases hu : Snapshot.ofUpdate u with
  | ok s =>
    have htaken : u.isTaken = true := by rw [Update.isTaken, hu]; rfl
    rw [replace_of_ok c hu]
    refine ⟨?_, ?_, ?_⟩
    · rw [Update.lastTaken_append_of_isTaken offers htaken]
      exact (Snapshot.Reflects.of_ofUpdate hu).install _
    · simp [List.filter_append, htaken, Snapshot.install, h.generation]
    · simp [Snapshot.install]
  | error fault =>
    have hnot : u.isTaken = false := by rw [Update.isTaken, hu]; rfl
    rw [replace_of_error c hu]
    refine ⟨?_, ?_, h.installed⟩
    · rw [Update.lastTaken_append_of_not offers hnot]
      exact h.reflects
    · simp [List.filter_append, hnot, h.generation]

theorem Records.offered {more : List Update} : ∀ {c : Cache} {offers : List Update},
    c.Records offers → (c.offered more).Records (offers ++ more) := by
  induction more with
  | nil => intro c offers h; rw [List.append_nil]; exact h
  | cons u more ih =>
    intro c offers h
    rw [List.append_cons]
    exact ih (h.replace u)

/-- **A new cache records what it is offered.** -/
theorem records_offered (offers : List Update) : (Cache.empty.offered offers).Records offers :=
  records_empty.offered

/-- A refresh offers what was fetched, if anything was. -/
theorem refresh_value (c : Cache) (fetched : Except UpdateFault Update) :
    (c.refresh fetched).value = c.offered fetched.toOption.toList := by
  cases fetched with
  | error fault => rfl
  | ok u =>
    unfold Cache.refresh
    rw [Traced.value_bind]
    cases (c.replace u).value.1 with
    | ok generation => rfl
    | error fault => rfl

/-- It counts the offer and nothing else. -/
theorem counts_refresh (c : Cache) (fetched : Except UpdateFault Update) :
    Effect.counts (c.refresh fetched).trace = fetched.toOption.toList.map Update.tally := by
  cases fetched with
  | error fault => rfl
  | ok u =>
    unfold Cache.refresh
    rw [Traced.trace_bind, Effect.counts_append, counts_replace]
    cases (c.replace u).value.1 with
    | ok generation => rfl
    | error fault => rfl

end Cache

/-! ## What tasks offer -/

/-- What some fetches in a row bring. -/
def Feed.pulled (feed : Feed) (first count : Nat) : List Update :=
  (List.range' first count).filterMap fun n => (feed n).value.toOption

/-- The requests made by some fetches in a row. -/
def Feed.requests (feed : Feed) (first count : Nat) : List Request :=
  (List.range' first count).flatMap fun n => Effect.requests (feed n).trace

/-- What is counted over some fetches in a row: by themselves, and of what they bring. -/
def Feed.counts (feed : Feed) (first count : Nat) : List Count :=
  (List.range' first count).flatMap fun n =>
    Effect.counts (feed n).trace ++ (feed n).value.toOption.toList.map Update.tally

theorem Feed.pulled_add (feed : Feed) (first m n : Nat) :
    feed.pulled first (m + n) = feed.pulled first m ++ feed.pulled (first + m) n := by
  rw [Feed.pulled, ← List.range'_append_1, List.filterMap_append]
  rfl

theorem Feed.requests_add (feed : Feed) (first m n : Nat) :
    feed.requests first (m + n) = feed.requests first m ++ feed.requests (first + m) n := by
  rw [Feed.requests, ← List.range'_append_1, List.flatMap_append]
  rfl

theorem Feed.counts_add (feed : Feed) (first m n : Nat) :
    feed.counts first (m + n) = feed.counts first m ++ feed.counts (first + m) n := by
  rw [Feed.counts, ← List.range'_append_1, List.flatMap_append]
  rfl

/-- Fetches that count nothing leave the offers to be counted. -/
theorem Feed.counts_of_quiet {feed : Feed} (h : ∀ n, Effect.counts (feed n).trace = [])
    (first count : Nat) : feed.counts first count = (feed.pulled first count).map Update.tally := by
  unfold Feed.counts Feed.pulled
  induction List.range' first count with
  | nil => rfl
  | cons n rest ih =>
    rw [List.flatMap_cons, ih, h]
    cases hn : (feed n).value.toOption <;> simp [hn]

namespace Upkeep

/-- Tasks have run for `count` fetches and done nothing else to the cache, to the authority or
to the counters. -/
structure Ran (feed : Feed) (w : Upkeep) (count : Nat) (done : Traced Upkeep) : Prop where
  fetches : done.value.fetches = w.fetches + count
  cache : done.value.cache = w.cache.offered (feed.pulled w.fetches count)
  requests : Effect.requests done.trace = feed.requests w.fetches count
  counts : Effect.counts done.trace = feed.counts w.fetches count

theorem Ran.none {feed : Feed} {w w' : Upkeep} (hf : w'.fetches = w.fetches)
    (hc : w'.cache = w.cache) : Ran feed w 0 (pure w') := ⟨hf, hc, rfl, rfl⟩

/-- Only cache and fetches of the beginning count, not its timers. -/
theorem Ran.congr {feed : Feed} {w w' : Upkeep} {count : Nat} {done : Traced Upkeep}
    (h : Ran feed w count done) (hf : w.fetches = w'.fetches) (hc : w.cache = w'.cache) :
    Ran feed w' count done :=
  ⟨hf ▸ h.fetches, hf ▸ hc ▸ h.cache, hf ▸ h.requests, hf ▸ h.counts⟩

theorem Ran.bind {feed : Feed} {w : Upkeep} {x : Traced Upkeep} {f : Upkeep → Traced Upkeep}
    {m n : Nat} (hx : Ran feed w m x) (hf : Ran feed x.value n (f x.value)) :
    Ran feed w (m + n) (x >>= f) := by
  refine ⟨?_, ?_, ?_, ?_⟩
  · rw [Traced.value_bind, hf.fetches, hx.fetches, Nat.add_assoc]
  · rw [Traced.value_bind, hf.cache, hx.cache, hx.fetches, Feed.pulled_add, Cache.offered_append]
  · rw [Traced.trace_bind, Effect.requests_append, hx.requests, hf.requests, hx.fetches,
      Feed.requests_add]
  · rw [Traced.trace_bind, Effect.counts_append, hx.counts, hf.counts, hx.fetches,
      Feed.counts_add]

theorem requests_replace (c : Cache) (u : Update) :
    Effect.requests (c.replace u).trace = [] := by
  unfold Cache.replace
  cases Snapshot.ofUpdate u with
  | ok s => rfl
  | error fault => rfl

theorem requests_refresh (c : Cache) (fetched : Except UpdateFault Update) :
    Effect.requests (c.refresh fetched).trace = [] := by
  cases fetched with
  | error fault => rfl
  | ok u =>
    unfold Cache.refresh
    rw [Traced.trace_bind, Effect.requests_append, requests_replace, List.nil_append]
    cases (c.replace u).value.1 with
    | ok generation => rfl
    | error fault => rfl

/-- **One tick is one fetch.** -/
theorem ran_tick (feed : Feed) (w : Upkeep) : Ran feed w 1 (tick feed w) where
  fetches := rfl
  cache := by
    show (w.cache.refresh (feed w.fetches).value).value = _
    rw [Cache.refresh_value]
    rfl
  requests := by simp [tick, Feed.requests, requests_refresh]
  counts := by simp [tick, Feed.counts, Cache.counts_refresh]

/-- New tasks run for some number of fetches. -/
theorem ran_start (feed : Feed) (intervals : List Nat) : ∀ (w : Upkeep),
    ∃ count, Ran feed w count (start feed intervals w) := by
  induction intervals with
  | nil => intro w; exact ⟨0, .none rfl rfl⟩
  | cons interval rest ih =>
    intro w
    rw [start]
    by_cases hi : 0 < interval
    · rw [dif_pos hi]
      let w' : Upkeep := { w with waiting := w.waiting ++ [⟨w.now + interval, interval, hi⟩] }
      obtain ⟨count, hrest⟩ := ih (tick feed w').value
      have hfirst : Ran feed w 1 (tick feed w') := (ran_tick feed w').congr rfl rfl
      exact ⟨1 + count, hfirst.bind hrest⟩
    · rw [dif_neg hi]
      exact ih w

theorem ran_runUntil (feed : Feed) (limit : Nat) (w : Upkeep) :
    ∃ count, Ran feed w count (runUntil feed limit w) := by
  fun_induction runUntil feed limit w with
  | case1 w hw => exact ⟨0, .none rfl rfl⟩
  | case2 w t rest hw first others hdue ticked final ih =>
    -- which timer is first does not matter: its tick makes the next fetch
    obtain ⟨count, hrest⟩ := ih
    have hfirst : Ran feed w 1 ticked := (ran_tick feed _).congr rfl rfl
    exact ⟨1 + count, hfirst.bind hrest⟩
  | case3 w t rest hw first hdue => exact ⟨0, .none rfl rfl⟩

/-- **A wait is some fetches in a row**, whatever the timers are. -/
theorem ran_wait (feed : Feed) (milliseconds : Nat) (w : Upkeep) :
    ∃ count, Ran feed w count (wait feed milliseconds w) := by
  obtain ⟨m, hstart⟩ := ran_start feed w.starting { w with starting := [] }
  obtain ⟨n, hrun⟩ := ran_runUntil feed (w.now + milliseconds)
    (start feed w.starting { w with starting := [] }).value
  have hfirst : Ran feed w m (start feed w.starting { w with starting := [] }) :=
    hstart.congr rfl rfl
  exact ⟨m + n, hfirst.bind hrun⟩

end Upkeep

/-! ## What a run offers -/

namespace Store

/-- What an action offers the cache: the update that is pushed, or those that are pulled. -/
def offers (feed : Feed) (s : Store) (a : Action) : List Update :=
  match a with
  | .replace u => [u]
  | .wait _ =>
    feed.pulled s.upkeep.fetches ((step feed s a).value.2.upkeep.fetches - s.upkeep.fetches)
  | _ => []

/-- One action offers the cache what it pushes or pulls. -/
theorem cache_step (feed : Feed) (s : Store) (a : Action) :
    (step feed s a).value.2.cache = s.cache.offered (offers feed s a) := by
  cases a with
  | replace u => rfl
  | lookupAdmin name => rfl
  | lookupBucket name => rfl
  | lookupToken token => rfl
  | figures => rfl
  | hold label => rfl
  | held label key =>
    simp only [step, offers, Cache.offered_nil]
    split <;> rfl
  | spawn interval => rfl
  | wait milliseconds =>
    -- how many fetches a wait has made can be told from the counter
    obtain ⟨count, hran⟩ := s.upkeep.ran_wait feed milliseconds
    show (s.upkeep.wait feed milliseconds).value.cache = s.upkeep.cache.offered
      (feed.pulled s.upkeep.fetches
        ((s.upkeep.wait feed milliseconds).value.fetches - s.upkeep.fetches))
    rw [hran.cache, hran.fetches, Nat.add_sub_cancel_left]
  | abort => rfl

/-- The only requests of a store are those of its fetches. -/
theorem requests_step (feed : Feed) (s : Store) (a : Action) :
    ∃ first count, Effect.requests (step feed s a).trace = feed.requests first count := by
  cases a with
  | replace u =>
    refine ⟨0, 0, ?_⟩
    simp [step, Upkeep.requests_replace, Feed.requests]
  | held label key =>
    refine ⟨0, 0, ?_⟩
    simp only [step]
    split <;> rfl
  | wait milliseconds =>
    obtain ⟨count, hran⟩ := s.upkeep.ran_wait feed milliseconds
    refine ⟨s.upkeep.fetches, count, ?_⟩
    rw [← hran.requests]
    simp [step]
  | lookupAdmin | lookupBucket | lookupToken | figures | hold | spawn | abort =>
    exact ⟨0, 0, rfl⟩

/-- What is counted of an action on a store are its offers, if fetching counts nothing. -/
theorem counts_step {feed : Feed} (h : ∀ n, Effect.counts (feed n).trace = []) (s : Store)
    (a : Action) : Effect.counts (step feed s a).trace = (offers feed s a).map Update.tally := by
  cases a with
  | replace u => simp [step, offers, Cache.counts_replace]
  | held label key =>
    simp only [step, offers]
    split <;> rfl
  | wait milliseconds =>
    obtain ⟨count, hran⟩ := s.upkeep.ran_wait feed milliseconds
    have hfetches : (step feed s (.wait milliseconds)).value.2.upkeep.fetches
        = s.upkeep.fetches + count := hran.fetches
    rw [offers, hfetches, Nat.add_sub_cancel_left, ← Feed.counts_of_quiet h, ← hran.counts]
    simp [step]
  | lookupAdmin | lookupBucket | lookupToken | figures | hold | spawn | abort => rfl

end Store

namespace Session

/-- What an action offers the cache of a gate. -/
def offers (authority : Correspondence) (s : Session) : Action → List Update
  | .store a => s.store.offers (feed s.gate authority) a
  | _ => []

/-- All that the cache is offered in a run, in order. -/
def history (authority : Correspondence) : Session → List Action → List Update
  | _, [] => []
  | s, a :: rest => offers authority s a ++ history authority (step authority s a).value.2 rest

theorem gate_step (authority : Correspondence) (s : Session) (a : Action) :
    (step authority s a).value.2.gate = s.gate := by
  cases a with
  | store a => rfl
  | startRefresh =>
    simp only [step]
    split <;> rfl
  | authenticate headers => rfl
  | serve target headers => rfl

theorem cache_step (authority : Correspondence) (s : Session) (a : Action) :
    (step authority s a).value.2.store.cache
      = s.store.cache.offered (offers authority s a) := by
  cases a with
  | store a => exact Store.cache_step (feed s.gate authority) s.store a
  | startRefresh =>
    simp only [step]
    split <;> rfl
  | authenticate headers => rfl
  | serve target headers => rfl

theorem gate_run (authority : Correspondence) (actions : List Action) : ∀ (s : Session),
    (run authority s actions).2.gate = s.gate := by
  induction actions with
  | nil => intro s; rfl
  | cons a rest ih =>
    intro s
    exact (ih _).trans (gate_step authority s a)

/-- **A run leaves the cache that its history makes.** -/
theorem cache_run (authority : Correspondence) (actions : List Action) : ∀ (s : Session),
    (run authority s actions).2.store.cache
      = s.store.cache.offered (history authority s actions) := by
  induction actions with
  | nil => intro s; rfl
  | cons a rest ih =>
    intro s
    rw [history, Cache.offered_append, ← cache_step]
    exact ih _

/-- The cache of a gate that began with an empty one records the history of its run. -/
theorem records_run (authority : Correspondence) (g : Gate) (actions : List Action) :
    (run authority { gate := g } actions).2.store.cache.Records
      (history authority { gate := g } actions) := by
  rw [cache_run]
  exact Cache.records_offered _

end Session

end Gatehouse
