import Gatehouse.Proofs.Generations
import Gatehouse.Proofs.Json.Document
import Gatehouse.Proofs.Puller
import Gatehouse.Proofs.Tasks

/-!
# What tasks do for a cache

A task should keep a cache up to date for as long as it runs: it fetches on time, whatever
the last fetch has brought, what it brings is in force if it is sound, and a source that is
down for a while costs nothing but the updates of that while. `Store.Refreshes` collects these
laws, for one task and for many, with and without updates that are pushed.

How often was fetched is known from `Store.fetches_run`, and what becomes of an offer from
`Cache.took_offered`. What is left to show is which offers a run makes (`merges_run`): those
that are pulled and those that are pushed, both in their own order.
-/

set_option autoImplicit false

namespace Gatehouse

namespace Store

/-! ## What a run offers -/

/-- The updates that are pushed in a run. -/
def pushed (actions : List Action) : List Update :=
  actions.filterMap fun
    | .replace u => some u
    | _ => none

/-- The milliseconds that pass in a run. -/
def waited : List Action → Nat
  | [] => 0
  | .wait milliseconds :: rest => milliseconds + waited rest
  | _ :: rest => waited rest

/-- Whether an action leaves the cache and the tasks to themselves. -/
def Action.watches : Action → Bool
  | .replace _ | .spawn _ | .abort => false
  | _ => true

/-- Offers from two sides, each in its order. -/
structure Merges (offers pulled pushed : List Update) : Prop where
  perm : offers.Perm (pulled ++ pushed)
  pulled : pulled.Sublist offers
  pushed : pushed.Sublist offers

namespace Merges

variable {offers offers' pulled pulled' pushed pushed' : List Update}

theorem of_append (pulled pushed : List Update) : Merges (pulled ++ pushed) pulled pushed :=
  ⟨.refl _, List.sublist_append_left .., List.sublist_append_right ..⟩

theorem append (h : Merges offers pulled pushed) (h' : Merges offers' pulled' pushed') :
    Merges (offers ++ offers') (pulled ++ pulled') (pushed ++ pushed') := by
  refine ⟨?_, h.pulled.append h'.pulled, h.pushed.append h'.pushed⟩
  calc
    List.Perm (offers ++ offers') ((pulled ++ pushed) ++ (pulled' ++ pushed')) :=
      h.perm.append h'.perm
    _ = pulled ++ (pushed ++ pulled') ++ pushed' := by simp only [List.append_assoc]
    List.Perm _ (pulled ++ (pulled' ++ pushed) ++ pushed') :=
      (List.perm_append_comm.append_left pulled).append_right pushed'
    _ = (pulled ++ pulled') ++ (pushed ++ pushed') := by simp only [List.append_assoc]

theorem eq_pulled (h : Merges offers pulled []) : offers = pulled := by
  have hlen := h.perm.length_eq
  rw [List.append_nil] at hlen
  exact (h.pulled.eq_of_length hlen.symm).symm

theorem eq_pushed (h : Merges offers [] pushed) : offers = pushed :=
  (h.pushed.eq_of_length h.perm.length_eq.symm).symm

/-- Of offers from two sides as many are taken as of each side by itself. -/
theorem length_taken (h : Merges offers pulled pushed) : (Update.taken offers).length
    = (Update.taken pulled).length + (Update.taken pushed).length := by
  rw [← List.length_append, ← Update.taken_append]
  exact (h.perm.filter _).length_eq

end Merges

/-- One action offers what it pulls, or what it pushes. -/
theorem merges_step (feed : Feed) (s : Store) (a : Action) :
    ∃ count, (step feed s a).value.2.upkeep.fetches = s.upkeep.fetches + count ∧
      Merges (s.offers feed a) (feed.pulled s.upkeep.fetches count) (pushed [a]) := by
  cases a with
  | replace u => exact ⟨0, rfl, .of_append [] [u]⟩
  | wait milliseconds =>
    obtain ⟨count, hran⟩ := s.upkeep.ran_wait feed milliseconds
    have hoffers : s.offers feed (.wait milliseconds)
        = feed.pulled s.upkeep.fetches count ++ [] := by
      show feed.pulled _ ((s.upkeep.wait feed milliseconds).value.fetches - _) = _
      rw [hran.fetches, Nat.add_sub_cancel_left, List.append_nil]
    exact ⟨count, hran.fetches, hoffers ▸ .of_append ..⟩
  | held label key =>
    refine ⟨0, ?_, .of_append [] []⟩
    simp only [step]
    split <;> rfl
  | lookupAdmin | lookupBucket | lookupToken | figures | hold | spawn | abort =>
    exact ⟨0, rfl, .of_append [] []⟩

/-- **A run offers** what its fetches bring, and what is pushed. -/
theorem merges_run (feed : Feed) (actions : List Action) : ∀ (s : Store),
    ∃ count, (run feed s actions).2.upkeep.fetches = s.upkeep.fetches + count ∧
      Merges (history feed s actions) (feed.pulled s.upkeep.fetches count) (pushed actions) := by
  induction actions with
  | nil => intro s; exact ⟨0, rfl, .of_append [] []⟩
  | cons a rest ih =>
    intro s
    obtain ⟨m, hfirst, hoffers⟩ := merges_step feed s a
    obtain ⟨n, hrest, hhistory⟩ := ih (step feed s a).value.2
    refine ⟨m + n, ?_, ?_⟩
    · rw [← Nat.add_assoc, ← hfirst]
      exact hrest
    · rw [hfirst] at hhistory
      rw [Feed.pulled_add, ← List.singleton_append, pushed, List.filterMap_append]
      exact hoffers.append hhistory

/-! ## The tasks of a run that is only watched -/

theorem roster_waiting {rest : List Action} (h : ∀ a ∈ rest, a.watches = true) :
    ∀ (milliseconds : Nat) (ts : List Task), rest.foldl roster (ts.map (Task.wait milliseconds))
      = ts.map (Task.wait (milliseconds + waited rest)) := by
  induction rest with
  | nil => exact fun _ _ => rfl
  | cons a rest ih =>
    intro milliseconds ts
    have hrest := ih fun b hb => h b (List.mem_cons_of_mem a hb)
    cases a with
    | wait more =>
      rw [List.foldl_cons, roster, Task.map_wait_wait, hrest, Nat.add_assoc]
      rfl
    | replace | spawn | abort => exact absurd (h _ List.mem_cons_self) Bool.false_ne_true
    | lookupAdmin | lookupBucket | lookupToken | figures | hold | held =>
      exact hrest milliseconds ts

/-- If there is a wait at all, tasks age by the time that passes. -/
theorem roster_watched {rest : List Action} (h : ∀ a ∈ rest, a.watches = true)
    {milliseconds : Nat} (hwait : .wait milliseconds ∈ rest) (ts : List Task) :
    rest.foldl roster ts = ts.map (Task.wait (waited rest)) := by
  induction rest with
  | nil => cases hwait
  | cons a rest ih =>
    have hwatch : ∀ b ∈ rest, b.watches = true := fun b hb => h b (List.mem_cons_of_mem a hb)
    have hlater : .wait milliseconds ≠ a → .wait milliseconds ∈ rest := fun hne =>
      (List.mem_cons.mp hwait).resolve_left hne
    cases a with
    | wait first => exact roster_waiting hwatch first ts
    | replace | spawn | abort => exact absurd (h _ List.mem_cons_self) Bool.false_ne_true
    | lookupAdmin | lookupBucket | lookupToken | figures | hold | held =>
      exact ih hwatch (hlater nofun)

theorem roster_unspawned {rest : List Action} (h : ∀ interval, .spawn interval ∉ rest) :
    rest.foldl roster [] = [] := by
  induction rest with
  | nil => rfl
  | cons a rest ih =>
    have hrest := ih fun interval hmem => h interval (List.mem_cons_of_mem a hmem)
    cases a with
    | spawn interval => exact absurd List.mem_cons_self (h interval)
    | _ => exact hrest

theorem pushed_watched {rest : List Action} (h : ∀ a ∈ rest, a.watches = true) :
    pushed rest = [] := by
  apply List.filterMap_eq_nil_iff.mpr
  intro a ha
  cases a with
  | replace u => exact absurd (h _ ha) Bool.false_ne_true
  | _ => rfl

/-! ## The laws -/

/-- How many updates are taken of offers from several sides, counted side by side. -/
def takenApart : List (List Update) → Nat
  | [] => 0
  | part :: rest => (Update.taken part).length + takenApart rest

/-- What tasks do for a store, whatever their source brings. -/
structure Refreshes (feed : Feed) : Prop where
  /-- A task by itself has fetched at once and after every interval. The generation has counted
  the sound updates, and the last of them is in force. -/
  alone {s : Store} {interval milliseconds : Nat} {rest : List Action} (hs : s.Idle)
    (hi : 0 < interval) (hwatch : ∀ a ∈ rest, a.watches = true)
    (hwait : .wait milliseconds ∈ rest) :
    (run feed s (.spawn interval :: rest)).2.upkeep.fetches
        = s.upkeep.fetches + (waited rest / interval + 1) ∧
      s.cache.Took (Update.taken (feed.pulled s.upkeep.fetches (waited rest / interval + 1)))
        (run feed s (.spawn interval :: rest)).2.cache
  /-- A tick without a sound update is counted and changes nothing, neither cache nor timers. -/
  fruitless (w : Upkeep) (h : ∀ u, (feed w.fetches).value = .ok u → ¬ u.Sound) :
    (Upkeep.tick feed w).value = { w with fetches := w.fetches + 1 }
  /-- When tasks are aborted they fetch and install no more, so that only what is pushed counts. -/
  aborted (s : Store) {rest : List Action} (h : ∀ interval, .spawn interval ∉ rest) :
    (run feed s (.abort :: rest)).2.upkeep.fetches = s.upkeep.fetches ∧
      (run feed s (.abort :: rest)).2.cache = s.cache.offered (pushed rest)
  /-- A tick that pulls from the authority is one request, and it installs what the authority
  answers with, if that is a sound update. -/
  pulled {p : Puller} {authority : Nat → Authority} (h : ∀ n, feed n = p.fetch (authority n))
    (w : Upkeep) : Effect.requests (Upkeep.tick feed w).trace = [⟨.get, p.url, p.headers⟩] ∧
      ((Upkeep.tick feed w).value.cache.current.generation = w.cache.current.generation + 1 ↔
        ∃ u, p.Brings (authority w.fetches) u ∧ u.Sound) ∧
      ∀ u, p.Brings (authority w.fetches) u →
        w.cache.Took (Update.taken [u]) (Upkeep.tick feed w).value.cache
  /-- In any run the fetches of all tasks add up, and so do the updates taken from tasks and
  those taken from elsewhere. -/
  together {s : Store} (hs : s.Idle) (actions : List Action) : ∃ pulled,
    pulled = feed.pulled s.upkeep.fetches (Task.allFetches (actions.foldl roster [])) ∧
      (run feed s actions).2.upkeep.fetches
        = s.upkeep.fetches + Task.allFetches (actions.foldl roster []) ∧
      Merges (history feed s actions) pulled (pushed actions) ∧
      s.cache.Took (Update.taken (history feed s actions)) (run feed s actions).2.cache ∧
      (run feed s actions).2.cache.current.generation = s.cache.current.generation
        + ((Update.taken pulled).length + (Update.taken (pushed actions)).length)
  /-- The same for any course, in whatever order tasks tick, and for any division of the offers
  among those who make them. -/
  shared {s t : Store} {offers : List Update} (h : Course feed s offers t) :
    s.cache.Took (Update.taken offers) t.cache ∧
      ∀ {parts : List (List Update)}, offers.Perm parts.flatten →
        t.cache.current.generation = s.cache.current.generation
          + takenApart parts

/-! ### Ticks -/

theorem took_tick {feed : Feed} {w : Upkeep} {u : Update} (h : (feed w.fetches).value = .ok u) :
    w.cache.Took (Update.taken [u]) (Upkeep.tick feed w).value.cache := by
  rw [Course.cache_tick, h]
  exact w.cache.took_offered [u]

/-- A fetch that brings nothing sound is counted, and that is all. -/
theorem tick_of_fruitless {feed : Feed} {w : Upkeep}
    (h : ∀ u, (feed w.fetches).value = .ok u → ¬ u.Sound) :
    (Upkeep.tick feed w).value = { w with fetches := w.fetches + 1 } := by
  have hcache : (w.cache.refresh (feed w.fetches).value).value = w.cache := by
    rw [Cache.refresh_value]
    cases hf : (feed w.fetches).value with
    | error fault => rfl
    | ok u =>
      obtain ⟨fault, hu⟩ := Update.exists_fault_of_not_sound (h u hf)
      show (w.cache.replace u).value.2 = w.cache
      rw [w.cache.replace_of_error hu]
  show { w with cache := (w.cache.refresh (feed w.fetches).value).value, fetches := w.fetches + 1 }
    = { w with fetches := w.fetches + 1 }
  rw [hcache]

theorem generation_tick_iff {feed : Feed} {w : Upkeep} :
    (Upkeep.tick feed w).value.cache.current.generation = w.cache.current.generation + 1 ↔
      ∃ u, (feed w.fetches).value = .ok u ∧ u.Sound := by
  constructor
  · intro hg
    apply Classical.byContradiction
    intro hno
    have hsame : (Upkeep.tick feed w).value = { w with fetches := w.fetches + 1 } :=
      tick_of_fruitless fun u hf hu => hno ⟨u, hf, hu⟩
    rw [hsame] at hg
    exact absurd hg (Nat.ne_of_lt (Nat.lt_succ_self _))
  · rintro ⟨u, hf, hu⟩
    have htook := took_tick hf
    rw [Update.taken_of_sound hu] at htook
    exact htook.generation

theorem requests_tick {feed : Feed} {p : Puller} {authority : Nat → Authority}
    (h : ∀ n, feed n = p.fetch (authority n)) (w : Upkeep) :
    Effect.requests (Upkeep.tick feed w).trace = [p.request] := by
  rw [(Upkeep.ran_tick feed w).requests, Feed.requests, List.range'_one, List.flatMap_singleton,
    h, Puller.requests_fetch]

/-! ### Runs -/

theorem cache_run (feed : Feed) (s : Store) (actions : List Action) :
    (run feed s actions).2.cache = s.cache.offered (history feed s actions) :=
  (Course.run feed actions s).cache

theorem took_run (feed : Feed) (s : Store) (actions : List Action) :
    s.cache.Took (Update.taken (history feed s actions)) (run feed s actions).2.cache := by
  rw [cache_run]
  exact s.cache.took_offered _

/-- A run of which the fetches are known has pulled what these bring. -/
theorem merges_of_fetches {feed : Feed} {s : Store} {actions : List Action} {count : Nat}
    (h : (run feed s actions).2.upkeep.fetches = s.upkeep.fetches + count) :
    Merges (history feed s actions) (feed.pulled s.upkeep.fetches count) (pushed actions) := by
  obtain ⟨n, hfetches, hmerges⟩ := merges_run feed actions s
  obtain rfl : n = count := Nat.add_left_cancel (hfetches.symm.trans h)
  exact hmerges

/-- A task by itself fetches at once, and after every interval. -/
theorem fetches_alone (feed : Feed) {s : Store} {interval milliseconds : Nat}
    {rest : List Action} (hs : s.Idle) (hi : 0 < interval)
    (hwatch : ∀ a ∈ rest, a.watches = true) (hwait : .wait milliseconds ∈ rest) :
    (run feed s (.spawn interval :: rest)).2.upkeep.fetches
      = s.upkeep.fetches + (waited rest / interval + 1) := by
  have hroster : (Action.spawn interval :: rest).foldl roster []
      = [{ interval, age := some (0 + waited rest) }] :=
    roster_watched hwatch hwait [{ interval }]
  rw [fetches_run feed hs, hroster, Nat.zero_add]
  exact congrArg _ (if_pos hi)

/-- Without pushes the offers of a run are those of its fetches, in their order. -/
theorem took_of_fetches {feed : Feed} {s : Store} {actions : List Action} {count : Nat}
    (hpushed : pushed actions = [])
    (h : (run feed s actions).2.upkeep.fetches = s.upkeep.fetches + count) :
    s.cache.Took (Update.taken (feed.pulled s.upkeep.fetches count))
      (run feed s actions).2.cache := by
  have hmerges := merges_of_fetches h
  rw [hpushed] at hmerges
  rw [← hmerges.eq_pulled]
  exact took_run ..

theorem fetches_aborted (feed : Feed) (s : Store) {rest : List Action}
    (h : ∀ interval, .spawn interval ∉ rest) :
    (run feed s (.abort :: rest)).2.upkeep.fetches = s.upkeep.fetches := by
  have hidle : Idle (step feed s .abort).value.2 := ⟨rfl, rfl⟩
  have hfetches := fetches_run feed hidle rest
  rw [roster_unspawned h] at hfetches
  exact hfetches

/-- Without fetches they are those that are pushed. -/
theorem cache_of_fetches {feed : Feed} {s : Store} {actions : List Action}
    (h : (run feed s actions).2.upkeep.fetches = s.upkeep.fetches) :
    (run feed s actions).2.cache = s.cache.offered (pushed actions) := by
  have hmerges : Merges _ (feed.pulled s.upkeep.fetches 0) _ := merges_of_fetches h
  rw [cache_run, hmerges.eq_pushed]

theorem length_taken_flatten (parts : List (List Update)) :
    (Update.taken parts.flatten).length = takenApart parts := by
  induction parts with
  | nil => rfl
  | cons part rest ih =>
    rw [List.flatten_cons, Update.taken_append, List.length_append, ih]
    rfl

/-- **Tasks keep these laws**, with any source. -/
theorem refreshes (feed : Feed) : Refreshes feed where
  alone := by
    intro s interval milliseconds rest hs hi hwatch hwait
    have hfetches := fetches_alone feed hs hi hwatch hwait
    have hpushed : pushed (.spawn interval :: rest) = [] :=
      show pushed rest = [] from pushed_watched hwatch
    exact ⟨hfetches, took_of_fetches hpushed hfetches⟩
  fruitless w h := tick_of_fruitless h
  aborted := by
    intro s rest h
    have hfetches := fetches_aborted feed s h
    exact ⟨hfetches, cache_of_fetches hfetches⟩
  pulled := by
    intro p authority h w
    have hfeed : ∀ {u}, (feed w.fetches).value = .ok u ↔ p.Brings (authority w.fetches) u := by
      intro u
      rw [h]
      exact Puller.fetch_eq_ok_iff
    refine ⟨requests_tick h w, ?_, fun u hu => took_tick (hfeed.mpr hu)⟩
    rw [generation_tick_iff]
    exact exists_congr fun u => and_congr_left' hfeed
  together := by
    intro s hs actions
    have hfetches := fetches_run feed hs actions
    have hmerges := merges_of_fetches hfetches
    have htook := took_run feed s actions
    exact ⟨_, rfl, hfetches, hmerges, htook, hmerges.length_taken ▸ htook.generation⟩
  shared := by
    intro s t offers h
    have htook : s.cache.Took (Update.taken offers) t.cache := by
      rw [h.cache]
      exact s.cache.took_offered offers
    refine ⟨htook, ?_⟩
    intro parts hparts
    rw [htook.generation, ← length_taken_flatten]
    exact congrArg _ (hparts.filter _).length_eq

/-- A source that brings a sound update, fails, brings one that is refused, and goes on. -/
def flaky : Feed
  | 0 => pure (.ok fooUpdate)
  | 1 => pure (.error (.notFetched "no answer"))
  | 2 => pure (.ok twiceUpdate)
  | _ => pure (.ok (Update.new 6))

theorem taken_flaky : Update.taken (flaky.pulled 0 3) = [fooUpdate] := by
  show Update.taken ([fooUpdate] ++ [twiceUpdate]) = _
  rw [Update.taken_append, Update.taken_of_sound sound_fooUpdate,
    Update.taken_of_not_sound not_sound_twiceUpdate]
  rfl

theorem tells_of_took {cache : Cache} (h : ({} : Cache).Took [fooUpdate] cache) :
    cache.current.Tells fooUpdate 1 := by
  obtain ⟨hno, -⟩ | ⟨u, hu, hinstalls⟩ := h.current
  · cases hno
  · obtain rfl : fooUpdate = u := Option.some.inj hu
    rw [show _ = 1 from h.generation] at hinstalls
    exact hinstalls.tells Nat.one_pos

/-- A look-up between two waits, and two and a half intervals of the task in all. -/
def watching : List Action := [.wait 700, .lookupBucket "foo", .wait 1800]

/-- A puller. -/
def watcher : Puller := ⟨"http://127.0.0.1:8091/snapshot", []⟩

/-- Its authority answers with an update and `200 OK`, and with the same update and another
status from then on. -/
def ailing (n : Nat) : Authority := fun _ => .ok
  { status := if n = 0 then Status.ok else 503
    body := Utf8.encode (Json.write fooUpdate.toDatum)
    complaint := "" }

theorem brings_ailing : watcher.Brings (ailing 0) fooUpdate := by
  have hbuckets : Datum.Plain (.array (fooUpdate.buckets.map BucketCredential.toDatum)) :=
    .array (List.forall_mem_singleton.mpr (.object (by simp)))
  have hplain : fooUpdate.toDatum.Plain :=
    .object (by simpa [hbuckets] using ⟨Datum.Plain.array nofun, Datum.Plain.array nofun⟩)
  refine ⟨_, rfl, rfl, ?_⟩
  rw [Update.ofBody, Json.read_write hplain]
  rfl

theorem not_brings_ailing {n : Nat} (h : n ≠ 0) (u : Update) : ¬ watcher.Brings (ailing n) u := by
  rintro ⟨reply, hreply, hstatus, -⟩
  cases hreply
  rw [if_neg h] at hstatus
  cases hstatus

/-- What is pulled from it. -/
def pulls : Feed := fun n => watcher.fetch (ailing n)

/-- The task of a flaky source has fetched three times, and the update of the first time is in
force still. The puller has asked for its update, which is in force after the first tick and
stays so when the second answer is none. -/
theorem refreshes_flaky : Idle {} ∧ (∀ a ∈ watching, a.watches = true) ∧
    (run flaky {} (.spawn 1000 :: watching)).2.upkeep.fetches = 3 ∧
    (run flaky {} (.spawn 1000 :: watching)).2.cache.current.Tells fooUpdate 1 ∧
    Effect.requests (Upkeep.tick pulls {}).trace
      = [⟨.get, "http://127.0.0.1:8091/snapshot", []⟩] ∧
    (Upkeep.tick pulls {}).value.cache.current.Tells fooUpdate 1 ∧
    (Upkeep.tick pulls (Upkeep.tick pulls {}).value).value
      = { (Upkeep.tick pulls {}).value with fetches := 2 } := by
  have hidle : Idle {} := ⟨rfl, rfl⟩
  have hwatch : ∀ a ∈ watching, a.watches = true := by decide
  have hinterval : 0 < 1000 := by decide
  have hwait : .wait 700 ∈ watching := List.mem_cons_self
  obtain ⟨hfetches, htook⟩ := (refreshes flaky).alone hidle hinterval hwatch hwait
  have hcount : ({} : Store).upkeep.fetches + (waited watching / 1000 + 1) = 3 := by decide
  have htaken : Update.taken (flaky.pulled 0 (waited watching / 1000 + 1)) = [fooUpdate] :=
    taken_flaky
  rw [htaken] at htook
  obtain ⟨hrequests, -, htaken'⟩ := (refreshes pulls).pulled (fun _ => rfl) {}
  have htook' := htaken' fooUpdate brings_ailing
  rw [Update.taken_of_sound sound_fooUpdate] at htook'
  have hfruitless : ∀ u, (pulls 1).value = .ok u → ¬ u.Sound := fun u hu =>
    absurd (Puller.fetch_eq_ok_iff.mp hu) (not_brings_ailing Nat.one_ne_zero u)
  exact ⟨hidle, hwatch, hfetches.trans hcount, tells_of_took htook, hrequests,
    tells_of_took htook', (refreshes pulls).fruitless _ hfruitless⟩

end Store

end Gatehouse
