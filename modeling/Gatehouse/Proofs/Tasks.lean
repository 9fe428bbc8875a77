import Gatehouse.Proofs.Timers
import Gatehouse.Store

/-!
# Tasks in a run

A store knows its tasks only as timers that are due at some time. Seen from outside a task is
simpler: it has an interval, and it has been running for so long. `Store.roster` keeps that
book for a whole run, without a look at caches, sources or due times, and the main statement
of this file, `Store.follows_run`, is that the store follows the book:

> after any run each task has fetched `age / interval + 1` times, and the fetches of all tasks
> add up to those of the store.

The step is a wait, and a wait is two things: new tasks begin (`follows_begin`), then time
passes for all of them (`follows_elapse`). In both a task and its timer change together, so
each is one fact about one task, carried to the list.
-/

set_option autoImplicit false

namespace Gatehouse

/-- A task of a run. It begins with the first wait, and is aged from there. -/
structure Task where
  interval : Nat
  age : Option Nat := none
  live : Bool := true

namespace Task

/-- How often it has fetched: when it began, and after every interval. -/
def fetches (t : Task) : Nat :=
  match t.age with
  | none => 0
  | some age => if 0 < t.interval then age / t.interval + 1 else 0

def wait (milliseconds : Nat) (t : Task) : Task :=
  if t.live then { t with age := some (t.age.getD 0 + milliseconds) } else t

def stop (t : Task) : Task := { t with live := false }

/-- What the store keeps of a task that has not begun. -/
def starting? (t : Task) : Option Nat :=
  if t.live = true ∧ t.age = none then some t.interval else none

/-- What the store keeps of a task that runs: the timer of its next fetch. -/
def timer? (now : Nat) (t : Task) : Option Timer :=
  match t.live, t.age with
  | true, some age =>
    if h : 0 < t.interval then some ⟨now + (t.interval - age % t.interval), t.interval, h⟩
    else none
  | _, _ => none

/-- The timer of a task that begins now. -/
def new? (now : Nat) (t : Task) : Option Timer := t.starting?.bind (Timer.first? now)

/-- A task begins with a fetch and a timer, or it does not begin. -/
theorem begins (now : Nat) (t : Task) :
    (∃ timer, t.new? now = some timer ∧ t.timer? now = none ∧
        (t.wait 0).timer? now = some timer ∧ (t.wait 0).fetches = t.fetches + 1) ∨
      (t.new? now = none ∧ (t.wait 0).timer? now = t.timer? now ∧
        (t.wait 0).fetches = t.fetches) := by
  obtain ⟨i, age, live⟩ := t
  cases live with
  | false => exact .inr ⟨rfl, rfl, rfl⟩
  | true =>
    cases age with
    | some age => exact .inr ⟨rfl, rfl, rfl⟩
    | none =>
      by_cases hi : 0 < i
      · left
        refine ⟨⟨now + i, i, hi⟩, ?_, rfl, ?_, ?_⟩
        · exact dif_pos hi
        · simp [timer?, wait, hi]
        · simp [fetches, wait, hi]
      · right
        refine ⟨dif_neg hi, ?_, ?_⟩
        · simp [timer?, wait, hi]
        · simp [fetches, wait, hi]

/-- The fetches of a longer time are those of the time so far, and those of the time that is
left of the last interval and all that follows it. -/
theorem add_div_interval (age milliseconds : Nat) {i : Nat} (hi : 0 < i) :
    (age + milliseconds) / i = age / i + (age % i + milliseconds) / i := by
  have hsplit : age + milliseconds = age % i + milliseconds + i * (age / i) := by
    have := Nat.mod_add_div age i
    omega
  rw [hsplit, Nat.add_mul_div_left _ _ hi, Nat.add_comm]

theorem ticks_running (now age milliseconds : Nat) {i : Nat} (hi : 0 < i) :
    Timer.ticks (now + milliseconds) ⟨now + (i - age % i), i, hi⟩
      = (age % i + milliseconds) / i := by
  have hr := Nat.mod_lt age hi
  have hrest : now + milliseconds + i - (now + (i - age % i)) = age % i + milliseconds := by omega
  exact congrArg (· / i) hrest

theorem after_running (now age milliseconds : Nat) {i : Nat} (hi : 0 < i) :
    Timer.after (now + milliseconds) ⟨now + (i - age % i), i, hi⟩
      = ⟨now + milliseconds + (i - (age + milliseconds) % i), i, hi⟩ := by
  have hdue : now + (i - age % i) + (age % i + milliseconds) / i * i
      = now + milliseconds + (i - (age + milliseconds) % i) := by
    rw [← Nat.mod_add_mod]
    have hr := Nat.mod_lt age hi
    have hr' := Nat.mod_lt (age % i + milliseconds) hi
    have hsum := Nat.mod_add_div' (age % i + milliseconds) i
    omega
  rw [Timer.after, ticks_running, hdue]

/-- Time passes for a task that has begun as it passes for its timer. -/
theorem elapses (now milliseconds : Nat) {t : Task} (h : t.starting? = none) :
    (∃ timer, t.timer? now = some timer ∧
        (t.wait milliseconds).timer? (now + milliseconds)
          = some (timer.after (now + milliseconds)) ∧
        (t.wait milliseconds).fetches = t.fetches + timer.ticks (now + milliseconds)) ∨
      (t.timer? now = none ∧ (t.wait milliseconds).timer? (now + milliseconds) = none ∧
        (t.wait milliseconds).fetches = t.fetches) := by
  obtain ⟨i, age, live⟩ := t
  cases live with
  | false => exact .inr ⟨rfl, rfl, rfl⟩
  | true =>
    cases age with
    | none => cases h
    | some age =>
      by_cases hi : 0 < i
      · left
        refine ⟨_, dif_pos hi, ?_, ?_⟩
        · rw [after_running]
          exact dif_pos hi
        · have hbefore : fetches ⟨i, some age, true⟩ = age / i + 1 := if_pos hi
          have hnow : fetches ⟨i, some (age + milliseconds), true⟩
              = (age + milliseconds) / i + 1 := if_pos hi
          rw [ticks_running, hbefore, Nat.add_right_comm, ← add_div_interval _ _ hi]
          exact hnow
      · right
        refine ⟨dif_neg hi, dif_neg hi, ?_⟩
        simp [fetches, wait, hi]

theorem wait_wait (first rest : Nat) (t : Task) :
    (t.wait first).wait rest = t.wait (first + rest) := by
  obtain ⟨i, age, live⟩ := t
  cases live with
  | false => rfl
  | true =>
    show Task.mk i (some (age.getD 0 + first + rest)) true = _
    rw [Nat.add_assoc]
    rfl

theorem starting?_wait (milliseconds : Nat) (t : Task) :
    (t.wait milliseconds).starting? = none := by
  obtain ⟨i, age, live⟩ := t
  cases live <;> rfl

end Task

/-! ## Many tasks -/

namespace Task

/-- How often they have fetched together. -/
def allFetches : List Task → Nat
  | [] => 0
  | t :: rest => t.fetches + allFetches rest

/-- A task that has not begun adds nothing yet. -/
theorem allFetches_concat (ts : List Task) (interval : Nat) :
    allFetches (ts ++ [({ interval } : Task)]) = allFetches ts := by
  induction ts with
  | nil => rfl
  | cons t ts ih => exact congrArg (t.fetches + ·) ih

theorem allFetches_stop (ts : List Task) : allFetches (ts.map stop) = allFetches ts := by
  induction ts with
  | nil => rfl
  | cons t ts ih => exact congrArg (t.fetches + ·) ih

theorem map_wait_wait (first rest : Nat) (ts : List Task) :
    (ts.map (wait first)).map (wait rest) = ts.map (wait (first + rest)) := by
  rw [List.map_map]
  exact List.map_congr_left fun t _ => t.wait_wait first rest

theorem all_begin (now : Nat) (ts : List Task) :
    allFetches (ts.map (wait 0)) = allFetches ts + (ts.filterMap (new? now)).length ∧
      ((ts.map (wait 0)).filterMap (timer? now)).Perm
        (ts.filterMap (timer? now) ++ ts.filterMap (new? now)) := by
  induction ts with
  | nil => exact ⟨rfl, .refl _⟩
  | cons t ts ih =>
    obtain ⟨hsum, hperm⟩ := ih
    rw [List.map_cons, allFetches, allFetches, hsum]
    rcases t.begins now with ⟨timer, hnew, hnone, htimer, hf⟩ | ⟨hnew, htimer, hf⟩
    · rw [hf, List.filterMap_cons_some hnew, List.filterMap_cons_some htimer,
        List.filterMap_cons_none hnone, List.length_cons]
      exact ⟨by omega, (hperm.cons timer).trans List.perm_middle.symm⟩
    · rw [hf, List.filterMap_cons_none hnew]
      refine ⟨by omega, ?_⟩
      cases ht : t.timer? now with
      | none =>
        rw [List.filterMap_cons_none (htimer.trans ht), List.filterMap_cons_none ht]
        exact hperm
      | some timer =>
        rw [List.filterMap_cons_some (htimer.trans ht), List.filterMap_cons_some ht]
        exact hperm.cons timer

theorem all_elapse (now milliseconds : Nat) {ts : List Task}
    (h : ∀ t ∈ ts, t.starting? = none) :
    allFetches (ts.map (wait milliseconds))
        = allFetches ts + Timer.allTicks (now + milliseconds) (ts.filterMap (timer? now)) ∧
      (ts.map (wait milliseconds)).filterMap (timer? (now + milliseconds))
        = (ts.filterMap (timer? now)).map (Timer.after (now + milliseconds)) := by
  induction ts with
  | nil => exact ⟨rfl, rfl⟩
  | cons t ts ih =>
    obtain ⟨hsum, hmap⟩ := ih fun u hu => h u (List.mem_cons_of_mem t hu)
    rw [List.map_cons, allFetches, allFetches, hsum]
    rcases elapses now milliseconds (h t List.mem_cons_self) with
      ⟨timer, htimer, hafter, hf⟩ | ⟨htimer, hnone, hf⟩
    · rw [hf, List.filterMap_cons_some htimer, List.filterMap_cons_some hafter, hmap,
        Timer.allTicks]
      exact ⟨by omega, rfl⟩
    · rw [hf, List.filterMap_cons_none htimer, List.filterMap_cons_none hnone, hmap]
      exact ⟨by omega, rfl⟩

end Task

/-! ## What the store keeps of its tasks -/

/-- The book and the store agree on how often was fetched, which tasks are to begin, and when
the others fetch next. -/
structure Upkeep.Follows (w : Upkeep) (ts : List Task) (before : Nat) : Prop where
  fetches : w.fetches = before + Task.allFetches ts
  starting : w.starting = ts.filterMap Task.starting?
  waiting : w.waiting.Perm (ts.filterMap (Task.timer? w.now))

namespace Upkeep

variable {w w' : Upkeep} {ts : List Task} {before : Nat}

theorem Follows.congr (h : w.Follows ts before) (hf : w'.fetches = w.fetches)
    (hs : w'.starting = w.starting) (hw : w'.waiting = w.waiting) (hn : w'.now = w.now) :
    w'.Follows ts before :=
  ⟨hf.trans h.fetches, hs.trans h.starting, hw ▸ hn ▸ h.waiting⟩

/-- New tasks begin. -/
theorem follows_begin (h : w.Follows ts before)
    (hb : Begun w.starting { w with starting := [] } w') :
    w'.Follows (ts.map (Task.wait 0)) before := by
  have hnew : w.starting.filterMap (Timer.first? w.now) = ts.filterMap (Task.new? w.now) := by
    rw [h.starting, List.filterMap_filterMap]
    rfl
  obtain ⟨hsum, hperm⟩ := Task.all_begin w.now ts
  refine ⟨?_, ?_, ?_⟩
  · rw [hb.fetches, hsum, ← hnew]
    show w.fetches + _ = _
    rw [h.fetches, Nat.add_assoc]
  · rw [hb.starting, List.filterMap_map, List.filterMap_eq_nil_iff.mpr]
    exact fun t _ => t.starting?_wait 0
  · rw [hb.waiting, hb.now]
    show (w.waiting ++ w.starting.filterMap (Timer.first? w.now)).Perm _
    rw [hnew]
    exact (h.waiting.append_right _).trans hperm.symm

/-- Time passes, when every task has begun. -/
theorem follows_elapse {milliseconds limit : Nat} (h : w.Follows ts before)
    (hbegun : ∀ t ∈ ts, t.starting? = none) (hs : Spent limit w w')
    (hlimit : limit = w.now + milliseconds) :
    w'.Follows (ts.map (Task.wait milliseconds)) before := by
  obtain ⟨hsum, hmap⟩ := Task.all_elapse w.now milliseconds hbegun
  rw [← hlimit] at hsum hmap
  refine ⟨?_, ?_, ?_⟩
  · rw [hs.fetches, hsum, Timer.allTicks_perm h.waiting, h.fetches, Nat.add_assoc]
  · rw [hs.starting, h.starting, List.filterMap_eq_nil_iff.mpr hbegun, List.filterMap_map,
      List.filterMap_eq_nil_iff.mpr]
    exact fun t _ => t.starting?_wait milliseconds
  · rw [hs.now, hmap]
    exact hs.waiting.trans (h.waiting.map _)

/-- **A wait** lets every task age. -/
theorem follows_wait (feed : Feed) (milliseconds : Nat) (h : w.Follows ts before) :
    (wait feed milliseconds w).value.Follows (ts.map (Task.wait milliseconds)) before := by
  have hb := begun_start feed w.starting { w with starting := [] }
  have hbegun : ∀ t ∈ ts.map (Task.wait 0), t.starting? = none := by
    intro t ht
    obtain ⟨u, -, rfl⟩ := List.mem_map.mp ht
    exact u.starting?_wait 0
  have hwait := follows_elapse (follows_begin h hb) hbegun
    (spent_runUntil feed (w.now + milliseconds) _) (congrArg (· + milliseconds) hb.now.symm)
  rw [Task.map_wait_wait, Nat.zero_add] at hwait
  exact hwait

end Upkeep

/-! ## Runs -/

namespace Store

/-- The tasks of a run after one more action. -/
def roster (ts : List Task) : Action → List Task
  | .spawn interval => ts ++ [{ interval }]
  | .wait milliseconds => ts.map (Task.wait milliseconds)
  | .abort => ts.map Task.stop
  | _ => ts

/-- **One action** changes the tasks of a store as it changes the book. -/
theorem follows_step {s : Store} {ts : List Task} {before : Nat} (feed : Feed) (a : Action)
    (h : s.upkeep.Follows ts before) :
    (step feed s a).value.2.upkeep.Follows (roster ts a) before := by
  cases a with
  | spawn interval =>
    refine ⟨?_, ?_, ?_⟩
    · rw [roster, Task.allFetches_concat]
      exact h.fetches
    · rw [roster, List.filterMap_append, ← h.starting]
      rfl
    · rw [roster, List.filterMap_append]
      exact (List.append_nil _).symm ▸ h.waiting
  | wait milliseconds => exact Upkeep.follows_wait feed milliseconds h
  | abort =>
    refine ⟨(Task.allFetches_stop ts).symm ▸ h.fetches, ?_, ?_⟩
    · rw [roster, List.filterMap_map]
      exact (List.filterMap_eq_nil_iff.mpr fun _ _ => rfl).symm
    · rw [roster, List.filterMap_map, List.filterMap_eq_nil_iff.mpr]
      · exact .refl _
      · exact fun _ _ => rfl
  | held label key =>
    refine h.congr ?_ ?_ ?_ ?_ <;> simp only [step] <;> split <;> rfl
  | replace | lookupAdmin | lookupBucket | lookupToken | figures | hold =>
    exact h.congr rfl rfl rfl rfl

/-- **A run** does so action by action. -/
theorem follows_run (feed : Feed) (actions : List Action) : ∀ {s : Store} {ts : List Task}
    {before : Nat}, s.upkeep.Follows ts before →
      (run feed s actions).2.upkeep.Follows (actions.foldl roster ts) before := by
  induction actions with
  | nil => intro s ts before h; exact h
  | cons a rest ih =>
    intro s ts before h
    exact ih (follows_step feed a h)

/-- No task is to begin or running. -/
structure Idle (s : Store) : Prop where
  starting : s.upkeep.starting = []
  waiting : s.upkeep.waiting = []

theorem Idle.follows {s : Store} (h : s.Idle) : s.upkeep.Follows [] s.upkeep.fetches :=
  ⟨rfl, h.starting, h.waiting ▸ .refl _⟩

/-- **Tasks add up.** In any run that begins without tasks, the fetches are those of the tasks
of the run, each by its own age. -/
theorem fetches_run (feed : Feed) {s : Store} (h : s.Idle) (actions : List Action) :
    (run feed s actions).2.upkeep.fetches
      = s.upkeep.fetches + Task.allFetches (actions.foldl roster []) :=
  (follows_run feed actions h.follows).fetches

end Store

end Gatehouse
