import Gatehouse.Upkeep

/-!
# How often timers go off

While time passes, timers go off one at a time, and each goes off again after its interval. The
order depends on all of them, but how often one goes off up to a given time depends on that
timer alone:

> a timer due at `d` every `i` milliseconds goes off `(limit + i - d) / i` times up to `limit`.

`Upkeep.spent_runUntil` says that this is what a wait does: the fetches of all timers add up,
and each timer stands where its own count puts it. What the fetches bring is nowhere looked
at, so a fetch that fails costs a task nothing.
-/

set_option autoImplicit false

namespace Gatehouse

namespace Timer

/-- How often the timer goes off up to and with the given time. -/
def ticks (limit : Nat) (t : Timer) : Nat := (limit + t.interval - t.due) / t.interval

/-- The timer when that time has passed. -/
def after (limit : Nat) (t : Timer) : Timer :=
  { t with due := t.due + t.ticks limit * t.interval }

variable {limit : Nat} {t : Timer}

theorem ticks_of_lt (h : limit < t.due) : t.ticks limit = 0 :=
  Nat.div_eq_of_lt (by have := t.positive; omega)

theorem after_of_lt (h : limit < t.due) : t.after limit = t := by
  rw [after, ticks_of_lt h, Nat.zero_mul]
  rfl

/-- A tick in time is one of those that are counted. -/
theorem ticks_of_le (h : t.due ≤ limit) : t.ticks limit = t.again.ticks limit + 1 := by
  have hstep : limit + t.interval - t.due
      = limit + t.interval - (t.due + t.interval) + t.interval := by omega
  rw [ticks, hstep, Nat.add_div_right _ t.positive]
  rfl

theorem after_again (h : t.due ≤ limit) : t.again.after limit = t.after limit := by
  have hdue : t.due + t.interval + t.again.ticks limit * t.interval
      = t.due + (t.again.ticks limit + 1) * t.interval := by rw [Nat.succ_mul]; omega
  rw [after, after, ticks_of_le h, ← hdue]
  rfl

/-- The timer of a task that begins now, which has gone off once already. A task without an
interval has none. -/
def first? (now interval : Nat) : Option Timer :=
  if h : 0 < interval then some ⟨now + interval, interval, h⟩ else none

/-! ## The timer that is next -/

theorem next_cons (t u : Timer) (rest : List Timer) :
    next t (u :: rest) = if t.due ≤ (next u rest).1.due then (t, u :: rest)
      else ((next u rest).1, t :: (next u rest).2) := rfl

theorem next_perm (t : Timer) (rest : List Timer) :
    ((next t rest).1 :: (next t rest).2).Perm (t :: rest) := by
  induction rest generalizing t with
  | nil => exact .refl _
  | cons u rest ih =>
    rw [next_cons]
    by_cases h : t.due ≤ (next u rest).1.due
    · rw [if_pos h]
    · rw [if_neg h]
      exact (List.Perm.swap _ _ _).trans ((ih u).cons t)

theorem next_le {t u : Timer} {rest : List Timer} (hu : u ∈ t :: rest) :
    (next t rest).1.due ≤ u.due := by
  induction rest generalizing t u with
  | nil =>
    rw [List.mem_singleton.mp hu]
    exact Nat.le_refl _
  | cons v rest ih =>
    rw [next_cons]
    by_cases h : t.due ≤ (next v rest).1.due
    · rw [if_pos h]
      rcases List.mem_cons.mp hu with rfl | hu
      · exact Nat.le_refl _
      · exact Nat.le_trans h (ih hu)
    · rw [if_neg h]
      rcases List.mem_cons.mp hu with rfl | hu
      · exact Nat.le_of_not_le h
      · exact ih hu

/-! ## Many timers -/

/-- How often they go off together. -/
def allTicks (limit : Nat) : List Timer → Nat
  | [] => 0
  | t :: rest => t.ticks limit + allTicks limit rest

theorem allTicks_perm {ts ts' : List Timer} (h : ts.Perm ts') :
    allTicks limit ts = allTicks limit ts' := by
  induction h with
  | nil => rfl
  | cons t _ ih => exact congrArg (t.ticks limit + ·) ih
  | swap t u rest => exact Nat.add_left_comm ..
  | trans _ _ ih ih' => exact ih.trans ih'

/-- Timers that are all in the future do not go off. -/
theorem all_of_lt {ts : List Timer} (h : ∀ t ∈ ts, limit < t.due) :
    allTicks limit ts = 0 ∧ ts.map (after limit) = ts := by
  induction ts with
  | nil => exact ⟨rfl, rfl⟩
  | cons t ts ih =>
    have hfirst : limit < t.due := h t List.mem_cons_self
    obtain ⟨hsum, hmap⟩ := ih fun u hu => h u (List.mem_cons_of_mem t hu)
    rw [List.map_cons, hmap, after_of_lt hfirst]
    exact ⟨by rw [allTicks, ticks_of_lt hfirst, hsum], rfl⟩

end Timer

namespace Upkeep

/-- New tasks fetch once and get their timers, but for those without an interval. -/
structure Begun (intervals : List Nat) (w w' : Upkeep) : Prop where
  fetches : w'.fetches = w.fetches + (intervals.filterMap (Timer.first? w.now)).length
  waiting : w'.waiting = w.waiting ++ intervals.filterMap (Timer.first? w.now)
  now : w'.now = w.now
  starting : w'.starting = w.starting

theorem begun_start (feed : Feed) (intervals : List Nat) : ∀ (w : Upkeep),
    Begun intervals w (start feed intervals w).value := by
  induction intervals with
  | nil => intro w; exact ⟨rfl, (List.append_nil _).symm, rfl, rfl⟩
  | cons interval rest ih =>
    intro w
    rw [start]
    by_cases hi : 0 < interval
    · have hfirst : (interval :: rest).filterMap (Timer.first? w.now)
          = ⟨w.now + interval, interval, hi⟩ :: rest.filterMap (Timer.first? w.now) :=
        List.filterMap_cons_some (dif_pos hi)
      rw [dif_pos hi]
      let w' : Upkeep := { w with waiting := w.waiting ++ [⟨w.now + interval, interval, hi⟩] }
      obtain ⟨hfetches, hwaiting, hnow, hstarting⟩ := ih (tick feed w').value
      refine ⟨hfetches.trans ?_, hwaiting.trans ?_, hnow, hstarting⟩
      · rw [hfirst, List.length_cons]
        show w.fetches + 1 + (rest.filterMap (Timer.first? w.now)).length = _
        rw [Nat.add_assoc, Nat.add_comm 1]
      · rw [hfirst]
        exact (List.append_cons ..).symm
    · have hnone : (interval :: rest).filterMap (Timer.first? w.now)
          = rest.filterMap (Timer.first? w.now) := List.filterMap_cons_none (dif_neg hi)
      obtain ⟨hfetches, hwaiting, hnow, hstarting⟩ := ih w
      rw [dif_neg hi]
      exact ⟨hnone ▸ hfetches, hnone ▸ hwaiting, hnow, hstarting⟩

/-- Time has passed: each timer has gone off as often as it is due, and nothing else has
happened to the tasks. -/
structure Spent (limit : Nat) (w w' : Upkeep) : Prop where
  fetches : w'.fetches = w.fetches + Timer.allTicks limit w.waiting
  waiting : w'.waiting.Perm (w.waiting.map (Timer.after limit))
  now : w'.now = limit
  starting : w'.starting = w.starting

/-- When no timer is due any more, the rest of the time passes at once. -/
theorem spent_rest {limit : Nat} {w : Upkeep} (h : ∀ t ∈ w.waiting, limit < t.due) :
    Spent limit w { w with now := limit } := by
  obtain ⟨hsum, hmap⟩ := Timer.all_of_lt h
  refine ⟨?_, ?_, rfl, rfl⟩
  · rw [hsum]
    rfl
  · rw [hmap]

/-- **The ticks of a stretch of time**, in whatever order they come. -/
theorem spent_runUntil (feed : Feed) (limit : Nat) (w : Upkeep) :
    Spent limit w (runUntil feed limit w).value := by
  fun_induction runUntil feed limit w with
  | case1 w hw => exact spent_rest (by rw [hw]; exact List.forall_mem_nil _)
  | case2 w t rest hw first others hdue ticked final ih =>
    -- one tick of the timer that is next, and the stretch that remains
    have hperm : (first :: others).Perm w.waiting := hw ▸ Timer.next_perm t rest
    have hwaiting : ticked.value.waiting = others ++ [first.again] := rfl
    have hfetches : ticked.value.fetches = w.fetches + 1 := rfl
    have hagain : (others ++ [first.again]).Perm (first.again :: others) :=
      List.perm_append_singleton _ _
    have hall : Timer.allTicks limit w.waiting
        = Timer.allTicks limit (others ++ [first.again]) + 1 := by
      rw [← Timer.allTicks_perm hperm, Timer.allTicks_perm hagain, Timer.allTicks,
        Timer.allTicks, Timer.ticks_of_le hdue]
      exact Nat.add_right_comm ..
    refine ⟨?_, ?_, ih.now, ih.starting⟩
    · rw [ih.fetches, hwaiting, hfetches, hall]
      omega
    · refine (ih.waiting.trans ?_).trans (hperm.map _)
      rw [hwaiting, List.map_append, List.map_singleton, Timer.after_again hdue, List.map_cons]
      exact List.perm_append_singleton _ _
  | case3 w t rest hw first hdue =>
    apply spent_rest
    intro u hu
    rw [hw] at hu
    exact Nat.lt_of_lt_of_le (Nat.lt_of_not_le hdue) (Timer.next_le hu)

end Upkeep

end Gatehouse
