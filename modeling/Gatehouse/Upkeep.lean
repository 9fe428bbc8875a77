import Gatehouse.Cache

/-!
# Keeping a cache up to date

A refresh task fetches an update at once and then at every interval, and installs what it
gets. A fetch that fails, or an update that is refused, is logged and changes nothing; the
task goes on. Several tasks may share one cache.

Time is a number of milliseconds that only `wait` moves. Tasks run during a wait, in the
order of their due times, and among equal times in the order in which they began to wait.
Each tick moves its task's due time by a positive interval, so a wait ends (`backlog`).
-/

set_option autoImplicit false

namespace Gatehouse

/-- Where tasks get their updates: what the fetch of each number, counted from zero,
brings. -/
abbrev Feed := Nat → Traced (Except UpdateFault Update)

/-- A task that waits for its next tick. Its interval is positive, so that ticks get on. -/
structure Timer where
  due : Nat
  interval : Nat
  positive : 0 < interval

/-- The timer after a tick. -/
def Timer.again (t : Timer) : Timer := { t with due := t.due + t.interval }

/-- The timer that is due first, and the others in order. -/
def Timer.next : Timer → List Timer → Timer × List Timer
  | t, [] => (t, [])
  | t, u :: rest =>
    let (first, others) := Timer.next u rest
    if t.due ≤ first.due then (t, u :: rest) else (first, t :: others)

/-- The milliseconds that timers may still go forward up to a time. -/
def Timer.backlog (limit : Nat) : List Timer → Nat
  | [] => 0
  | t :: rest => (limit + 1 - t.due) + Timer.backlog limit rest

/-- The backlog of two groups of timers is the sum of their backlogs. -/
theorem Timer.backlog_append (limit : Nat) (xs ys : List Timer) :
    backlog limit (xs ++ ys) = backlog limit xs + backlog limit ys := by
  induction xs with
  | nil => simp [backlog]
  | cons x xs ih => simp only [List.cons_append, backlog, ih]; omega

/-- Looking for the first timer leaves the backlog as it is. -/
theorem Timer.backlog_next (limit : Nat) (t : Timer) (rest : List Timer) :
    backlog limit ((next t rest).1 :: (next t rest).2) = backlog limit (t :: rest) := by
  induction rest generalizing t with
  | nil => rfl
  | cons u rest ih =>
    have h := ih u
    simp only [next]
    split
    · rfl
    · simp only [backlog] at h ⊢
      omega

/-- A tick within the limit makes the backlog smaller. -/
theorem Timer.backlog_again {limit : Nat} {t : Timer} {rest : List Timer}
    (h : (next t rest).1.due ≤ limit) :
    backlog limit ((next t rest).2 ++ [(next t rest).1.again]) < backlog limit (t :: rest) := by
  have hb := backlog_next limit t rest
  have hp := (next t rest).1.positive
  rw [backlog_append]
  simp only [backlog, again] at hb ⊢
  omega

/-- A cache with the tasks that refresh it, and the time. -/
structure Upkeep where
  cache : Cache := {}
  /-- Milliseconds since the beginning. -/
  now : Nat := 0
  fetches : Nat := 0
  /-- The intervals of the tasks that have not run yet. -/
  starting : List Nat := []
  /-- The tasks that have run and wait for their next tick, the longest waiting first. -/
  waiting : List Timer := []
  /-- Tasks spawned and not aborted. -/
  live : Nat := 0

/-- What becomes of a cache when a fetch is over. -/
def Cache.refresh (c : Cache) : Except UpdateFault Update → Traced Cache
  | .error fault => do
    Traced.log (.fetchFailed fault)
    pure c
  | .ok u => do
    let replaced ← c.replace u
    match replaced.1 with
    | .error fault => Traced.log (.installFailed fault)
    | .ok _ => pure ()
    pure replaced.2

namespace Upkeep

/-- One tick of a task. It fetches once, whatever comes of it. -/
def tick (feed : Feed) (w : Upkeep) : Traced Upkeep := do
  Traced.log .refreshing
  let fetched ← feed w.fetches
  let cache ← w.cache.refresh fetched
  pure { w with cache, fetches := w.fetches + 1 }

/-- A tick leaves the timers to whoever calls it. -/
@[simp] theorem tick_waiting (feed : Feed) (w : Upkeep) :
    (tick feed w).value.waiting = w.waiting := rfl

/-- A new task, which runs when time passes next. -/
def spawn (w : Upkeep) (interval : Nat) : Traced Upkeep := do
  Traced.log (.refreshStarted (interval / 1000))
  pure { w with starting := w.starting ++ [interval], live := w.live + 1 }

/-- Ends all tasks, and tells how many there were. -/
def abort (w : Upkeep) : Nat × Upkeep :=
  (w.live, { w with starting := [], waiting := [], live := 0 })

/-- The first ticks of new tasks. A task without an interval dies before its first fetch. -/
def start (feed : Feed) : List Nat → Upkeep → Traced Upkeep
  | [], w => pure w
  | interval :: rest, w =>
    if h : 0 < interval then do
      let timer : Timer := ⟨w.now + interval, interval, h⟩
      let w' ← tick feed { w with waiting := w.waiting ++ [timer] }
      start feed rest w'
    else start feed rest w

/-- Every tick that falls due up to a time, in the order of due times. -/
def runUntil (feed : Feed) (limit : Nat) (w : Upkeep) : Traced Upkeep :=
  match _h : w.waiting with
  | [] => pure { w with now := limit }
  | t :: rest =>
    let first := (Timer.next t rest).1
    let others := (Timer.next t rest).2
    if first.due ≤ limit then
      let ticked := tick feed { w with now := first.due, waiting := others ++ [first.again] }
      let final := runUntil feed limit ticked.value
      { value := final.value, trace := ticked.trace ++ final.trace }
    else pure { w with now := limit }
termination_by Timer.backlog limit w.waiting
decreasing_by
  rename_i hdue
  rw [_h]
  exact Timer.backlog_again hdue

/-- Lets time pass: new tasks run first, then every tick that falls due. -/
def wait (feed : Feed) (milliseconds : Nat) (w : Upkeep) : Traced Upkeep := do
  let started ← start feed w.starting { w with starting := [] }
  runUntil feed (w.now + milliseconds) started

end Upkeep

end Gatehouse
