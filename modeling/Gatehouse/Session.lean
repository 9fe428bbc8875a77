import Gatehouse.Route
import Gatehouse.Store

/-!
# A gate at work

A gate works with a store of its own: requests come in while updates are installed, pushed
from outside or pulled by tasks. The authority may answer every exchange differently, so it
is given as a sequence, one for each question asked and one for each pull.
-/

set_option autoImplicit false

namespace Gatehouse

/-- The authority over time: how it meets the question, and the pull, of each number. -/
structure Correspondence where
  question : Nat → Authority
  pull : Nat → Authority

/-- A gate with its store, and how often it has asked. -/
structure Session where
  gate : Gate
  store : Store := {}
  questions : Nat := 0

namespace Session

/-- What can be done to a session: to its store, or to its gate. -/
inductive Action where
  | store (action : Store.Action)
  /-- Starts a task that pulls from the authority, if the settings ask for one. -/
  | startRefresh
  | authenticate (headers : Headers)
  | serve (target : String) (headers : Headers)

/-- What is seen of an action. -/
inductive Answer where
  | store (answer : Store.Answer)
  | refreshStarted (result : Except SettingsFault Bool)
  | authenticated (result : Except Refusal Identity)
  | served (response : Response)

/-- What tasks pull. -/
def feed (g : Gate) (authority : Correspondence) : Feed := fun n =>
  match g.puller? with
  | .ok (some (puller, _)) => puller.fetch (authority.pull n)
  | _ => pure (.error (.notFetched "no source"))

/-- How many questions a trace has sent. -/
def asked (trace : List Effect) : Nat := (Effect.requests trace).length

/-- One action. Questions are numbered throughout, so that each may be answered differently. -/
def step (authority : Correspondence) (s : Session) : Action → Traced (Answer × Session)
  | .store action => do
    let (answer, store) ← s.store.step (feed s.gate authority) action
    pure (.store answer, { s with store })
  | .startRefresh =>
    match s.gate.puller? with
    | .error fault => pure (.refreshStarted (.error fault), s)
    | .ok none => pure (.refreshStarted (.ok false), s)
    | .ok (some (_, interval)) => do
      let upkeep ← s.store.upkeep.spawn (1000 * interval)
      pure (.refreshStarted (.ok true), { s with store := { s.store with upkeep } })
  | .authenticate headers =>
    let done := s.gate.authenticate s.store.cache (authority.question s.questions) headers
    { value :=
        (.authenticated done.value, { s with questions := s.questions + asked done.trace })
      trace := done.trace }
  | .serve target headers =>
    let done := s.gate.serve s.store.cache (authority.question s.questions) target headers
    { value := (.served done.value, { s with questions := s.questions + asked done.trace })
      trace := done.trace }

/-- A list of actions, one after the other, with the answer and the trace of each. -/
def run (authority : Correspondence) : Session → List Action → List (Traced Answer) × Session
  | s, [] => ([], s)
  | s, a :: rest =>
    let done := step authority s a
    let (answers, final) := run authority done.value.2 rest
    ({ value := done.value.1, trace := done.trace } :: answers, final)

end Session

end Gatehouse
