import Gatehouse.Upkeep

/-!
# Working with a cache

A store is a cache with the tasks that refresh it and the snapshots that readers hold on
to. Everything that can be done to it is one action, so a run is a list of actions, and a
statement about every run is a statement about every list.
-/

set_option autoImplicit false

namespace Gatehouse

/-- What is told about a snapshot in numbers. -/
structure Figures where
  generation : Nat
  version : UInt64
  adminCount : Nat
  bucketCount : Nat
  tokenCount : Nat
  installed : Bool
  deriving DecidableEq

/-- The numbers of a snapshot. -/
def Snapshot.figures (s : Snapshot) : Figures where
  generation := s.generation
  version := s.version
  adminCount := s.adminCount
  bucketCount := s.bucketCount
  tokenCount := s.tokenCount
  installed := s.installed

/-- A cache at work. -/
structure Store where
  upkeep : Upkeep := {}
  /-- Snapshots that are held under a name, the last one first. -/
  held : List (String × Snapshot) := []

namespace Store

/-- What can be done to a store. -/
inductive Action where
  | replace (update : Update)
  | lookupAdmin (name : String)
  | lookupBucket (name : String)
  | lookupToken (token : String)
  | figures
  | hold (label : String)
  /-- What a held snapshot says about one key in all its lists. -/
  | held (label : String) (key : Option String)
  /-- A new task, by its interval in milliseconds. -/
  | spawn (interval : Nat)
  | wait (milliseconds : Nat)
  | abort

/-- What is seen of an action. -/
inductive Answer where
  | replaced (result : Except UpdateFault Nat)
  | admin (found : Option AdminUser)
  | bucket (found : Option BucketCredential)
  | token (found : Option SessionToken)
  | figures (figures : Figures) (populated : Bool)
  | held (figures : Figures)
  | entries (figures : Figures) (admin : Option AdminUser) (bucket : Option BucketCredential)
      (token : Option SessionToken)
  | notHeld
  | spawned
  | waited (generation : Nat) (version : UInt64) (fetches : Nat)
  | aborted (tasks : Nat)

/-- The cache that all tasks of the store share. -/
def cache (s : Store) : Cache := s.upkeep.cache

/-- The store with another cache, and the same tasks. -/
def withCache (s : Store) (c : Cache) : Store := { s with upkeep := { s.upkeep with cache := c } }

/-- One action. -/
def step (feed : Feed) (s : Store) : Action → Traced (Answer × Store)
  | .replace u => do
    let (result, cache) ← s.cache.replace u
    pure (.replaced result, s.withCache cache)
  | .lookupAdmin name => do pure (.admin (← s.cache.lookupAdmin name), s)
  | .lookupBucket name => do pure (.bucket (← s.cache.lookupBucket name), s)
  | .lookupToken token => do pure (.token (← s.cache.lookupToken token), s)
  | .figures => pure (.figures s.cache.current.figures s.cache.isPopulated, s)
  | .hold label =>
    let current := s.cache.current
    pure (.held current.figures, { s with held := (label, current) :: s.held })
  | .held label key =>
    match s.held.lookup label, key with
    | none, _ => pure (.notHeld, s)
    | some snapshot, none => pure (.held snapshot.figures, s)
    | some snapshot, some key =>
      pure
        (.entries snapshot.figures (snapshot.admin? key) (snapshot.bucket? key)
          (snapshot.token? key), s)
  | .spawn interval => do pure (.spawned, { s with upkeep := ← s.upkeep.spawn interval })
  | .wait milliseconds => do
    let upkeep ← s.upkeep.wait feed milliseconds
    let current := upkeep.cache.current
    pure (.waited current.generation current.version upkeep.fetches, { s with upkeep })
  | .abort =>
    let (tasks, upkeep) := s.upkeep.abort
    pure (.aborted tasks, { s with upkeep })

/-- A list of actions, one after the other, with the answer and the trace of each. -/
def run (feed : Feed) : Store → List Action → List (Traced Answer) × Store
  | s, [] => ([], s)
  | s, a :: rest =>
    let done := step feed s a
    let (answers, final) := run feed done.value.2 rest
    ({ value := done.value.1, trace := done.trace } :: answers, final)

end Store

end Gatehouse
