import Gatehouse.Trace

/-!
# The cache

A cache holds the snapshot in force. Installing an update either puts a new snapshot in
force, one generation later, or changes nothing and says why.
-/

set_option autoImplicit false

namespace Gatehouse

/-- The snapshot in force. Before the first update it is the empty one. -/
structure Cache where
  current : Snapshot := Snapshot.empty

namespace Cache

def empty : Cache := {}

/-- Whether an update has been installed. -/
def isPopulated (c : Cache) : Bool := 0 < c.current.generation

/-- Installs an update: its generation, or the fault that keeps it out, and the cache after
it. -/
def replace (c : Cache) (u : Update) : Traced (Except UpdateFault Nat × Cache) :=
  match Snapshot.ofUpdate u with
  | .error fault => do
    Traced.log (.updateRejected u.version fault)
    Traced.count (.replacement .rejected)
    pure (.error fault, c)
  | .ok snapshot => do
    let generation := c.current.generation + 1
    Traced.count (.replacement .installed)
    Traced.log (.snapshotInstalled u.version generation)
    pure (.ok generation, { current := snapshot.install generation })

/-- The admin user of a name. -/
def lookupAdmin (c : Cache) (name : String) : Traced (Option AdminUser) := do
  let found := c.current.admin? name
  Traced.log (.adminLookedUp name found.isSome)
  pure found

/-- The credential of a bucket. -/
def lookupBucket (c : Cache) (name : String) : Traced (Option BucketCredential) := do
  let found := c.current.bucket? name
  Traced.log (.bucketLookedUp name found.isSome)
  pure found

/-- The session of a token. The token itself is not logged. -/
def lookupToken (c : Cache) (token : String) : Traced (Option SessionToken) := do
  let found := c.current.token? token
  Traced.log (.tokenLookedUp found.isSome)
  pure found

end Cache

end Gatehouse
