import Gatehouse.Role

/-!
# Identities and what they may do

An identity is what authentication finds out about a request: a name, and either a role in
the whole cluster or the one bucket that it is bound to. Permissions look at role and bucket
only, never at the name.
-/

set_option autoImplicit false

namespace Gatehouse

/-- Whom a request turns out to come from. -/
structure Identity where
  name : String
  /-- The role in the whole cluster; a bucket's identity has none. -/
  role : Option Role
  bucket : Option String
  deriving DecidableEq

namespace Identity

/-- The identity of a user with a role in the whole cluster. -/
def ofAdmin (name : String) (role : Role) : Identity := ⟨name, some role, none⟩

/-- The identity of a bucket, which has the bucket's name. -/
def ofBucket (bucket : String) : Identity := ⟨bucket, none, some bucket⟩

/-- The identity of a user with some role. -/
def ofRole (user : String) : Role → Identity
  | .bucket => ofBucket user
  | .admin => ofAdmin user .admin
  | .readOnlyAdmin => ofAdmin user .readOnlyAdmin

/-- Whether it has full rights. -/
def isAdmin (i : Identity) : Bool := i.role = some .admin

/-- Whether it has at least the right to look. -/
def isReadOnlyAdmin (i : Identity) : Bool := i.role = some .admin || i.role = some .readOnlyAdmin

/-- Whether it may use a bucket. -/
def canAccess (i : Identity) (bucket : String) : Bool := i.isAdmin || i.bucket = some bucket

/-- Whether it may read the data of a bucket, which the right to look does not give. -/
def canRead (i : Identity) (bucket : String) : Bool :=
  match i.role with
  | some .admin => true
  | some .readOnlyAdmin => false
  | some .bucket => i.bucket = some bucket
  | none => i.bucket = some bucket

end Identity

end Gatehouse
