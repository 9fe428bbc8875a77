/-!
# Roles

What the cluster authority lets an identity do. A role has one name, used in the authority's
answers and in messages. Updates have names of their own for the roles.
-/

set_option autoImplicit false

namespace Gatehouse

/-- A right in the whole cluster, or the right to one bucket. -/
inductive Role where
  | admin
  | readOnlyAdmin
  | bucket
  deriving DecidableEq

/-- A text that names no role. -/
structure UnknownRole where
  name : String

def UnknownRole.message (u : UnknownRole) : String := "Invalid role: " ++ u.name

namespace Role

/-- The name of a role. -/
def name : Role → String
  | .admin => "admin"
  | .readOnlyAdmin => "ro_admin"
  | .bucket => "bucket"

/-- The role of a name, spelt exactly so. -/
def parse (s : String) : Except UnknownRole Role :=
  if s = "admin" then .ok .admin
  else if s = "ro_admin" then .ok .readOnlyAdmin
  else if s = "bucket" then .ok .bucket
  else .error ⟨s⟩

/-- Whether a cached admin user may hold the role. -/
def isAdminRole : Role → Bool
  | .admin => true
  | .readOnlyAdmin => true
  | .bucket => false

/-- What a role is called in diagnostic text. -/
def label : Role → String
  | .admin => "Admin"
  | .readOnlyAdmin => "ReadOnlyAdmin"
  | .bucket => "Bucket"

/-- A role is read from its name. -/
@[simp] theorem parse_name (r : Role) : parse r.name = .ok r := by cases r <;> rfl

/-- It is read from no other text. -/
theorem name_of_parse {s : String} {r : Role} (h : parse s = .ok r) : r.name = s := by
  unfold parse at h
  split at h
  · next e => rw [e]; cases h; rfl
  · split at h
    · next e => rw [e]; cases h; rfl
    · split at h
      · next e => rw [e]; cases h; rfl
      · cases h

/-- A text that is no role's name is the subject of the error. -/
theorem parse_eq_error {s : String} (h : ∀ r : Role, r.name ≠ s) : parse s = .error ⟨s⟩ := by
  unfold parse
  rw [if_neg fun e => h .admin e.symm, if_neg fun e => h .readOnlyAdmin e.symm,
    if_neg fun e => h .bucket e.symm]

end Role

end Gatehouse
