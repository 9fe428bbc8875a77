/-!
# Plain data

Updates, identities and settings arrive as JSON or TOML. Both formats are read into one
type, so a record is decoded the same way from either.

Numbers are kept only where some field can hold them, which is where they are natural
numbers written as such. Every other well-formed piece, such as a fraction, a negative
number or a string that spells no Unicode text, becomes `other`: a field that is ignored
may hold it, and a field that is read refuses it.
-/

set_option autoImplicit false

namespace Gatehouse

/-- A value of JSON or TOML. -/
inductive Datum where
  | null
  | bool (value : Bool)
  | nat (value : Nat)
  | string (value : String)
  | array (items : List Datum)
  | object (fields : List (String × Datum))
  | other
  deriving Inhabited

namespace Datum

/-- The text, if the value is a string. -/
def string? : Datum → Option String
  | .string s => some s
  | _ => none

/-- The flag, if the value is one. -/
def bool? : Datum → Option Bool
  | .bool b => some b
  | _ => none

/-- The number, if the value is one of at most 64 bits. -/
def uint64? : Datum → Option UInt64
  | .nat n => if n < UInt64.size then some (UInt64.ofNat n) else none
  | _ => none

/-- The items, if the value is an array and every item can be read. -/
def list? {α : Type} (item? : Datum → Option α) : Datum → Option (List α)
  | .array items => items.mapM item?
  | _ => none

/-- A number of 64 bits is read as itself. -/
@[simp] theorem uint64?_toNat (n : UInt64) : (Datum.nat n.toNat).uint64? = some n := by
  simp [uint64?, UInt64.toNat_lt_size]

end Datum

end Gatehouse
