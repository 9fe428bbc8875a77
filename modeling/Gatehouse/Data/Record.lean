import Gatehouse.Data.Datum

/-!
# Records in plain data

A record is an object with some fields that are read and any number that are ignored. It
may also be written as an array that lists the values of its fields in order; fields at the
end may then be missing. A field that is read must not be given twice.
-/

set_option autoImplicit false

namespace Gatehouse

/-- What becomes of array items beyond a record's last field. -/
inductive Surplus where
  | refused
  | ignored
  deriving DecidableEq

/-- The fields that are given, in order. -/
abbrev Record := List (String × Datum)

/-- Whether no name occurs twice. -/
def distinctNames : List String → Bool
  | [] => true
  | n :: ns => !ns.contains n && distinctNames ns

namespace Datum

/-- The given fields among `names`, from either way of writing a record. -/
def record? (surplus : Surplus) (names : List String) : Datum → Option Record
  | .object fields =>
    let known := fields.filter fun f => names.contains f.1
    if distinctNames (known.map Prod.fst) then some known else none
  | .array items =>
    if surplus = .refused ∧ names.length < items.length then none else some (names.zip items)
  | _ => none

end Datum

namespace Record

/-- A field that has to be given. -/
def required {α : Type} (r : Record) (name : String) (read : Datum → Option α) : Option α :=
  (r.lookup name).bind read

/-- A field that stands for `default` when it is not given. -/
def optional {α : Type} (r : Record) (name : String) (default : α) (read : Datum → Option α) :
    Option α :=
  match r.lookup name with
  | none => some default
  | some d => read d

end Record

end Gatehouse
