import Gatehouse.Settings.Codec
import Gatehouse.Update.Codec

/-!
# What is given in a record

A record is written as an object or as an array, and its fields are looked up in either by way
of a list of names. Here the two ways are one relation: a value gives a field (`HasField`) or it
does not, and it is a record at all if it is well-formed (`IsRecord`). Every reader of a record
is then the conjunction of what it asks for, field by field (`required_iff`, `optional_iff`).

The names of a record's own fields are distinct. This is what makes a field of an array the one
at its place, and the reason why `Nodup` is asked of them throughout.
-/

set_option autoImplicit false

namespace Gatehouse

theorem distinctNames_iff {names : List String} : distinctNames names = true ↔ names.Nodup := by
  induction names with
  | nil => simp [distinctNames]
  | cons n ns ih => simp [distinctNames, ih]

/-- Where no name is given twice, the field found is the one there is. -/
theorem Record.lookup_eq_some_iff {r : Record} {name : String} {v : Datum}
    (h : (r.map Prod.fst).Nodup) : r.lookup name = some v ↔ (name, v) ∈ r := by
  induction r with
  | nil => simp
  | cons f r ih =>
    obtain ⟨n, d⟩ := f
    rw [List.map_cons, List.nodup_cons] at h
    rw [List.lookup_cons, List.mem_cons]
    by_cases hn : name = n
    · subst hn
      have hrest : (name, v) ∉ r := fun hmem => h.1 (List.mem_map.mpr ⟨_, hmem, rfl⟩)
      simp [hrest, eq_comm]
    · have hn' : (name == n) = false := beq_false_of_ne hn
      rw [hn']
      simp [hn, ih h.2]

namespace Datum

variable {names : List String} {surplus : Surplus} {d v v' : Datum} {name : String} {r : Record}

/-- A field of a record, in either way of writing one. -/
inductive HasField (names : List String) : Datum → String → Datum → Prop
  | named {fields : List (String × Datum)} {name : String} {v : Datum}
    (hmem : (name, v) ∈ fields) : HasField names (.object fields) name v
  | placed {items : List Datum} {name : String} {v : Datum} {i : Nat}
    (hname : names[i]? = some name) (hitem : items[i]? = some v) :
    HasField names (.array items) name v

/-- The value is a record: none of the fields is given twice, or else no item is surplus. -/
inductive IsRecord (surplus : Surplus) (names : List String) : Datum → Prop
  | object {fields : List (String × Datum)}
    (hnodup : ((fields.map Prod.fst).filter (· ∈ names)).Nodup) :
    IsRecord surplus names (.object fields)
  | array {items : List Datum} (hlength : surplus = .refused → items.length ≤ names.length) :
    IsRecord surplus names (.array items)

/-! ## The fields that are found -/

theorem map_fst_filter (fields : List (String × Datum)) :
    (fields.filter fun f => names.contains f.1).map Prod.fst
      = (fields.map Prod.fst).filter (· ∈ names) := by
  rw [List.filter_map]
  congr 1
  exact List.filter_congr fun f _ => by simp

/-- The values that are read as records. -/
theorem exists_record?_iff :
    (∃ r, d.record? surplus names = some r) ↔ d.IsRecord surplus names := by
  cases d with
  | object fields =>
    rw [record?]
    constructor
    · rintro ⟨r, hr⟩
      split at hr
      · next h => exact .object (map_fst_filter fields ▸ distinctNames_iff.mp h)
      · cases hr
    · rintro ⟨h⟩
      rw [map_fst_filter, if_pos (distinctNames_iff.mpr h)]
      exact ⟨_, rfl⟩
  | array items =>
    rw [record?]
    constructor
    · rintro ⟨r, hr⟩
      split at hr
      · cases hr
      · next h => exact .array fun hs => Nat.le_of_not_lt fun hlt => h ⟨hs, hlt⟩
    · rintro (_ | h)
      rw [if_neg fun ⟨hs, hlt⟩ => Nat.not_lt.mpr (h hs) hlt]
      exact ⟨_, rfl⟩
  | _ => exact iff_of_false (by simp [record?]) nofun

/-- Looking a field up finds what the record gives. -/
theorem lookup_iff (hnames : names.Nodup) (hname : name ∈ names)
    (hr : d.record? surplus names = some r) : r.lookup name = some v ↔ d.HasField names name v := by
  cases d with
  | object fields =>
    rw [record?] at hr
    split at hr
    · next h =>
      cases hr
      rw [Record.lookup_eq_some_iff (distinctNames_iff.mp h), List.mem_filter]
      refine ⟨fun hmem => .named hmem.1, ?_⟩
      rintro ⟨hmem⟩
      exact ⟨hmem, by simpa using hname⟩
    · cases hr
  | array items =>
    rw [record?] at hr
    split at hr
    · cases hr
    · cases hr
      have hkeys : ((names.zip items).map Prod.fst).Nodup := by
        rw [List.zip_eq_zip_take_min, List.map_fst_zip (by simp)]
        exact hnames.sublist (List.take_sublist _ _)
      rw [Record.lookup_eq_some_iff hkeys, List.mem_iff_getElem?]
      constructor
      · rintro ⟨i, hi⟩
        obtain ⟨hn, hv⟩ := List.getElem?_zip_eq_some.mp hi
        exact .placed hn hv
      · rintro (_ | ⟨hn, hv⟩)
        exact ⟨_, List.getElem?_zip_eq_some.mpr ⟨hn, hv⟩⟩
  | _ => cases hr

/-- A record gives a field once. -/
theorem HasField.unique (hnames : names.Nodup) (hname : name ∈ names)
    (hd : d.IsRecord surplus names) (h : d.HasField names name v) (h' : d.HasField names name v') :
    v = v' := by
  obtain ⟨r, hr⟩ := exists_record?_iff.mpr hd
  have hv := (lookup_iff hnames hname hr).mpr h
  rw [(lookup_iff hnames hname hr).mpr h'] at hv
  exact (Option.some.inj hv).symm

/-! ## What is read from them -/

/-- The record gives the field, and it is read as `x`. -/
def Gives {α : Type} (names : List String) (d : Datum) (name : String) (read : Datum → Option α)
    (x : α) : Prop :=
  ∃ v, d.HasField names name v ∧ read v = some x

/-- The record gives the field, read as `x`, or leaves it out where `x` is the default. -/
def GivesOr {α : Type} (names : List String) (d : Datum) (name : String) (default : α)
    (read : Datum → Option α) (x : α) : Prop :=
  Gives names d name read x ∨ (∀ v, ¬ d.HasField names name v) ∧ x = default

/-- A required field is read exactly as the record gives it. -/
theorem required_iff {α : Type} {read : Datum → Option α} {x : α} (hnames : names.Nodup)
    (hname : name ∈ names) (hr : d.record? surplus names = some r) :
    r.required name read = some x ↔ Gives names d name read x := by
  rw [Record.required, Option.bind_eq_some_iff]
  exact exists_congr fun v => and_congr_left' (lookup_iff hnames hname hr)

/-- An optional field may also be missing. -/
theorem optional_iff {α : Type} {read : Datum → Option α} {x default : α} (hnames : names.Nodup)
    (hname : name ∈ names) (hr : d.record? surplus names = some r) :
    r.optional name default read = some x ↔ GivesOr names d name default read x := by
  have hfield : ∀ {v}, r.lookup name = some v ↔ d.HasField names name v :=
    lookup_iff hnames hname hr
  rw [Record.optional]
  cases h : r.lookup name with
  | none =>
    have hnone : ∀ v, ¬ d.HasField names name v := fun v hv => by
      rw [hfield.mpr hv] at h
      cases h
    constructor
    · intro hx
      exact .inr ⟨hnone, (Option.some.inj hx).symm⟩
    · rintro (⟨v, hv, -⟩ | ⟨-, rfl⟩)
      · exact absurd hv (hnone v)
      · rfl
  | some v =>
    constructor
    · exact fun hx => .inl ⟨v, hfield.mp h, hx⟩
    · rintro (⟨v', hv', hx⟩ | ⟨hnone, -⟩)
      · rw [hfield.mpr hv'] at h
        cases h
        exact hx
      · exact absurd (hfield.mp h) (hnone v)

/-- A reader of a record asks for what it makes of the fields, and for a record. -/
theorem reads_iff {α : Type} {read : Record → Option α} {x : α} {P : Prop}
    (h : ∀ r, d.record? surplus names = some r → d.IsRecord surplus names →
      (read r = some x ↔ P))
    (hP : P → d.IsRecord surplus names) :
    (match d.record? surplus names with
      | none => none
      | some r => read r) = some x ↔ P := by
  cases hr : d.record? surplus names with
  | none =>
    refine iff_of_false nofun fun hp => ?_
    obtain ⟨r, hr'⟩ := exists_record?_iff.mpr (hP hp)
    rw [hr] at hr'
    cases hr'
  | some r => exact h r hr (exists_record?_iff.mp ⟨r, hr⟩)

/-! ## Single values -/

theorem string?_eq_some_iff {s : String} : d.string? = some s ↔ d = .string s := by
  cases d <;> simp [string?]

theorem uint64?_eq_some_iff {n : UInt64} : d.uint64? = some n ↔ d = .nat n.toNat := by
  constructor
  · intro h
    cases d with
    | nat m =>
      rw [uint64?] at h
      split at h
      · next hm =>
        cases h
        rw [UInt64.toNat_ofNat_of_lt' hm]
      · cases h
    | _ => cases h
  · rintro rfl
    exact uint64?_toNat n

theorem gives_string_iff {s : String} :
    d.Gives names name string? s ↔ d.HasField names name (.string s) := by
  simp [Gives, string?_eq_some_iff]

end Datum

end Gatehouse
