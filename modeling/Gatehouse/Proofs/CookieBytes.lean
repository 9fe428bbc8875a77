import Gatehouse.Proofs.Cookie

/-!
# Cookies that cannot be read

A cookie header may hold any bytes, and one byte that is not printable ASCII keeps the whole header
from being read. So the pairs of a request are more than the pairs that are found: `listed` says
what headers have under a name, byte by byte, whether they can be read or not, and
`find?_eq_some_iff_shows` which of these pairs is the one that counts:

> what is found under a name is what the first header that can be read and has such a pair has
> under it first.

Pairs of other names have no say in that, but for the bytes by which they hide their header.
-/

set_option autoImplicit false

namespace Gatehouse

namespace Cookie

/-! ## Pairs of bytes -/

/-- A space or a tab. -/
def isBlankByte (b : UInt8) : Bool := b = 0x20 || b = 0x09

/-- The pairs of a header: the pieces between semicolons that have an equals sign, without the
blanks around them and cut at the first one. -/
def cut (v : Header.Value) : List (Bytes × Bytes) :=
  (Text.splitAll 0x3b v.bytes).filterMap fun piece =>
    Text.splitFirst 0x3d (Text.trim isBlankByte piece)

/-- What a header has under a name, in order. -/
def held (v : Header.Value) (name : String) : List Bytes :=
  ((cut v).filter fun p => p.1 = Utf8.encode name).map Prod.snd

/-- What headers have under a name, one header after the other. -/
def listed (vs : List Header.Value) (name : String) : List Bytes := vs.flatMap fun v => held v name

/-- The header can be read. -/
def legible (v : Header.Value) : Bool := v.bytes.all Header.isTextByte

/-- The first pair of the name in a header that can be read has the value. -/
def Shows (hs : Headers) (name value : String) : Prop :=
  (listed ((hs.getAll .cookie).filter legible) name).head? = some (Utf8.encode value)

/-- The first header with a pair of the name can be read. -/
def Exposed (hs : Headers) (name : String) : Prop :=
  ∃ earlier v later, hs.getAll .cookie = earlier ++ v :: later ∧
    (∀ w ∈ earlier, held w name = []) ∧ held v name ≠ [] ∧ legible v = true

/-- No header with a pair of the name can be read. -/
def Hidden (hs : Headers) (name : String) : Prop :=
  ∀ v ∈ hs.getAll .cookie, legible v = true → held v name = []

/-! ## Bytes and characters -/

/-- The character of a byte. -/
def char (b : UInt8) : Char := Char.ofNat b.toNat

theorem toNat_char (b : UInt8) : (char b).toNat = b.toNat := by
  have hvalid : b.toNat.isValidChar := .inl (Nat.lt_trans b.toNat_lt (by decide))
  rw [char, Char.ofNat, dif_pos hvalid]
  rfl

theorem char_inj {b d : UInt8} : char b = char d ↔ b = d := by
  constructor
  · intro h
    rw [← UInt8.toNat_inj, ← toNat_char, ← toNat_char, h]
  · exact congrArg char

theorem isBlank_char (b : UInt8) : Text.isBlank (char b) = isBlankByte b := by
  have hspace : char b = ' ' ↔ b = 0x20 := char_inj (d := 0x20)
  have htab : char b = '\t' ↔ b = 0x09 := char_inj (d := 0x09)
  simp only [Text.isBlank, isBlankByte, hspace, htab]

/-- A pair in characters. -/
def spell (p : Bytes × Bytes) : List Char × List Char := (p.1.map char, p.2.map char)

theorem pairs_map (v : Header.Value) : pairs (v.bytes.map char) = (cut v).map spell := by
  have hsemicolon : ∀ b, char b = ';' ↔ b = 0x3b := fun b => char_inj (d := 0x3b)
  have hequals : ∀ b, char b = '=' ↔ b = 0x3d := fun b => char_inj (d := 0x3d)
  rw [pairs, Text.splitAll_map hsemicolon, List.filterMap_map, cut, List.map_filterMap]
  congr 1
  funext piece
  rw [Function.comp_apply, Text.trim_map, Text.splitFirst_map hequals]
  simp only [isBlank_char]
  rfl

/-- The pairs that are read are those of the headers that can be. -/
theorem allPairs_eq (hs : Headers) :
    allPairs hs = (((hs.getAll .cookie).filter legible).flatMap cut).map spell := by
  have hread : (hs.getAll .cookie).filterMap Header.Value.text?
      = ((hs.getAll .cookie).filter legible).map fun v => v.bytes.map char := by
    rw [← List.filterMap_eq_filter, List.map_filterMap]
    congr 1
    funext v
    unfold Header.Value.text? Option.guard legible
    split <;> rfl
  rw [allPairs, hread, List.flatMap_map, List.map_flatMap]
  congr 1
  funext v
  exact pairs_map v

/-- Bytes that can be read. -/
def Readable (bs : Bytes) : Prop := ∀ b ∈ bs, Header.isTextByte b = true

/-- Readable bytes spell a text exactly if they are its UTF-8 form. -/
theorem Readable.spells_iff {bs : Bytes} (h : Readable bs) (s : String) :
    bs.map char = s.toList ↔ bs = Utf8.encode s := by
  obtain ⟨htext, hbytes⟩ := Header.isText_of_read h
  constructor
  · intro hs
    rw [hbytes]
    exact congrArg Utf8.encode (String.toList_inj.mp (by rw [String.toList_ofList]; exact hs))
  · intro hs
    have hsame := Utf8.encode_injective (hbytes.symm.trans hs)
    rw [← hsame, String.toList_ofList]
    rfl

theorem readable_of_mem_cut {v : Header.Value} (hv : legible v = true) {p : Bytes × Bytes}
    (hp : p ∈ cut v) : Readable p.1 ∧ Readable p.2 := by
  obtain ⟨piece, hpiece, hcut⟩ := List.mem_filterMap.mp hp
  have hwhole := (Text.splitFirst_eq_some.mp hcut).1
  have hbyte : ∀ b ∈ p.1 ++ 0x3d :: p.2, Header.isTextByte b = true := by
    intro b hb
    rw [← hwhole] at hb
    have hmem := (Text.notMem_of_mem_splitAll hpiece).2 b (Text.mem_of_mem_trim hb)
    exact List.all_eq_true.mp hv b hmem
  constructor
  · intro b hb
    exact hbyte b (List.mem_append_left _ hb)
  · intro b hb
    exact hbyte b (List.mem_append_right _ (List.mem_cons_of_mem _ hb))

/-! ## The pair that counts -/

/-- **What is found** is the first pair of the name in the headers that can be read. -/
theorem find?_eq_some_iff_shows {hs : Headers} {name value : String} :
    find? hs name = some value ↔ Shows hs name value := by
  have hreadable : ∀ p ∈ ((hs.getAll .cookie).filter legible).flatMap cut,
      Readable p.1 ∧ Readable p.2 := by
    intro p hp
    obtain ⟨v, hv, hcut⟩ := List.mem_flatMap.mp hp
    exact readable_of_mem_cut (List.mem_filter.mp hv).2 hcut
  have hlisted : listed ((hs.getAll .cookie).filter legible) name
      = ((((hs.getAll .cookie).filter legible).flatMap cut).filter
          fun p => p.1 = Utf8.encode name).map Prod.snd := by
    rw [List.filter_flatMap, List.map_flatMap]
    rfl
  rw [find?, Shows, hlisted, allPairs_eq, List.find?_map, List.head?_map, ← List.head?_filter]
  generalize ((hs.getAll .cookie).filter legible).flatMap cut = ps at hreadable
  have hname : (ps.filter ((fun p => decide (p.1 = name.toList)) ∘ spell))
      = ps.filter fun p => decide (p.1 = Utf8.encode name) := by
    apply List.filter_congr
    intro p hp
    exact decide_eq_decide.mpr ((hreadable p hp).1.spells_iff name)
  rw [hname]
  cases hfirst : (ps.filter fun p => decide (p.1 = Utf8.encode name)).head? with
  | none => simp
  | some p =>
    have hp : p ∈ ps := (List.mem_filter.mp (List.mem_of_mem_head? hfirst)).1
    have hvalue := (hreadable p hp).2.spells_iff value
    simp only [Option.map_some, Option.some.injEq]
    rw [← hvalue, ← String.toList_inj, String.toList_ofList]
    rfl

/-- Headers without a pair of the name have nothing under it, and no say in what others have. -/
theorem listed_append_of_forall {vs : List Header.Value} {name : String}
    (h : ∀ v ∈ vs, held v name = []) (ws : List Header.Value) :
    listed (vs ++ ws) name = listed ws name := by
  rw [listed, List.flatMap_append, List.flatMap_eq_nil_iff.mpr h]
  rfl

/-- A pair that comes first is shown if its header can be read, whatever else is sent. -/
theorem Exposed.shows {hs : Headers} {name value : String} (h : Exposed hs name)
    (hfirst : (listed (hs.getAll .cookie) name).head? = some (Utf8.encode value)) :
    Shows hs name value := by
  obtain ⟨earlier, v, later, hall, hno, hheld, hread⟩ := h
  have hno' : ∀ w ∈ earlier.filter legible, held w name = [] := fun w hw =>
    hno w (List.mem_filter.mp hw).1
  obtain ⟨first, rest, hcons⟩ := List.exists_cons_of_ne_nil hheld
  rw [hall, listed_append_of_forall hno, listed, List.flatMap_cons, hcons] at hfirst
  rw [Shows, hall, List.filter_append, List.filter_cons_of_pos hread,
    listed_append_of_forall hno', listed, List.flatMap_cons, hcons]
  exact hfirst

theorem Hidden.find?_eq_none {hs : Headers} {name : String} (h : Hidden hs name) :
    find? hs name = none := by
  have hnone : listed ((hs.getAll .cookie).filter legible) name = [] := by
    apply List.flatMap_eq_nil_iff.mpr
    intro v hv
    obtain ⟨hmem, hread⟩ := List.mem_filter.mp hv
    exact h v hmem hread
  rw [Option.eq_none_iff_forall_ne_some]
  intro value hvalue
  have hshows := find?_eq_some_iff_shows.mp hvalue
  rw [Shows, hnone] at hshows
  cases hshows

end Cookie

end Gatehouse
