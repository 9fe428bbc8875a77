import Gatehouse.Encoding.Hex

/-!
# What a hex text spells

A text is read as bytes exactly if all its characters are hex digits, there is an even number of
them, and in lower case they are what is written for the bytes (`Hex.decodeText_eq_some_iff`). So
a text has the bytes of its lower-case form, and no text has two meanings.
-/

set_option autoImplicit false

namespace Gatehouse.Hex

variable {c : Char} {cs : List Char} {bs : Bytes} {n : Nat}

/-- A hex digit of either case. -/
def IsDigit (c : Char) : Prop :=
  ('0' ≤ c ∧ c ≤ '9') ∨ ('a' ≤ c ∧ c ≤ 'f') ∨ ('A' ≤ c ∧ c ≤ 'F')

instance (c : Char) : Decidable (IsDigit c) := inferInstanceAs (Decidable (_ ∨ _))

theorem exists_value?_iff : (∃ n, value? c = some n) ↔ IsDigit c := by
  unfold value? IsDigit
  split
  · next h => exact iff_of_true ⟨_, rfl⟩ (.inl h)
  · next hdec =>
    split
    · next h => exact iff_of_true ⟨_, rfl⟩ (.inr (.inl h))
    · next hlow =>
      split
      · next h => exact iff_of_true ⟨_, rfl⟩ (.inr (.inr h))
      · next hup => exact iff_of_false nofun fun h => h.elim hdec fun h => h.elim hlow hup

theorem IsDigit.toNat_lt (h : IsDigit c) : c.toNat < 128 := by
  rcases h with ⟨-, h⟩ | ⟨-, h⟩ | ⟨-, h⟩ <;> exact Nat.lt_of_le_of_lt h (by decide)

/-- The digit that is written for the value of one is its lower-case form. -/
theorem digit_value? (h : value? c = some n) : n < 16 ∧ digit n = c.toLower := by
  have all : ∀ k : Fin 128, ∀ n ∈ value? (Char.ofNat k.val),
      n < 16 ∧ digit n = (Char.ofNat k.val).toLower := by decide +kernel
  have hk := all ⟨c.toNat, (exists_value?_iff.mp ⟨n, h⟩).toNat_lt⟩
  simp only [Char.ofNat_toNat] at hk
  exact hk n h

theorem digits_ofNat {h l : Nat} (hh : h < 16) (hl : l < 16) :
    digits (UInt8.ofNat (16 * h + l)) = [digit h, digit l] := by
  have hbyte : (UInt8.ofNat (16 * h + l)).toNat = 16 * h + l := by
    rw [UInt8.toNat_ofNat']
    omega
  have hhigh : (16 * h + l) / 16 = h := by omega
  have hlow : (16 * h + l) % 16 = l := by omega
  rw [digits, hbyte, hhigh, hlow]

theorem decode_cons_eq_some_iff {hi lo : Char} : decode (hi :: lo :: cs) = some bs ↔
    ∃ h l rest, value? hi = some h ∧ value? lo = some l ∧ decode cs = some rest ∧
      UInt8.ofNat (16 * h + l) :: rest = bs := by
  rw [decode]
  cases value? hi <;> cases value? lo <;> cases decode cs <;> simp

/-- What is read is written as the text in lower case. -/
theorem encode_of_decode : ∀ {cs : List Char} {bs : Bytes}, decode cs = some bs →
    (∀ c ∈ cs, IsDigit c) ∧ cs.length % 2 = 0 ∧ encode bs = cs.map Char.toLower
  | [], bs, hdecode => by
    cases hdecode
    exact ⟨nofun, rfl, rfl⟩
  | [_], _, hdecode => by cases hdecode
  | hi :: lo :: cs, bs, hdecode => by
    obtain ⟨h, l, rest, hhi, hlo, hrest, rfl⟩ := decode_cons_eq_some_iff.mp hdecode
    obtain ⟨hdigits, heven, hencode⟩ := encode_of_decode hrest
    obtain ⟨hh, hhigh⟩ := digit_value? hhi
    obtain ⟨hl, hlow⟩ := digit_value? hlo
    refine ⟨?_, ?_, ?_⟩
    · simp only [List.forall_mem_cons]
      exact ⟨exists_value?_iff.mp ⟨h, hhi⟩, exists_value?_iff.mp ⟨l, hlo⟩, hdigits⟩
    · simp only [List.length_cons]
      omega
    · rw [encode, List.flatMap_cons, digits_ofNat hh hl, hhigh, hlow, List.map_cons,
        List.map_cons, ← hencode]
      rfl

theorem exists_decode : ∀ {cs : List Char}, (∀ c ∈ cs, IsDigit c) → cs.length % 2 = 0 →
    ∃ bs, decode cs = some bs
  | [], _, _ => ⟨[], rfl⟩
  | [_], _, heven => absurd heven Nat.one_ne_zero
  | hi :: lo :: cs, hdigits, heven => by
    simp only [List.forall_mem_cons] at hdigits
    obtain ⟨hhi, hlo, hdigits⟩ := hdigits
    obtain ⟨h, hh⟩ := exists_value?_iff.mpr hhi
    obtain ⟨l, hl⟩ := exists_value?_iff.mpr hlo
    simp only [List.length_cons] at heven
    obtain ⟨rest, hrest⟩ := exists_decode hdigits (by omega)
    exact ⟨_, decode_cons_eq_some_iff.mpr ⟨h, l, rest, hh, hl, hrest, rfl⟩⟩

/-- The text is one of the bytes in digits of either case. -/
structure Spells (s : String) (bs : Bytes) : Prop where
  digits : ∀ c ∈ s.toList, IsDigit c
  even : s.length % 2 = 0
  lower : encodeText bs = s.toLower

theorem encodeText_eq_iff {s : String} :
    encodeText bs = s.toLower ↔ encode bs = s.toList.map Char.toLower := by
  have hlower : s.toLower = s.map Char.toLower := rfl
  rw [encodeText, hlower, ← String.toList_inj, String.toList_ofList, String.toList_map]

/-- **What a text is read as, in terms of what is written.** -/
theorem decodeText_eq_some_iff {s : String} : decodeText s = some bs ↔ Spells s bs := by
  constructor
  · intro h
    obtain ⟨hdigits, heven, hencode⟩ := encode_of_decode h
    exact ⟨hdigits, by rwa [← String.length_toList], encodeText_eq_iff.mpr hencode⟩
  · intro h
    obtain ⟨bs', hbs'⟩ := exists_decode h.digits (by rw [String.length_toList]; exact h.even)
    have hsame : encode bs' = encode bs :=
      (encode_of_decode hbs').2.2.trans (encodeText_eq_iff.mp h.lower).symm
    have hbytes := decode_encode bs
    rw [← hsame, decode_encode] at hbytes
    rw [decodeText, hbs', hbytes]

end Gatehouse.Hex
