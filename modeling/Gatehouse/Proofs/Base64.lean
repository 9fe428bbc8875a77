import Gatehouse.Encoding.Base64
import Gatehouse.Text.Split

/-!
# Base64 texts are canonical

A byte list has one text, and a text that can be read is the text of what it is read as:

> `decode cs = some bs ↔ cs = encode bs`

The alphabet is settled by looking at all of it (`value?_symbol`, `symbol_of_value?`); what
is left is arithmetic on groups, where a byte is cut into quotient and remainder by one side
and put together again by the other.
-/

set_option autoImplicit false

namespace Gatehouse.Base64

/-! ## The alphabet -/

theorem value?_symbol {n : Nat} (h : n < 64) : value? (symbol n) = some n := by
  have all : ∀ n : Fin 64, value? (symbol n.val) = some n.val := by decide
  exact all ⟨n, h⟩

theorem symbol_ne_pad {n : Nat} (h : n < 64) : symbol n ≠ '=' := by
  intro he
  have hv := value?_symbol h
  rw [he] at hv
  cases hv

/-- Reading a character and writing it again changes nothing. -/
theorem symbol_of_value? {c : Char} {n : Nat} (h : value? c = some n) :
    n < 64 ∧ symbol n = c := by
  have hc : c.toNat < 128 := by
    unfold value? at h
    split at h
    · next hr => exact Nat.lt_of_le_of_lt hr.2 (by decide)
    · split at h
      · next hr => exact Nat.lt_of_le_of_lt hr.2 (by decide)
      · split at h
        · next hr => exact Nat.lt_of_le_of_lt hr.2 (by decide)
        · split at h
          · next hr => rw [hr]; decide
          · split at h
            · next hr => rw [hr]; decide
            · cases h
  have all : ∀ k : Fin 128, ∀ n ∈ value? (Char.ofNat k.val),
      n < 64 ∧ symbol n = Char.ofNat k.val := by decide +kernel
  have hk := all ⟨c.toNat, hc⟩
  simp only [Char.ofNat_toNat] at hk
  exact hk n h

/-- What holds of the alphabet and the padding holds of every character of a canonical text. -/
theorem forall_mem_encode {P : Char → Prop} (hs : ∀ n < 64, P (symbol n)) (hp : P '=')
    {bs : Bytes} {c : Char} (h : c ∈ encode bs) : P c := by
  fun_induction encode bs with
  | case1 => cases h
  | case2 a =>
    have ha := a.toNat_lt
    simp only [List.mem_cons, List.not_mem_nil, or_false] at h
    rcases h with rfl | rfl | rfl | rfl
    · exact hs _ (by omega)
    · exact hs _ (by omega)
    · exact hp
    · exact hp
  | case3 a b =>
    have ha := a.toNat_lt
    have hb := b.toNat_lt
    simp only [List.mem_cons, List.not_mem_nil, or_false] at h
    rcases h with rfl | rfl | rfl | rfl
    · exact hs _ (by omega)
    · exact hs _ (by omega)
    · exact hs _ (by omega)
    · exact hp
  | case4 a b c rest ih =>
    have ha := a.toNat_lt
    have hb := b.toNat_lt
    have hc := c.toNat_lt
    simp only [List.mem_cons] at h
    rcases h with rfl | rfl | rfl | rfl | h
    · exact hs _ (by omega)
    · exact hs _ (by omega)
    · exact hs _ (by omega)
    · exact hs _ (by omega)
    · exact ih h

/-- No character of a canonical text is a blank. -/
theorem not_isBlank_of_mem {bs : Bytes} {c : Char} (h : c ∈ encode bs) :
    Text.isBlank c = false :=
  forall_mem_encode (P := fun c => Text.isBlank c = false) (by decide) (by decide) h

theorem encode_ne_nil {bs : Bytes} (h : bs ≠ []) : encode bs ≠ [] := by
  fun_cases encode bs with
  | case1 => exact absurd rfl h
  | case2 => simp
  | case3 => simp
  | case4 => simp

/-! ## Groups -/

/-- A byte from two parts of it. -/
theorem ofNat_eq {b : UInt8} {n : Nat} (h : n = b.toNat) : UInt8.ofNat n = b := by
  rw [h, UInt8.ofNat_toNat]

/-- What is written for bytes is read as them. -/
theorem decode_encode (bs : Bytes) : decode (encode bs) = some bs := by
  fun_induction encode bs with
  | case1 => rfl
  | case2 a =>
    have ha := a.toNat_lt
    have hp := value?_symbol (n := a.toNat / 4) (by omega)
    have hq := value?_symbol (n := a.toNat % 4 * 16) (by omega)
    have hbyte : UInt8.ofNat (a.toNat / 4 * 4 + a.toNat % 4 * 16 / 16) = a := ofNat_eq (by omega)
    simp only [decode, hp, hq, if_true, and_self, lastByte, Nat.mul_mod_left, hbyte]
  | case3 a b =>
    have ha := a.toNat_lt
    have hb := b.toNat_lt
    have hp := value?_symbol (n := a.toNat / 4) (by omega)
    have hq := value?_symbol (n := a.toNat % 4 * 16 + b.toNat / 16) (by omega)
    have hr := value?_symbol (n := b.toNat % 16 * 4) (by omega)
    have hne := symbol_ne_pad (n := b.toNat % 16 * 4) (by omega)
    have h1 : UInt8.ofNat (a.toNat / 4 * 4 + (a.toNat % 4 * 16 + b.toNat / 16) / 16) = a :=
      ofNat_eq (by omega)
    have h2 : UInt8.ofNat ((a.toNat % 4 * 16 + b.toNat / 16) % 16 * 16
        + b.toNat % 16 * 4 / 4) = b := ofNat_eq (by omega)
    simp only [decode, hp, hq, hr, hne, if_false, if_true, lastTwo, Nat.mul_mod_left, h1, h2]
  | case4 a b c rest ih =>
    have ha := a.toNat_lt
    have hb := b.toNat_lt
    have hc := c.toNat_lt
    have hp := value?_symbol (n := a.toNat / 4) (by omega)
    have hq := value?_symbol (n := a.toNat % 4 * 16 + b.toNat / 16) (by omega)
    have hr := value?_symbol (n := b.toNat % 16 * 4 + c.toNat / 64) (by omega)
    have hs := value?_symbol (n := c.toNat % 64) (by omega)
    have hner := symbol_ne_pad (n := b.toNat % 16 * 4 + c.toNat / 64) (by omega)
    have hnes := symbol_ne_pad (n := c.toNat % 64) (by omega)
    have h1 : UInt8.ofNat (a.toNat / 4 * 4 + (a.toNat % 4 * 16 + b.toNat / 16) / 16) = a :=
      ofNat_eq (by omega)
    have h2 : UInt8.ofNat ((a.toNat % 4 * 16 + b.toNat / 16) % 16 * 16
        + (b.toNat % 16 * 4 + c.toNat / 64) / 4) = b := ofNat_eq (by omega)
    have h3 : UInt8.ofNat ((b.toNat % 16 * 4 + c.toNat / 64) % 4 * 64 + c.toNat % 64) = c :=
      ofNat_eq (by omega)
    simp only [decode, hp, hq, hr, hs, hner, hnes, if_false, ih, group, h1, h2, h3,
      List.cons_append, List.nil_append]

theorem toNat_ofNat {n : Nat} (h : n < 256) : (UInt8.ofNat n).toNat = n := by
  rw [UInt8.toNat_ofNat']
  exact Nat.mod_eq_of_lt h

theorem encode_lastByte {p q : Nat} {bs : Bytes} (hp : p < 64) (hq : q < 64)
    (h : lastByte p q = some bs) : encode bs = [symbol p, symbol q, '=', '='] := by
  unfold lastByte at h
  split at h
  · next hz =>
    obtain rfl := Option.some.inj h
    have ha : (p * 4 + q / 16) / 4 = p := by omega
    have hb : (p * 4 + q / 16) % 4 * 16 = q := by omega
    rw [encode, toNat_ofNat (by omega), ha, hb]
  · cases h

theorem encode_lastTwo {p q r : Nat} {bs : Bytes} (hp : p < 64) (hq : q < 64) (hr : r < 64)
    (h : lastTwo p q r = some bs) : encode bs = [symbol p, symbol q, symbol r, '='] := by
  unfold lastTwo at h
  split at h
  · next hz =>
    obtain rfl := Option.some.inj h
    have ha : (p * 4 + q / 16) / 4 = p := by omega
    have hb : (p * 4 + q / 16) % 4 * 16 + (q % 16 * 16 + r / 4) / 16 = q := by omega
    have hc : (q % 16 * 16 + r / 4) % 16 * 4 = r := by omega
    rw [encode, toNat_ofNat (by omega), toNat_ofNat (by omega), ha, hb, hc]
  · cases h

theorem encode_group {p q r s : Nat} (hp : p < 64) (hq : q < 64) (hr : r < 64) (hs : s < 64)
    (rest : Bytes) : encode (group p q r s ++ rest)
      = symbol p :: symbol q :: symbol r :: symbol s :: encode rest := by
  have ha : (p * 4 + q / 16) / 4 = p := by omega
  have hb : (p * 4 + q / 16) % 4 * 16 + (q % 16 * 16 + r / 4) / 16 = q := by omega
  have hc : (q % 16 * 16 + r / 4) % 16 * 4 + (r % 4 * 64 + s) / 64 = r := by omega
  have hd : (r % 4 * 64 + s) % 64 = s := by omega
  rw [group, List.cons_append, List.cons_append, List.cons_append, List.nil_append, encode,
    toNat_ofNat (by omega), toNat_ofNat (by omega), toNat_ofNat (by omega), ha, hb, hc, hd]

/-- Nothing else is read as them. -/
theorem eq_encode_of_decode {cs : List Char} {bs : Bytes} (h : decode cs = some bs) :
    cs = encode bs := by
  induction cs using decode.induct generalizing bs with
  | case1 =>
    rw [decode, Option.some.injEq] at h
    rw [← h]
    rfl
  -- two symbols and two pads, three symbols and a pad, or a whole group; all else is refused
  | case2 a b d rest p q hb ha hd =>
    obtain ⟨rfl, rfl⟩ := hd
    simp only [decode, ha, hb, if_true, and_self] at h
    obtain ⟨hp, rfl⟩ := symbol_of_value? ha
    obtain ⟨hq, rfl⟩ := symbol_of_value? hb
    exact (encode_lastByte hp hq h).symm
  | case3 a b d rest p q hb ha hd => simp [decode, ha, hb, hd] at h
  | case4 a b c d rest p q hb ha hc hcv => simp [decode, ha, hb, hc, hcv] at h
  | case5 a b c p q hb ha hc r hcv =>
    simp only [decode, ha, hb, hc, hcv, if_true, if_false] at h
    obtain ⟨hp, rfl⟩ := symbol_of_value? ha
    obtain ⟨hq, rfl⟩ := symbol_of_value? hb
    obtain ⟨hr, rfl⟩ := symbol_of_value? hcv
    exact (encode_lastTwo hp hq hr h).symm
  | case6 a b c rest p q hb ha hc r hcv hrest => simp [decode, ha, hb, hc, hcv, hrest] at h
  | case7 a b c d rest p q hb ha hc r hcv hd s bs' hrest hdv ih =>
    simp only [decode, ha, hb, hc, hcv, hd, hdv, hrest, if_false, Option.some.injEq] at h
    obtain ⟨hp, rfl⟩ := symbol_of_value? ha
    obtain ⟨hq, rfl⟩ := symbol_of_value? hb
    obtain ⟨hr, rfl⟩ := symbol_of_value? hcv
    obtain ⟨hs, rfl⟩ := symbol_of_value? hdv
    rw [← h, encode_group hp hq hr hs, ← ih hrest]
  | case8 a b c d rest p q hb ha hc r hcv hd hno ih =>
    simp only [decode, ha, hb, hc, hcv, hd, if_false] at h
    cases h
  | case9 a b c d rest hno =>
    simp only [decode] at h
    cases h
  | case10 t hnil hcons => simp [decode] at h

/-- **A text that can be read is the text of what it is read as.** -/
theorem decode_eq_some_iff {cs : List Char} {bs : Bytes} :
    decode cs = some bs ↔ cs = encode bs :=
  ⟨eq_encode_of_decode, fun h => h ▸ decode_encode bs⟩

end Gatehouse.Base64
