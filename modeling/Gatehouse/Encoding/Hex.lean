import Gatehouse.Encoding.Utf8

/-!
# Hexadecimal text

Salts and digests travel as hex. Writing uses lowercase digits; reading takes digits of
either case and insists on an even number of them, so reading undoes writing
(`decode_encode`) and writing again lowers the letters of what was read.
-/

set_option autoImplicit false

namespace Gatehouse.Hex

/-- The lowercase digit of a value below sixteen. -/
def digit (n : Nat) : Char :=
  if n < 10 then Char.ofNat (48 + n) else Char.ofNat (87 + n)

/-- The value of a hex digit of either case. -/
def value? (c : Char) : Option Nat :=
  if '0' ≤ c ∧ c ≤ '9' then some (c.toNat - 48)
  else if 'a' ≤ c ∧ c ≤ 'f' then some (c.toNat - 87)
  else if 'A' ≤ c ∧ c ≤ 'F' then some (c.toNat - 55)
  else none

/-- Two digits a byte, the high half first. -/
def digits (b : UInt8) : List Char := [digit (b.toNat / 16), digit (b.toNat % 16)]

/-- The digits of bytes. -/
def encode (bs : Bytes) : List Char := bs.flatMap digits

/-- The bytes of a hex text; a stray digit or an odd one refuses the whole of it. -/
def decode : List Char → Option Bytes
  | [] => some []
  | [_] => none
  | hi :: lo :: rest =>
    match value? hi, value? lo, decode rest with
    | some h, some l, some bs => some (UInt8.ofNat (16 * h + l) :: bs)
    | _, _, _ => none

/-- The hex text of bytes. -/
def encodeText (bs : Bytes) : String := String.ofList (encode bs)

/-- The bytes that a text gives in hex. -/
def decodeText (s : String) : Option Bytes := decode s.toList

/-- Reading undoes writing, for one digit. -/
theorem value?_digit : ∀ n : Fin 16, value? (digit n.val) = some n.val := by decide

/-- Reading undoes writing. -/
theorem decode_encode (bs : Bytes) : decode (encode bs) = some bs := by
  induction bs with
  | nil => rfl
  | cons b rest ih =>
    have hb := b.toNat_lt
    have high := value?_digit ⟨b.toNat / 16, by omega⟩
    have low := value?_digit ⟨b.toNat % 16, by omega⟩
    have whole : 16 * (b.toNat / 16) + b.toNat % 16 = b.toNat := by omega
    have ih' : decode (rest.flatMap digits) = some rest := ih
    simp only at high low
    simp only [encode, List.flatMap_cons, digits, List.cons_append, List.nil_append, decode,
      high, low, ih', whole, UInt8.ofNat_toNat]

@[simp] theorem decodeText_encodeText (bs : Bytes) : decodeText (encodeText bs) = some bs := by
  simp [decodeText, encodeText, decode_encode]

end Gatehouse.Hex
