/-!
# Bytes and the text they spell

Bodies, header values, salts and digests are lists of bytes. A text has exactly one byte
form, and a byte list is the form of at most one text, so the two directions here are
inverse to each other (`decode_encode`, `eq_encode_of_decode`).
-/

set_option autoImplicit false

namespace Gatehouse

/-- What travels, before it is read as anything. -/
abbrev Bytes := List UInt8

namespace Utf8

/-- The bytes of a text. -/
def encode (s : String) : Bytes := s.toUTF8.data.toList

/-- The text that bytes spell, if they spell one. -/
def decode (b : Bytes) : Option String := String.fromUTF8? ⟨b.toArray⟩

/-- Every text is spelt by its bytes. -/
@[simp] theorem decode_encode (s : String) : decode (encode s) = some s := by
  have h : s.toByteArray.IsValidUTF8 := s.isValidUTF8
  simp [decode, encode, String.fromUTF8?, String.toUTF8, String.fromUTF8, h]

/-- A text is spelt by its bytes only. -/
theorem eq_encode_of_decode {b : Bytes} {s : String} (h : decode b = some s) :
    b = encode s := by
  unfold decode String.fromUTF8? at h
  split at h
  · obtain rfl := Option.some.inj h
    simp [encode, String.fromUTF8, String.toUTF8]
  · exact absurd h (by simp)

theorem decode_eq_some_iff {b : Bytes} {s : String} : decode b = some s ↔ b = encode s :=
  ⟨eq_encode_of_decode, fun h => h ▸ decode_encode s⟩

theorem encode_injective {s t : String} (h : encode s = encode t) : s = t := by
  have := decode_encode s
  rw [h, decode_encode] at this
  exact (Option.some.inj this).symm

end Utf8

end Gatehouse
