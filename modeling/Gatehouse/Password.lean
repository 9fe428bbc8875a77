import Gatehouse.Digest.Hmac

/-!
# Stored passwords

A password is kept as its digest under a salt. What is stored may be any byte list, since
it comes from outside, so verification is an equality of byte lists: a stored value of the
wrong width matches no password.
-/

set_option autoImplicit false

namespace Gatehouse.Password

/-- The bytes of a stored digest. -/
def digestSize : Nat := 32

/-- The digest of a password under a salt. -/
def hash (password : String) (salt : Bytes) : Digest :=
  Hmac.sha256 salt (Utf8.encode password)

/-- A widely published value. -/
example : (hash "what do ya want for nothing?" (Utf8.encode "Jefe")).bytes
    = [0x5b, 0xdc, 0xc1, 0x46, 0xbf, 0x60, 0x75, 0x4e, 0x6a, 0x04, 0x24, 0x26, 0x08, 0x95, 0x75,
      0xc7, 0x5a, 0x00, 0x3f, 0x08, 0x9d, 0x27, 0x39, 0x83, 0x9d, 0xec, 0x58, 0xb9, 0x64, 0xec,
      0x38, 0x43] := by
  decide +kernel

/-- Whether a password has the stored digest under the salt. -/
def verify (candidate : String) (salt stored : Bytes) : Bool :=
  (hash candidate salt).bytes == stored

/-- Every password has a digest that may be stored. -/
@[simp] theorem hash_length (password : String) (salt : Bytes) :
    (hash password salt).bytes.length = digestSize := (hash password salt).size_eq

@[simp] theorem verify_iff {candidate : String} {salt stored : Bytes} :
    verify candidate salt stored = true ↔ (hash candidate salt).bytes = stored := by
  simp [verify]

end Gatehouse.Password
