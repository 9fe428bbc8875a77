import Gatehouse.Digest.Sha256

/-!
# Keyed digests

HMAC over SHA-256: the key fills one block, is mixed with two constants, and keys an inner
and an outer hash.
-/

set_option autoImplicit false

namespace Gatehouse.Hmac

def blockSize : Nat := 64

/-- A key longer than a block is hashed first; a shorter one is filled up with zeros. -/
def blockKey (key : Bytes) : Bytes :=
  let k := if key.length ≤ blockSize then key else (Sha256.hash key).bytes
  k ++ List.replicate (blockSize - k.length) 0

/-- The digest of a message under a key. -/
def sha256 (key message : Bytes) : Digest :=
  let k := blockKey key
  let inner := Sha256.hash (k.map (· ^^^ 0x36) ++ message)
  Sha256.hash (k.map (· ^^^ 0x5c) ++ inner.bytes)

/-- A widely published value, with a key longer than a block. -/
example : (sha256 (List.replicate 131 0xaa)
    (Utf8.encode "Test Using Larger Than Block-Size Key - Hash Key First")).bytes
    = [0x60, 0xe4, 0x31, 0x59, 0x1e, 0xe0, 0xb6, 0x7f, 0x0d, 0x8a, 0x26, 0xaa, 0xcb, 0xf5, 0xb7,
      0x7f, 0x8e, 0x0b, 0xc6, 0x21, 0x37, 0x28, 0xc5, 0x14, 0x05, 0x46, 0x04, 0x0f, 0x0e, 0xe3,
      0x7f, 0x54] := by
  decide +kernel

end Gatehouse.Hmac
