import Gatehouse.Encoding.Hex

/-!
# Percent encoding

Characters that would be taken for something else are written as their bytes, each as a
percent sign and two digits. Every part of an address has its own set of such characters;
those outside ASCII are always among them.
-/

set_option autoImplicit false

namespace Gatehouse.Url

/-- Controls, and everything outside ASCII. -/
def inControls (c : Char) : Bool := c.toNat < 0x20 || 0x7e < c.toNat

/-- What is encoded in a fragment. -/
def inFragment (c : Char) : Bool := inControls c || " \"<>`".toList.contains c

/-- What is encoded in a query. -/
def inQuery (c : Char) : Bool := inControls c || " \"#<>'".toList.contains c

/-- What is encoded in a path. -/
def inPath (c : Char) : Bool := inFragment c || "#?\x7b\x7d".toList.contains c

/-- What is encoded in user and password. -/
def inUserinfo (c : Char) : Bool := inPath c || "/:;=@[\\]^|".toList.contains c

/-- A byte as a percent sign and two uppercase digits. -/
def percentByte (b : UInt8) : List Char := '%' :: (Hex.digits b).map Char.toUpper

/-- A text with the characters of a set encoded. -/
def percentEncode (set : Char → Bool) (cs : List Char) : List Char :=
  cs.flatMap fun c =>
    if set c then (Utf8.encode (String.singleton c)).flatMap percentByte else [c]

/-- The bytes with every percent sign that two digits follow resolved. -/
def percentDecode : Bytes → Bytes
  | 0x25 :: a :: b :: rest =>
    match Hex.value? (Char.ofNat a.toNat), Hex.value? (Char.ofNat b.toNat) with
    | some hi, some lo => UInt8.ofNat (16 * hi + lo) :: percentDecode rest
    | _, _ => 0x25 :: percentDecode (a :: b :: rest)
  | b :: rest => b :: percentDecode rest
  | [] => []

end Gatehouse.Url
