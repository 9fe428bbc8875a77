import Gatehouse.Encoding.Utf8

/-!
# Base64 with the standard alphabet and padding

Three bytes make four characters; a last group of one or two bytes is filled up with `=`.
Reading accepts exactly what writing produces: the padding must be there, and the bits of
the last character that no byte uses must be zero.
-/

set_option autoImplicit false

namespace Gatehouse.Base64

/-- The character of a six-bit value. -/
def symbol (n : Nat) : Char :=
  if n < 26 then Char.ofNat (65 + n)
  else if n < 52 then Char.ofNat (71 + n)
  else if n < 62 then Char.ofNat (n - 4)
  else if n = 62 then '+'
  else '/'

/-- The six-bit value of a character of the alphabet; `=` is not one of them. -/
def value? (c : Char) : Option Nat :=
  if 'A' ≤ c ∧ c ≤ 'Z' then some (c.toNat - 65)
  else if 'a' ≤ c ∧ c ≤ 'z' then some (c.toNat - 71)
  else if '0' ≤ c ∧ c ≤ '9' then some (c.toNat + 4)
  else if c = '+' then some 62
  else if c = '/' then some 63
  else none

/-- The canonical text of bytes. -/
def encode : Bytes → List Char
  | [] => []
  | [a] => [symbol (a.toNat / 4), symbol (a.toNat % 4 * 16), '=', '=']
  | [a, b] =>
    [symbol (a.toNat / 4), symbol (a.toNat % 4 * 16 + b.toNat / 16),
      symbol (b.toNat % 16 * 4), '=']
  | a :: b :: c :: rest =>
    symbol (a.toNat / 4) :: symbol (a.toNat % 4 * 16 + b.toNat / 16)
      :: symbol (b.toNat % 16 * 4 + c.toNat / 64) :: symbol (c.toNat % 64) :: encode rest

/-- A last group of two characters: one byte, and four bits that must be zero. -/
def lastByte (p q : Nat) : Option Bytes :=
  if q % 16 = 0 then some [UInt8.ofNat (p * 4 + q / 16)] else none

/-- A last group of three characters: two bytes, and two bits that must be zero. -/
def lastTwo (p q r : Nat) : Option Bytes :=
  if r % 4 = 0 then some [UInt8.ofNat (p * 4 + q / 16), UInt8.ofNat (q % 16 * 16 + r / 4)]
  else none

/-- A whole group of four characters: three bytes. -/
def group (p q r s : Nat) : Bytes :=
  [UInt8.ofNat (p * 4 + q / 16), UInt8.ofNat (q % 16 * 16 + r / 4), UInt8.ofNat (r % 4 * 64 + s)]

/-- The bytes of a canonical text, and of no other. -/
def decode : List Char → Option Bytes
  | [] => some []
  | a :: b :: c :: d :: rest =>
    match value? a, value? b with
    | some p, some q =>
      if c = '=' then
        if d = '=' ∧ rest = [] then lastByte p q else none
      else
        match value? c with
        | none => none
        | some r =>
          if d = '=' then
            if rest = [] then lastTwo p q r else none
          else
            match value? d, decode rest with
            | some s, some bs => some (group p q r s ++ bs)
            | _, _ => none
    | _, _ => none
  | _ => none

end Gatehouse.Base64
