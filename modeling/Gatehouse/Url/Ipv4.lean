import Gatehouse.Text.Split
import Gatehouse.Encoding.Hex
import Gatehouse.Url.Fault

/-!
# IPv4 addresses

A host whose last part is a number is an IPv4 address or nothing. It has up to four parts;
each may be decimal, octal behind a zero, or hexadecimal behind `0x`, and the last one
fills all the bytes that the others leave.
-/

set_option autoImplicit false

namespace Gatehouse.Url.Ipv4

/-- A number of one part; nothing if it is none. -/
def number? (cs : List Char) : Option Nat :=
  let (base, digits) : Nat × List Char :=
    match cs with
    | '0' :: 'x' :: rest => (16, rest)
    | '0' :: 'X' :: rest => (16, rest)
    | '0' :: c :: rest => (8, c :: rest)
    | _ => (10, cs)
  let read (n : Option Nat) (c : Char) : Option Nat :=
    match n, Hex.value? c with
    | some n, some v => if v < base then some (base * n + v) else none
    | _, _ => none
  if cs = [] then none else digits.foldl read (some 0)

/-- The parts between dots, without an empty one at the end. -/
def parts (cs : List Char) : List (List Char) :=
  let ps := Text.splitAll '.' cs
  if 1 < ps.length ∧ ps.getLast? = some [] then ps.dropLast else ps

/-- Whether a host claims to be an IPv4 address. -/
def endsInNumber (cs : List Char) : Bool :=
  match (parts cs).getLast? with
  | none => false
  | some last => (!last.isEmpty && last.all Char.isDigit) || (number? last).isSome

/-- The address as a number of 32 bits. -/
def parse (cs : List Char) : Except Fault Nat :=
  let ps := parts cs
  if 4 < ps.length then .error .ipv4
  else match ps.mapM number? with
    | none => .error .ipv4
    | some numbers =>
      let init := numbers.dropLast
      let last := numbers.getLastD 0
      if Nat.pow 256 (4 - init.length) ≤ last ∨ init.any (255 < ·) = true then .error .ipv4
      else .ok (init.zipIdx.foldl (fun sum (n, i) => sum + n * Nat.pow 256 (3 - i)) last)

/-- An address as four decimal parts. -/
def text (address : Nat) : String :=
  ".".intercalate ([3, 2, 1, 0].map fun i => toString (address / Nat.pow 256 i % 256))

end Gatehouse.Url.Ipv4
