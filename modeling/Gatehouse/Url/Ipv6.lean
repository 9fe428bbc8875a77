import Gatehouse.Text.Split
import Gatehouse.Encoding.Hex
import Gatehouse.Url.Fault

/-!
# IPv6 addresses

Eight pieces of up to four hexadecimal digits with colons between them. One run of zero
pieces may be left out, which leaves two colons in its place, and the last two pieces may
be written as an IPv4 address. An address is written with its first longest run of zeros
left out, if that is more than one piece.
-/

set_option autoImplicit false

namespace Gatehouse.Url.Ipv6

/-- Up to four digits at the front, and the rest. -/
def digits : Nat → List Char → List Nat × List Char
  | 0, cs => ([], cs)
  | _, [] => ([], [])
  | n + 1, c :: rest =>
    match Hex.value? c with
    | none => ([], c :: rest)
    | some v => let (vs, after) := digits n rest; (v :: vs, after)

/-- What follows the digits is no longer than what they were taken from. -/
theorem digits_length (n : Nat) (cs : List Char) : (digits n cs).2.length ≤ cs.length := by
  induction n generalizing cs with
  | zero => simp [digits]
  | succ n ih =>
    cases cs with
    | nil => simp [digits]
    | cons c rest =>
      simp only [digits]
      split
      · simp
      · have := ih rest
        simp only [List.length_cons]
        omega

/-- A decimal part up to 255 without leading zeros. -/
def decimal? (cs : List Char) : Option Nat :=
  if cs = [] ∨ cs.all Char.isDigit = false ∨ (cs.headD ' ' = '0' ∧ 1 < cs.length) then none
  else
    let n := cs.foldl (fun n c => 10 * n + (c.toNat - 48)) 0
    if n ≤ 255 then some n else none

/-- The two pieces of an IPv4 address in four decimal parts. -/
def tail? (cs : List Char) : Option (List Nat) :=
  match (Text.splitAll '.' cs).mapM decimal? with
  | some [a, b, c, d] => some [256 * a + b, 256 * c + d]
  | _ => none

/-- The pieces read so far, and where the run of zeros was left out. -/
structure Reading where
  pieces : List Nat := []
  gap : Option Nat := none

/-- All pieces from the front of `cs` on. A colon that ends the text belongs to a gap. -/
def pieces (s : Reading) (cs : List Char) : Option Reading :=
  match cs with
  | [] => some s
  | ':' :: rest =>
    if 8 ≤ s.pieces.length + (if s.gap.isSome then 1 else 0) ∨ s.gap.isSome then none
    else pieces { s with gap := some s.pieces.length } rest
  | c :: rest =>
    let taken := s.pieces.length + (if s.gap.isSome then 1 else 0)
    if 8 ≤ taken then none
    else
      let ds := (digits 4 (c :: rest)).1
      let value := ds.foldl (fun n d => 16 * n + d) 0
      if ds = [] then none
      else match _h : (digits 4 (c :: rest)).2 with
      | [] => some { s with pieces := s.pieces ++ [value] }
      | d :: after =>
        if d = '.' then
          if 6 < taken then none
          else (tail? (c :: rest)).map fun two => { s with pieces := s.pieces ++ two }
        else if d = ':' ∧ after ≠ [] then
          pieces { s with pieces := s.pieces ++ [value] } after
        else none
termination_by cs.length
decreasing_by
  · simp
  · have hl := digits_length 4 (c :: rest)
    rw [_h] at hl
    simp only [List.length_cons] at hl ⊢
    omega

/-- The eight pieces of an address. -/
def parse (cs : List Char) : Except Fault (List Nat) :=
  let reading : Option Reading :=
    match cs with
    | ':' :: ':' :: rest => pieces { gap := some 0 } rest
    | ':' :: _ => none
    | [] => none
    | [_] => none
    | _ => pieces {} cs
  match reading with
  | none => .error .ipv6
  | some { pieces := ps, gap := none } => if ps.length = 8 then .ok ps else .error .ipv6
  | some { pieces := ps, gap := some at_ } =>
    .ok (ps.take at_ ++ List.replicate (8 - ps.length) 0 ++ ps.drop at_)

/-- The runs of zeros, each with its start and length. -/
def zeroRuns (start length : Nat) : List Nat → List (Nat × Nat)
  | [] => if length = 0 then [] else [(start, length)]
  | p :: rest =>
    if p = 0 then zeroRuns start (length + 1) rest
    else
      let others := zeroRuns (start + length + 1) 0 rest
      if length = 0 then others else (start, length) :: others

/-- The first of the longest runs. -/
def longest : List (Nat × Nat) → Option (Nat × Nat)
  | [] => none
  | r :: rest =>
    match longest rest with
    | none => some r
    | some m => if r.2 < m.2 then some m else some r

def joined (ps : List Nat) : String :=
  ":".intercalate (ps.map fun p => String.ofList (Nat.toDigits 16 p))

/-- An address in its normal form. -/
def text (ps : List Nat) : String :=
  match longest ((zeroRuns 0 0 ps).filter fun r => 1 < r.2) with
  | none => joined ps
  | some (start, length) => joined (ps.take start) ++ "::" ++ joined (ps.drop (start + length))

end Gatehouse.Url.Ipv6
