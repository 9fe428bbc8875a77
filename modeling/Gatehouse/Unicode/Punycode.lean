/-!
# Punycode

A label of a host name that goes beyond ASCII is written in ASCII: its ASCII characters
first, then a hyphen, then numbers that say which other characters stand where. A number is
written in digits of base 36 whose weights depend on the numbers before it.
-/

set_option autoImplicit false

namespace Gatehouse.Punycode

def base : Nat := 36

def lowestThreshold : Nat := 1

def highestThreshold : Nat := 26

def initialBias : Nat := 72

/-- The first code point that is not written as itself. -/
def firstCode : Nat := 128

def lastCode : Nat := 0x10ffff

/-- The threshold of the digit at weight position `k`. -/
def threshold (k bias : Nat) : Nat := min highestThreshold (max lowestThreshold (k - bias))

/-- Halvings of a delta down to the range of the bias. -/
def scale (delta k : Nat) : Nat :=
  if delta > 455 then scale (delta / 35) (k + base) else k + 36 * delta / (delta + 38)
termination_by delta
decreasing_by omega

/-- The bias after a delta, with `count` characters placed so far. -/
def adapt (delta count : Nat) (first : Bool) : Nat :=
  let delta := if first then delta / 700 else delta / 2
  scale (delta + delta / count) 0

/-! ## Reading -/

/-- The value of a digit, in either case. -/
def digitValue? (c : Char) : Option Nat :=
  if 'a' ≤ c ∧ c ≤ 'z' then some (c.toNat - 97)
  else if 'A' ≤ c ∧ c ≤ 'Z' then some (c.toNat - 65)
  else if '0' ≤ c ∧ c ≤ '9' then some (c.toNat - 22)
  else none

/-- How far the numbers have been read. -/
structure Reading where
  placed : List Nat
  code : Nat := firstCode
  bias : Nat := initialBias
  /-- The place that the last number led to. -/
  start : Nat := 0
  /-- The place so far, with the digits read of the current number. -/
  place : Nat := 0
  /-- The weight and weight position of the next digit. -/
  weight : Nat := 1
  position : Nat := base

/-- Whether a number is the code of a character. -/
def isScalar (n : Nat) : Bool := n < 0xd800 || (0xe000 ≤ n && n ≤ lastCode)

/-- One more digit. The last one of a number places a character. -/
def Reading.step (s : Reading) (digit : Nat) : Option Reading :=
  let place := s.place + digit * s.weight
  let t := threshold s.position s.bias
  if t ≤ digit then
    some { s with place, weight := s.weight * (base - t), position := s.position + base }
  else
    let count := s.placed.length + 1
    let code := s.code + place / count
    let at_ := place % count
    if isScalar code then
      some
        { placed := s.placed.take at_ ++ code :: s.placed.drop at_
          code
          bias := adapt (place - s.start) count (s.start == 0)
          start := at_ + 1
          place := at_ + 1 }
    else none

/-- All digits; the last number must be complete. -/
def Reading.run (s : Reading) : List Char → Option (List Nat)
  | [] => if s.position = base then some s.placed else none
  | c :: rest =>
    match digitValue? c with
    | none => none
    | some d =>
      match s.step d with
      | none => none
      | some s' => s'.run rest

/-- The text of a label without its prefix. -/
def decode (cs : List Char) : Option (List Nat) :=
  let digits := (cs.reverse.takeWhile (· ≠ '-')).reverse
  let ascii := cs.take (cs.length - digits.length - 1)
  if ascii = [] then Reading.run { placed := [] } cs
  else Reading.run { placed := ascii.map Char.toNat } digits

/-! ## Writing -/

/-- The lowercase digit of a value. -/
def digit (n : Nat) : Char := if n < 26 then Char.ofNat (97 + n) else Char.ofNat (22 + n)

/-- A number in digits from weight position `k` on. -/
def number (bias k n : Nat) : List Char :=
  let t := threshold k bias
  if _h : n < t then [digit n]
  else digit (t + (n - t) % (base - t)) :: number bias (k + base) ((n - t) / (base - t))
termination_by n
decreasing_by
  have _ht : 1 ≤ t := by
    simp only [t, threshold, highestThreshold, lowestThreshold]; omega
  have _hb : t ≤ 26 := by
    simp only [t, threshold, highestThreshold, lowestThreshold]; omega
  have _hd : (n - t) / (base - t) ≤ n - t := Nat.div_le_self _ _
  have _hn : t ≤ n := Nat.le_of_not_lt _h
  show (n - t) / (base - t) < n
  omega

/-- How far the numbers have been written. -/
structure Writing where
  written : List Char
  delta : Nat := 0
  bias : Nat := initialBias
  count : Nat
  first : Bool := true

/-- One character of the text while the places of `code` are written. -/
def Writing.step (code : Nat) (s : Writing) (c : Nat) : Writing :=
  if c < code then { s with delta := s.delta + 1 }
  else if c = code then
    { written := s.written ++ number s.bias base s.delta
      delta := 0
      bias := adapt s.delta (s.count + 1) s.first
      count := s.count + 1
      first := false }
  else s

/-- All places of each code point in turn. -/
def Writing.run (text : List Nat) (previous : Nat) (s : Writing) : List Nat → Writing
  | [] => s
  | code :: rest =>
    let s := { s with delta := s.delta + (code - previous) * (s.count + 1) }
    let s := text.foldl (Writing.step code) s
    Writing.run text (code + 1) { s with delta := s.delta + 1 } rest

/-- A label in ASCII, without its prefix. -/
def encode (text : List Nat) : List Char :=
  let ascii := (text.filter (· < firstCode)).map Char.ofNat
  let codes := ((text.filter (firstCode ≤ ·)).mergeSort).eraseDups
  let start := if ascii = [] then [] else ascii ++ ['-']
  (Writing.run text firstCode { written := start, count := ascii.length } codes).written

end Gatehouse.Punycode
