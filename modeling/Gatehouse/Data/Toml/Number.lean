import Gatehouse.Encoding.Hex

/-!
# Numbers and dates in TOML

A value that begins with a digit or a sign is a date, a time, a float or an integer, in this
order. Nothing here reads a date or a float for its value: it is enough to know that it is
one.
-/

set_option autoImplicit false

namespace Gatehouse.Toml

/-- A value at the front of a text, and what follows it. -/
abbrev Reads (α : Type) := Option (α × List Char)

/-! ## Digits -/

/-- The digits at the front; an underscore may stand before a digit that follows another. -/
def moreDigits (isDigit : Char → Bool) : List Char → List Char × List Char
  | '_' :: d :: rest =>
    if isDigit d then
      let (ds, after) := moreDigits isDigit rest
      (d :: ds, after)
    else ([], '_' :: d :: rest)
  | d :: rest =>
    if isDigit d then
      let (ds, after) := moreDigits isDigit rest
      (d :: ds, after)
    else ([], d :: rest)
  | [] => ([], [])

/-- At least one digit at the front, without the underscores between digits. -/
def digits (isDigit : Char → Bool) : List Char → Reads (List Char)
  | d :: rest =>
    if isDigit d then
      let (ds, after) := moreDigits isDigit rest
      some (d :: ds, after)
    else none
  | [] => none

/-- The value of digits. -/
def valueOf (base : Nat) (ds : List Char) : Nat :=
  ds.foldl (fun n d => base * n + (Hex.value? d).getD 0) 0

/-- A sign, if there is one: whether it is a minus. -/
def sign : List Char → Bool × List Char
  | '-' :: rest => (true, rest)
  | '+' :: rest => (false, rest)
  | cs => (false, cs)

/-- The digits of a whole number, which has no leading zeros. -/
def wholeDigits : List Char → Reads (List Char)
  | '0' :: rest => some (['0'], rest)
  | cs => digits Char.isDigit cs

/-! ## Integers -/

/-- The least power of two that no integer reaches. -/
def integerLimit : Nat := Nat.pow 2 63

/-- An integer of another base than ten, after its prefix. -/
def based (base : Nat) (isDigit : Char → Bool) (cs : List Char) : Reads Int :=
  match digits isDigit cs with
  | none => none
  | some (ds, rest) =>
    let n := valueOf base ds
    if n < integerLimit then some (n, rest) else none

/-- An integer of 64 bits with a sign. -/
def integer (cs : List Char) : Reads Int :=
  let below (n : Nat) (c : Char) : Bool := (Hex.value? c).any (· < n)
  match cs with
  | '0' :: 'x' :: rest => based 16 (below 16) rest
  | '0' :: 'o' :: rest => based 8 (below 8) rest
  | '0' :: 'b' :: rest => based 2 (below 2) rest
  | _ =>
    let (negative, unsigned) := sign cs
    match wholeDigits unsigned with
    | none => none
    | some (ds, rest) =>
      let n := valueOf 10 ds
      if negative then if n ≤ integerLimit then some (-n, rest) else none
      else if n < integerLimit then some (n, rest) else none

/-! ## Floats -/

/-- The least number that is too great for a float of 64 bits: halfway from the greatest one
to the next power of two. -/
def floatLimit : Nat := Nat.pow 2 1024 - Nat.pow 2 970

/-- Whether `digits` times ten to the power of `exponent` is too great for a float. Numbers
far from the limit are told by their number of digits. -/
def overflows (digits : List Char) (exponent : Int) : Bool :=
  let significant := digits.dropWhile (· = '0')
  let magnitude : Int := significant.length + exponent
  if significant = [] ∨ magnitude < 300 then false
  else if 320 < magnitude then true
  else
    let n := valueOf 10 significant
    if 0 ≤ exponent then decide (floatLimit ≤ n * Nat.pow 10 exponent.toNat)
    else decide (floatLimit * Nat.pow 10 (-exponent).toNat ≤ n)

/-- The exponent of a float, after its letter. -/
def exponent : List Char → Reads Int
  | e :: cs =>
    if e = 'e' ∨ e = 'E' then
      let (negative, unsigned) := sign cs
      match digits Char.isDigit unsigned with
      | none => none
      | some (ds, rest) =>
        let n : Int := valueOf 10 ds
        some (if negative then -n else n, rest)
    else none
  | [] => none

/-- A float, by its rest. -/
def float (cs : List Char) : Option (List Char) :=
  let (negative, unsigned) := sign cs
  match unsigned with
  | 'i' :: 'n' :: 'f' :: rest => some rest
  | 'n' :: 'a' :: 'n' :: rest => some rest
  | _ =>
    match wholeDigits unsigned with
    | none => none
    | some (whole, after) =>
      let parts : Option (List Char × Int × List Char) :=
        match after with
        | '.' :: cs =>
          match digits Char.isDigit cs with
          | none => none
          | some (fraction, rest) =>
            match exponent rest with
            | none => some (fraction, 0, rest)
            | some (e, rest) => some (fraction, e, rest)
        | _ => (exponent after).map fun (e, rest) => ([], e, rest)
      match parts with
      | none => none
      | some (fraction, e, rest) =>
        if !negative && overflows (whole ++ fraction) (e - fraction.length) then none
        else some rest

/-! ## Dates and times -/

/-- A number of exactly so many digits. -/
def fixed : Nat → Nat → List Char → Reads Nat
  | 0, n, cs => some (n, cs)
  | k + 1, n, d :: rest => if d.isDigit then fixed k (10 * n + (d.toNat - 48)) rest else none
  | _ + 1, _, [] => none

/-- What follows the given character. -/
def skip (c : Char) : List Char → Option (List Char)
  | d :: rest => if d = c then some rest else none
  | [] => none

/-- Whether a year has a 29th of February. -/
def isLeapYear (year : Nat) : Bool := year % 4 = 0 && (year % 100 ≠ 0 || year % 400 = 0)

/-- The days of a month. -/
def monthLength (year month : Nat) : Nat :=
  if month = 2 then if isLeapYear year then 29 else 28
  else if month = 4 ∨ month = 6 ∨ month = 9 ∨ month = 11 then 30
  else 31

/-- A day that there is, by its rest. -/
def date (cs : List Char) : Option (List Char) := do
  let (year, cs) ← fixed 4 0 cs
  let cs ← skip '-' cs
  let (month, cs) ← fixed 2 0 cs
  let cs ← skip '-' cs
  let (day, cs) ← fixed 2 0 cs
  if 1 ≤ month ∧ month ≤ 12 ∧ 1 ≤ day ∧ day ≤ monthLength year month then some cs else none

/-- A time of day, by its rest. A minute may have a leap second. -/
def time (cs : List Char) : Option (List Char) := do
  let (hour, cs) ← fixed 2 0 cs
  let cs ← skip ':' cs
  let (minute, cs) ← fixed 2 0 cs
  let cs ← skip ':' cs
  let (second, cs) ← fixed 2 0 cs
  if hour ≤ 23 ∧ minute ≤ 59 ∧ second ≤ 60 then
    match cs with
    | '.' :: d :: rest => if d.isDigit then some (rest.dropWhile Char.isDigit) else some cs
    | _ => some cs
  else none

/-- The distance from universal time, by its rest. -/
def offset (cs : List Char) : Option (List Char) :=
  match cs with
  | c :: rest =>
    if c = 'Z' ∨ c = 'z' then some rest
    else if c = '+' ∨ c = '-' then do
      let (hour, cs) ← fixed 2 0 rest
      let cs ← skip ':' cs
      let (minute, cs) ← fixed 2 0 cs
      if hour ≤ 23 ∧ minute ≤ 59 then some cs else none
    else none
  | [] => none

/-- A date with or without a time, or a time alone, by its rest. -/
def dateTime (cs : List Char) : Option (List Char) :=
  match date cs with
  | none => time cs
  | some rest =>
    match rest with
    | c :: after =>
      if c = 'T' ∨ c = 't' ∨ c = ' ' then
        match time after with
        | none => some rest
        | some rest' => some ((offset rest').getD rest')
      else some rest
    | [] => some rest

end Gatehouse.Toml
