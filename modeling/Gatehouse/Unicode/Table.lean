import Gatehouse.Text.Split
import Gatehouse.Encoding.Hex

/-!
# Tables of code points

A property of characters is written down as text: ranges in hexadecimal, separated by
blanks, as `41-5A AA`. Some tables give each range a value, as `41-5A+20` or `AA=61`. This
module reads such text; the modules beside it hold the tables.
-/

set_option autoImplicit false

namespace Gatehouse.Unicode

/-- A range of code points, with both of its ends. -/
structure Range where
  first : Nat
  last : Nat
  deriving DecidableEq

/-- Whether a code point lies in a range. -/
def Range.contains (r : Range) (c : Nat) : Bool := r.first ≤ c && c ≤ r.last

/-- The items of a table, cut at blanks and line ends. -/
def items (text : String) : List (List Char) :=
  (Text.splitAll ' ' (text.toList.map fun c => if c = '\n' then ' ' else c)).filter
    (!·.isEmpty)

/-- The number that hexadecimal digits give. -/
def hexNumber (cs : List Char) : Nat :=
  cs.foldl (fun n c => 16 * n + (Hex.value? c).getD 0) 0

/-- A range as a table writes it; a single code point is a range too. -/
def range (cs : List Char) : Range :=
  match Text.splitFirst '-' cs with
  | some (a, b) => ⟨hexNumber a, hexNumber b⟩
  | none => ⟨hexNumber cs, hexNumber cs⟩

/-- All ranges of a table without values. -/
def ranges (text : String) : List Range := (items text).map range

/-- A table of ranges with a value after `=`. -/
def valued {α : Type} (value : List Char → α) (text : String) : List (Range × α) :=
  (items text).filterMap fun item =>
    (Text.splitFirst '=' item).map fun (r, v) => (range r, value v)

/-- Whether a code point lies in one of the ranges. -/
def covers (rs : List Range) (c : Nat) : Bool := rs.any (·.contains c)

/-- The value of the first range that a code point lies in. -/
def valueOf? {α : Type} (table : List (Range × α)) (c : Nat) : Option α :=
  (table.find? (·.1.contains c)).map Prod.snd

end Gatehouse.Unicode
