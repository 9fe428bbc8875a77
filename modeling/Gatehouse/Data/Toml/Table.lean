import Gatehouse.Data.Datum

/-!
# Tables in TOML

A document fills a tree of tables. Every table remembers how it came about, because a table
may be written in one place only: one that a header named is complete when the next header
begins, one that a dotted key made can only grow by dotted keys of the same table, and one
that stands in a value is complete at once.
-/

set_option autoImplicit false

namespace Gatehouse.Toml

/-- What a key stands for while a document is being read. -/
inductive Node where
  | value (d : Datum)
  /-- A table: whether it was only passed through so far, and whether a dotted key made it. -/
  | table (implicit dotted : Bool) (entries : List (String × Node))
  /-- The tables of an array, the last one first. -/
  | tables (last : List (String × Node)) (earlier : List Datum)

/-- A table that is being filled, and how it came about. -/
structure Table where
  implicit : Bool
  dotted : Bool
  entries : List (String × Node)

def Table.new : Table := ⟨false, false, []⟩

mutual

/-- The finished value of a key. -/
def Node.datum : Node → Datum
  | .value d => d
  | .table _ _ entries => .object (Node.fields entries)
  | .tables last earlier => .array (earlier ++ [.object (Node.fields last)])

/-- The finished entries of a table. -/
def Node.fields : List (String × Node) → List (String × Datum)
  | [] => []
  | (k, n) :: rest => (k, n.datum) :: Node.fields rest

end

/-- The entries with one of them put in the place of the same key, or at the end. -/
def put (k : String) (n : Node) : List (String × Node) → List (String × Node)
  | [] => [(k, n)]
  | e :: rest => if e.1 = k then (k, n) :: rest else e :: put k n rest

namespace Table

/-- Changes the table at the end of a path. Tables on the way that are missing are made, as
dotted ones if a dotted key goes there, and an array of tables is entered at its last one. A
dotted key does not enter a table that is complete. -/
def modify (dotted : Bool) (change : Table → Option Table) : List String → Table → Option Table
  | [], t => change t
  | k :: ks, t =>
    match t.entries.lookup k with
    | none =>
      (modify dotted change ks ⟨true, dotted, []⟩).map fun sub =>
        { t with entries := put k (.table sub.implicit sub.dotted sub.entries) t.entries }
    | some (.value _) => none
    | some (.table implicit made entries) =>
      if dotted && !implicit then none
      else
        (modify dotted change ks ⟨implicit, made, entries⟩).map fun sub =>
          { t with entries := put k (.table sub.implicit sub.dotted sub.entries) t.entries }
    | some (.tables last earlier) =>
      (modify dotted change ks ⟨false, false, last⟩).map fun sub =>
        { t with entries := put k (.tables sub.entries earlier) t.entries }

/-- Gives a key behind a dotted path its value. The key must be new, and its table must have
been made by a dotted key exactly if there is a path. -/
def assign (t : Table) (path : List String) (k : String) (d : Datum) : Option Table :=
  t.modify true
    (fun t =>
      if t.dotted = path.isEmpty ∨ (t.entries.lookup k).isSome then none
      else some { t with entries := put k (.value d) t.entries })
    path

/-- Opens a table by its header. It must be new, or only have been passed through by other
headers. -/
def openTable (t : Table) (path : List String) (k : String) : Option Table :=
  t.modify false
    (fun t =>
      match t.entries.lookup k with
      | none => some { t with entries := put k (.table false false []) t.entries }
      | some (.table true false entries) =>
        some { t with entries := put k (.table false false entries) t.entries }
      | some _ => none)
    path

/-- Opens the next table of an array, which may not have been made in any other way. -/
def openItem (t : Table) (path : List String) (k : String) : Option Table :=
  t.modify false
    (fun t =>
      match t.entries.lookup k with
      | none => some { t with entries := put k (.tables [] []) t.entries }
      | some (.tables last earlier) =>
        some
          { t with
            entries := put k (.tables [] (earlier ++ [.object (Node.fields last)])) t.entries }
      | some _ => none)
    path

end Table

end Gatehouse.Toml
