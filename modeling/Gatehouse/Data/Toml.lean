import Gatehouse.Data.Toml.Text
import Gatehouse.Data.Toml.Table

/-!
# TOML

Settings are written in TOML. A document is read line by line: a header opens a table, and
a key gives the open table a value. Values nest in arrays and inline tables up to a limit.

The result is plain data. A date stands for a record without any field that is read.
-/

set_option autoImplicit false

namespace Gatehouse.Toml

/-! ## Values -/

/-- A value that is one word. -/
def word (w : String) (d : Datum) (cs : List Char) : Reads Datum :=
  let n := w.length
  if cs.take n = w.toList then some (d, cs.drop n) else none

/-- A number or a date. Floats and negative numbers are kept as `other`. -/
def number (cs : List Char) : Reads Datum :=
  match dateTime cs with
  | some rest => some (.object [], rest)
  | none =>
    match float cs with
    | some rest => some (.other, rest)
    | none =>
      (integer cs).map fun (n, rest) =>
        (match n with
          | .ofNat n => .nat n
          | .negSucc _ => .other, rest)

/-- The items of an array after its bracket, and what follows the closing one. `fuel` is the
length of the text. -/
def items (value : List Char → Reads Datum) : Nat → List Char → Reads (List Datum)
  | 0, _ => none
  | fuel + 1, cs =>
    match skipSpace cs with
    | none => none
    | some (']' :: rest) => some ([], rest)
    | some cs =>
      match value cs with
      | none => none
      | some (d, rest) =>
        match skipSpace rest with
        | some (',' :: after) => (items value fuel after).map fun (ds, end_) => (d :: ds, end_)
        | some (']' :: after) => some ([d], after)
        | _ => none

/-- The entries of an inline table after its brace, and what follows the closing one. All of
it stands on one line. `fuel` is the length of the text. -/
def entries (value : List Char → Reads Datum) : Nat → Table → List Char → Reads Table
  | 0, _, _ => none
  | fuel + 1, t, cs =>
    match key cs with
    | some ((path, k), '=' :: rest) =>
      match value (skipBlanks rest) with
      | none => none
      | some (d, rest) =>
        match t.assign path k d with
        | none => none
        | some t =>
          match skipBlanks rest with
          | ',' :: after => entries value fuel t after
          | '\x7d' :: after => some (t, after)
          | _ => none
    | _ => none

/-- A value that holds at most `depth` others around each other. -/
def value : Nat → List Char → Reads Datum
  | depth, cs =>
    match cs with
    | [] => none
    | c :: rest =>
      if c = '\x22' ∨ c = '\x27' then
        (string cs).map fun (s, rest) => (.string (String.ofList s), rest)
      else if c = '[' then
        match depth with
        | 0 => none
        | depth + 1 =>
          (items (value depth) (rest.length + 1) rest).map fun (ds, rest) => (.array ds, rest)
      else if c = '\x7b' then
        match depth with
        | 0 => none
        | depth + 1 =>
          match skipBlanks rest with
          | '\x7d' :: after => some (.object [], after)
          | _ =>
            (entries (value depth) (rest.length + 1) Table.new rest).map fun (t, rest) =>
              (.object (Node.fields t.entries), rest)
      else if c = 't' then word "true" (.bool true) cs
      else if c = 'f' then word "false" (.bool false) cs
      else if c = 'i' then word "inf" .other cs
      else if c = 'n' then word "nan" .other cs
      else if c = '+' ∨ c = '-' ∨ c.isDigit = true then number cs
      else none

/-! ## Documents -/

/-- A header line, split like a key. -/
structure Header where
  path : List String
  name : String

/-- A document that is being read: all tables, and the path of the open one. -/
structure Reading where
  root : Table := Table.new
  path : List String := []

/-- A line that gives a key of the open table its value. -/
def assignment (s : Reading) (cs : List Char) : Reads Reading :=
  match key cs with
  | some ((path, k), '=' :: rest) =>
    match value (depthLimit - 1) (skipBlanks rest) with
    | none => none
    | some (d, rest) =>
      match s.root.modify false (·.assign path k d) s.path, endOfLine rest with
      | some root, some rest => some ({ s with root }, rest)
      | _, _ => none
  | _ => none

/-- A line that opens a table, or in double brackets the next table of an array. -/
def header (s : Reading) (cs : List Char) : Reads Reading :=
  let ofArray := cs.take 2 = ['[', '[']
  match key (cs.drop (if ofArray then 2 else 1)) with
  | none => none
  | some ((path, k), rest) =>
    let closes := if ofArray then [']', ']'] else [']']
    if rest.take closes.length ≠ closes then none
    else
      let opened := if ofArray then s.root.openItem path k else s.root.openTable path k
      match opened, endOfLine (rest.drop closes.length) with
      | some root, some rest => some (⟨root, path ++ [k]⟩, rest)
      | _, _ => none

/-- All lines. `fuel` is the length of the text. -/
def lines : Nat → Reading → List Char → Option Reading
  | 0, _, _ => none
  | fuel + 1, s, cs =>
    match skipBlanks cs with
    | [] => some s
    | '#' :: rest =>
      match endOfLine ('#' :: rest) with
      | none => none
      | some rest => lines fuel s rest
    | '\n' :: rest => lines fuel s rest
    | '\r' :: '\n' :: rest => lines fuel s rest
    | '[' :: rest =>
      match header s ('[' :: rest) with
      | none => none
      | some (s, rest) => lines fuel s rest
    | cs =>
      match assignment s cs with
      | none => none
      | some (s, rest) => lines fuel s rest

/-- The value of a document. A byte order mark at its front does not count. -/
def read (s : String) : Option Datum :=
  let cs := match s.toList with
    | '\ufeff' :: rest => rest
    | cs => cs
  (lines (cs.length + 2) {} cs).map fun s => .object (Node.fields s.root.entries)

end Gatehouse.Toml
