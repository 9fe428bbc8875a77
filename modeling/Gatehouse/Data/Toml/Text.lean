import Gatehouse.Data.Toml.Number

/-!
# Text in TOML

Blanks, comments, strings and keys. A string stands in single or double quotes; three of
them allow it to go over several lines. Double quotes know escapes.
-/

set_option autoImplicit false

namespace Gatehouse.Toml

/-! ## Blanks and comments -/

def isBlank (c : Char) : Bool := c = ' ' || c = '\t'

def skipBlanks (cs : List Char) : List Char := cs.dropWhile isBlank

/-- What may stand in a comment or in single quotes. -/
def isPlain (c : Char) : Bool := c = '\t' || (0x20 ≤ c.toNat && c.toNat ≠ 0x7f)

/-- What follows a line end. -/
def newline : List Char → Option (List Char)
  | '\n' :: rest => some rest
  | '\r' :: '\n' :: rest => some rest
  | _ => none

/-- What follows a comment at the front; the text itself if there is none. -/
def skipComment : List Char → List Char
  | '#' :: rest => rest.dropWhile isPlain
  | cs => cs

/-- What follows the end of a line: blanks, a comment, and a line end or the end of the text. -/
def endOfLine (cs : List Char) : Option (List Char) :=
  match skipComment (skipBlanks cs) with
  | [] => some []
  | rest => newline rest

/-- What follows blanks, comments and line ends. `fuel` is the length of the text. -/
def skipLines : Nat → List Char → Option (List Char)
  | 0, cs => some cs
  | fuel + 1, cs =>
    match skipBlanks cs with
    | '#' :: rest =>
      match newline (rest.dropWhile isPlain) with
      | none => none
      | some after => skipLines fuel after
    | '\n' :: rest => skipLines fuel rest
    | '\r' :: rest =>
      match rest with
      | '\n' :: after => skipLines fuel after
      | _ => none
    | rest => some rest

/-- What follows all that does not count between the items of an array. -/
def skipSpace (cs : List Char) : Option (List Char) := skipLines (cs.length + 1) cs

/-! ## Strings -/

/-- A character by the digits of its code. -/
def hexEscape (n : Nat) (cs : List Char) : Reads Char :=
  let ds := cs.take n
  if ds.length = n ∧ ds.all (fun c => (Hex.value? c).isSome) = true then
    let code := valueOf 16 ds
    if code.isValidChar then some (Char.ofNat code, cs.drop n) else none
  else none

/-- The character of an escape, after the backslash. -/
def escape : List Char → Reads Char
  | 'b' :: rest => some ('\x08', rest)
  | 't' :: rest => some ('\t', rest)
  | 'n' :: rest => some ('\n', rest)
  | 'f' :: rest => some ('\x0c', rest)
  | 'r' :: rest => some ('\r', rest)
  | '\x22' :: rest => some ('\x22', rest)
  | '\\' :: rest => some ('\\', rest)
  | 'u' :: rest => hexEscape 4 rest
  | 'U' :: rest => hexEscape 8 rest
  | _ => none

/-- The inside of a string on one line, and what follows its closing quote. `fuel` is the
length of the text. -/
def basic : Nat → List Char → Reads (List Char)
  | 0, _ => none
  | fuel + 1, cs =>
    match cs with
    | [] => none
    | '\x22' :: rest => some ([], rest)
    | '\\' :: rest =>
      match escape rest with
      | none => none
      | some (c, after) => (basic fuel after).map fun (s, end_) => (c :: s, end_)
    | c :: rest =>
      if isPlain c then (basic fuel rest).map fun (s, end_) => (c :: s, end_) else none

/-- The inside of a string in single quotes, where no character is special. -/
def literal : List Char → Reads (List Char)
  | [] => none
  | c :: rest =>
    if c = '\x27' then some ([], rest)
    else if isPlain c then (literal rest).map fun (s, end_) => (c :: s, end_)
    else none

/-- What follows a backslash at the end of a line: all blanks and line ends up to the next
text. -/
def skipContinuation (cs : List Char) : Option (List Char) :=
  (newline (skipBlanks cs)).map fun rest => dropLines rest
where
  dropLines : List Char → List Char
    | ' ' :: rest => dropLines rest
    | '\t' :: rest => dropLines rest
    | '\n' :: rest => dropLines rest
    | '\r' :: '\n' :: rest => dropLines rest
    | cs => cs

/-- The quotes at the end of a string over several lines: three that close it, and up to two
before them that belong to it. -/
def closing (quote : Char) (cs : List Char) : Reads (List Char) :=
  let n := (cs.takeWhile (· = quote)).length
  if n < 3 then none else some (List.replicate (min n 5 - 3) quote, cs.drop (min n 5))

/-- The inside of a string over several lines. `escapes` tells whether a backslash begins an
escape. `fuel` is the length of the text. -/
def multiline (quote : Char) (escapes : Bool) : Nat → List Char → Reads (List Char)
  | 0, _ => none
  | fuel + 1, cs =>
    match closing quote cs with
    | some (quotes, rest) => some (quotes, rest)
    | none =>
      match newline cs with
      | some rest => (multiline quote escapes fuel rest).map fun (s, end_) => ('\n' :: s, end_)
      | none =>
        match cs with
        | [] => none
        | c :: rest =>
          if c = '\\' && escapes then
            match skipContinuation rest with
            | some after => multiline quote escapes fuel after
            | none =>
              match escape rest with
              | none => none
              | some (c, after) =>
                (multiline quote escapes fuel after).map fun (s, end_) => (c :: s, end_)
          else if isPlain c then
            (multiline quote escapes fuel rest).map fun (s, end_) => (c :: s, end_)
          else none

/-- A string over several lines, without a line end right after its opening quotes. -/
def multilineString (quote : Char) (escapes : Bool) (cs : List Char) : Reads (List Char) :=
  let inside := (newline cs).getD cs
  multiline quote escapes (inside.length + 1) inside

/-- A string of any of the four kinds. -/
def string (cs : List Char) : Reads (List Char) :=
  match cs with
  | '\x22' :: '\x22' :: '\x22' :: rest => multilineString '\x22' true rest
  | '\x27' :: '\x27' :: '\x27' :: rest => multilineString '\x27' false rest
  | '\x22' :: rest => basic (rest.length + 1) rest
  | '\x27' :: rest => literal rest
  | _ => none

/-! ## Keys -/

/-- What a key without quotes is made of. -/
def isBareKeyChar (c : Char) : Bool := c.isAlphanum || c = '_' || c = '-'

/-- One part of a key. -/
def simpleKey (cs : List Char) : Reads String :=
  let key : Reads (List Char) :=
    match cs with
    | '\x22' :: rest => basic (rest.length + 1) rest
    | '\x27' :: rest => literal rest
    | _ =>
      match cs.takeWhile isBareKeyChar with
      | [] => none
      | bare => some (bare, cs.dropWhile isBareKeyChar)
  key.map fun (s, rest) => (String.ofList s, rest)

/-- The parts of a key with dots and blanks between them. `fuel` is the length of the
text. -/
def keyParts : Nat → List Char → Reads (List String)
  | 0, _ => none
  | fuel + 1, cs =>
    match simpleKey (skipBlanks cs) with
    | none => none
    | some (part, rest) =>
      match skipBlanks rest with
      | '.' :: after => (keyParts fuel after).map fun (parts, end_) => (part :: parts, end_)
      | after => some ([part], after)

/-- How deep values and keys may nest. -/
def depthLimit : Nat := 80

/-- A key, split into the names of the tables on the way and the last name. -/
def key (cs : List Char) : Reads (List String × String) :=
  match keyParts (cs.length + 1) cs with
  | none => none
  | some (parts, rest) =>
    if depthLimit ≤ parts.length then none
    else parts.getLast?.map fun last => ((parts.dropLast, last), rest)

end Gatehouse.Toml
