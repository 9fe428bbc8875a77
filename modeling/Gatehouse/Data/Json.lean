import Gatehouse.Data.Datum
import Gatehouse.Encoding.Hex

/-!
# JSON

A document is cut into tokens and the tokens are put together on a stack of open arrays
and objects, so a document may nest to any depth and both passes end with their input.

The reader takes bytes. A string whose bytes are no UTF-8, or that escapes half of a
surrogate pair, is still a token: only a reader that needs its text refuses it
(`Datum.other`). Control characters and unknown escapes are refused everywhere.
-/

set_option autoImplicit false

namespace Gatehouse.Json

/-! ## Tokens -/

/-- The pieces of a document. A string carries its text if it spells one. -/
inductive Token where
  | openArray
  | closeArray
  | openObject
  | closeObject
  | comma
  | colon
  | string (text : Option String)
  | scalar (value : Datum)

def isSpace (b : UInt8) : Bool := b == 0x20 || b == 0x09 || b == 0x0a || b == 0x0d

def isDigit (b : UInt8) : Bool := 0x30 ≤ b && b ≤ 0x39

/-- The bytes that may stand in a number: digits, `+`, `-`, `.`, `e` and `E`. -/
def isNumberByte (b : UInt8) : Bool :=
  isDigit b || b == 0x2b || b == 0x2d || b == 0x2e || b == 0x65 || b == 0x45

/-- The bytes that words are made of. -/
def isLetter (b : UInt8) : Bool := 0x61 ≤ b && b ≤ 0x7a

/-- The inside of a string, escapes as they stand, and what follows the closing quote. -/
def stringEnd : Bytes → Option (Bytes × Bytes)
  | [] => none
  | b :: rest =>
    if b == 0x22 then some ([], rest)
    else if b < 0x20 then none
    else if b == 0x5c then
      match rest with
      | [] => none
      | e :: rest' =>
        match stringEnd rest' with
        | none => none
        | some (inside, after) => some (b :: e :: inside, after)
    else
      match stringEnd rest with
      | none => none
      | some (inside, after) => some (b :: inside, after)

/-- What follows a string is shorter, so that reading goes on with less. -/
theorem stringEnd_length {bs inside after : Bytes} (h : stringEnd bs = some (inside, after)) :
    after.length < bs.length := by
  fun_induction stringEnd bs generalizing inside after with
  | case1 => simp at h
  | case2 b rest => simp only [Option.some.injEq, Prod.mk.injEq] at h; simp [h.2]
  | case3 => simp at h
  | case4 => simp at h
  | case5 => simp at h
  | case6 b _ _ _ e rest' x y hx ih =>
    obtain ⟨-, rfl⟩ := Prod.mk.inj (Option.some.inj h)
    have := ih hx
    simp only [List.length_cons]
    omega
  | case7 => simp at h
  | case8 b rest _ _ _ x y hx ih =>
    obtain ⟨-, rfl⟩ := Prod.mk.inj (Option.some.inj h)
    have := ih hx
    simp only [List.length_cons]
    omega

/-- The code that four digits give. -/
def hexCode (a b c d : UInt8) : Option Nat :=
  let v (x : UInt8) := Hex.value? (Char.ofNat x.toNat)
  match v a, v b, v c, v d with
  | some a, some b, some c, some d => some (((a * 16 + b) * 16 + c) * 16 + d)
  | _, _, _, _ => none

/-- What the letter of an escape stands for. -/
def escaped (b : UInt8) : Option UInt8 :=
  if b == 0x22 || b == 0x5c || b == 0x2f then some b
  else if b == 0x62 then some 0x08
  else if b == 0x66 then some 0x0c
  else if b == 0x6e then some 0x0a
  else if b == 0x72 then some 0x0d
  else if b == 0x74 then some 0x09
  else none

/-- What the inside of a string is made of: bytes, and the codes of `\u` escapes. -/
inductive Piece where
  | byte (b : UInt8)
  | code (n : Nat)

/-- The pieces of the inside of a string; an unknown escape has none. -/
def pieces : Bytes → Option (List Piece)
  | 0x5c :: 0x75 :: a :: b :: c :: d :: rest =>
    match hexCode a b c d, pieces rest with
    | some n, some ps => some (.code n :: ps)
    | _, _ => none
  | 0x5c :: e :: rest =>
    match escaped e, pieces rest with
    | some b, some ps => some (.byte b :: ps)
    | _, _ => none
  | [0x5c] => none
  | b :: rest => (pieces rest).map (.byte b :: ·)
  | [] => some []

/-- Whether a code is the first half of a surrogate pair. -/
def isHighSurrogate (n : Nat) : Bool := 0xd800 ≤ n && n < 0xdc00

/-- Whether a code is the second half of a surrogate pair. -/
def isLowSurrogate (n : Nat) : Bool := 0xdc00 ≤ n && n < 0xe000

/-- The bytes of a character, by its code. -/
def codeBytes (n : Nat) : Bytes := Utf8.encode (String.singleton (Char.ofNat n))

/-- The bytes that the pieces spell. Two escapes may form a surrogate pair; half a pair
spells nothing. -/
def spell : List Piece → Option Bytes
  | [] => some []
  | .byte b :: rest => (spell rest).map (b :: ·)
  | .code n :: rest =>
    if isHighSurrogate n then
      match rest with
      | .code lo :: rest' =>
        if isLowSurrogate lo then
          (spell rest').map (codeBytes (0x10000 + (n - 0xd800) * 0x400 + (lo - 0xdc00)) ++ ·)
        else none
      | _ => none
    else if isLowSurrogate n then none
    else (spell rest).map (codeBytes n ++ ·)

/-- The digits at the front, if there is at least one, and what follows them. -/
def digits (bs : Bytes) : Option (Bytes × Bytes) :=
  match bs.takeWhile isDigit with
  | [] => none
  | ds => some (ds, bs.dropWhile isDigit)

/-- The value of decimal digits. -/
def natOf (ds : Bytes) : Nat := ds.foldl (fun n d => 10 * n + (d.toNat - 48)) 0

/-- What may follow the whole part of a number: a fraction, an exponent, both or neither. -/
def tailOk (bs : Bytes) : Bool :=
  let exponentOk : Bytes → Bool
    | [] => true
    | e :: rest =>
      (e == 0x65 || e == 0x45) &&
        match rest with
        | s :: rest' =>
          if s == 0x2b || s == 0x2d then !rest'.isEmpty && rest'.all isDigit
          else rest.all isDigit
        | [] => false
  match bs with
  | 0x2e :: rest =>
    match digits rest with
    | some (_, rest') => exponentOk rest'
    | none => false
  | _ => exponentOk bs

/-- A number: no leading zeros and no sign but `-`. -/
def number (bs : Bytes) : Option Datum :=
  let (negative, rest) : Bool × Bytes :=
    match bs with
    | 0x2d :: rest => (true, rest)
    | _ => (false, bs)
  match digits rest with
  | none => none
  | some (ds, tail) =>
    if (ds.headD 0 == 0x30 && 1 < ds.length) || !tailOk tail then none
    else if negative || !tail.isEmpty then some .other
    else some (.nat (natOf ds))

/-- The value of a word. There are three words. -/
def word (bs : Bytes) : Option Datum :=
  if bs = Utf8.encode "null" then some .null
  else if bs = Utf8.encode "true" then some (.bool true)
  else if bs = Utf8.encode "false" then some (.bool false)
  else none

/-- The token of a byte that stands for one by itself. -/
def mark (b : UInt8) : Option Token :=
  if b == 0x5b then some .openArray
  else if b == 0x5d then some .closeArray
  else if b == 0x7b then some .openObject
  else if b == 0x7d then some .closeObject
  else if b == 0x2c then some .comma
  else if b == 0x3a then some .colon
  else none

/-- What follows a number or a word is no longer than what it was taken from. -/
theorem length_dropWhile_le {α : Type} (p : α → Bool) (xs : List α) :
    (xs.dropWhile p).length ≤ xs.length := by
  induction xs with
  | nil => simp
  | cons x xs ih =>
    simp only [List.dropWhile_cons]
    split
    · simp only [List.length_cons]; omega
    · simp

/-- The tokens of a document, if all of it can be cut into tokens. -/
def tokens : Bytes → Option (List Token)
  | [] => some []
  | b :: rest =>
    if isSpace b then tokens rest
    else match mark b with
      | some t => (tokens rest).map (t :: ·)
      | none =>
        if b == 0x22 then
          match _h : stringEnd rest with
          | none => none
          | some (inside, after) =>
            match pieces inside with
            | none => none
            | some ps => (tokens after).map (.string ((spell ps).bind Utf8.decode) :: ·)
        else if isNumberByte b then
          match number (b :: rest.takeWhile isNumberByte) with
          | none => none
          | some d => (tokens (rest.dropWhile isNumberByte)).map (.scalar d :: ·)
        else
          match word (b :: rest.takeWhile isLetter) with
          | none => none
          | some d => (tokens (rest.dropWhile isLetter)).map (.scalar d :: ·)
termination_by bs => bs.length
decreasing_by
  · simp
  · simp
  · have := stringEnd_length _h
    simp only [List.length_cons]; omega
  · have := length_dropWhile_le isNumberByte rest
    simp only [List.length_cons]; omega
  · have := length_dropWhile_le isLetter rest
    simp only [List.length_cons]; omega

/-! ## Documents -/

/-- An array or object that is still open, its last item first. An object also holds the
key whose value is being read. -/
inductive Frame where
  | array (items : List Datum)
  | object (fields : List (Option String × Datum)) (key : Option String)

/-- How far a document has been read. -/
inductive Progress where
  | value (frames : List Frame)
  | firstItem (frames : List Frame)
  | firstKey (frames : List Frame)
  | key (fields : List (Option String × Datum)) (frames : List Frame)
  | colon (key : Option String) (fields : List (Option String × Datum)) (frames : List Frame)
  | complete (value : Datum) (frames : List Frame)

/-- A finished object, its fields given last first. An object with a key that spells no text
is no record for anyone to read. -/
def close (fields : List (Option String × Datum)) : Datum :=
  match fields.reverse.mapM fun f => f.1.map (·, f.2) with
  | some named => .object named
  | none => .other

/-- The value at the start of which a token stands. -/
def begin (frames : List Frame) : Token → Option Progress
  | .openArray => some (.firstItem frames)
  | .openObject => some (.firstKey frames)
  | .string (some s) => some (.complete (.string s) frames)
  | .string none => some (.complete .other frames)
  | .scalar d => some (.complete d frames)
  | _ => none

/-- How a token moves a reading on; nothing if it may not stand here. -/
def step : Progress → Token → Option Progress
  | .value frames, t => begin frames t
  | .firstItem frames, .closeArray => some (.complete (.array []) frames)
  | .firstItem frames, t => begin (.array [] :: frames) t
  | .firstKey frames, .closeObject => some (.complete (.object []) frames)
  | .firstKey frames, .string k => some (.colon k [] frames)
  | .key fields frames, .string k => some (.colon k fields frames)
  | .colon k fields frames, .colon => some (.value (.object fields k :: frames))
  | .complete d (.array items :: frames), .comma => some (.value (.array (d :: items) :: frames))
  | .complete d (.array items :: frames), .closeArray =>
    some (.complete (.array (d :: items).reverse) frames)
  | .complete d (.object fields k :: frames), .comma => some (.key ((k, d) :: fields) frames)
  | .complete d (.object fields k :: frames), .closeObject =>
    some (.complete (close ((k, d) :: fields)) frames)
  | _, _ => none

/-- The same for all tokens in turn. -/
def run : Progress → List Token → Option Progress
  | p, [] => some p
  | p, t :: ts =>
    match step p t with
    | none => none
    | some p' => run p' ts

/-- The value of a document. It must be complete, with nothing behind it. -/
def read (bs : Bytes) : Option Datum :=
  match tokens bs with
  | none => none
  | some ts =>
    match run (.value []) ts with
    | some (.complete d []) => some d
    | _ => none

/-! ## Writing -/

/-- The letter after the backslash, for a character that has an escape of its own. -/
def letter? : Char → Option Char
  | '\x22' => some '\x22'
  | '\\' => some '\\'
  | '\x08' => some 'b'
  | '\x0c' => some 'f'
  | '\n' => some 'n'
  | '\r' => some 'r'
  | '\t' => some 't'
  | _ => none

/-- How a character is written in a string: by its own escape if it has one, by its code if it
is another control character, and as it is otherwise. -/
def escape (c : Char) : List Char :=
  match letter? c with
  | some e => ['\\', e]
  | none =>
    if c.toNat < 0x20 then
      ['\\', 'u', '0', '0', Hex.digit (c.toNat / 16), Hex.digit (c.toNat % 16)]
    else [c]

/-- A text as a string. -/
def quote (s : String) : String :=
  "\"" ++ String.ofList (s.toList.flatMap escape) ++ "\""

mutual

/-- The document of a value, without blanks. `other` has no text of its own and is written
as `null`. -/
def write : Datum → String
  | .null => "null"
  | .bool true => "true"
  | .bool false => "false"
  | .nat n => toString n
  | .string s => quote s
  | .array items => "[" ++ writeItems items ++ "]"
  | .object fields => "\x7b" ++ writeFields fields ++ "\x7d"
  | .other => "null"

/-- The items of an array, with commas between them. -/
def writeItems : List Datum → String
  | [] => ""
  | [d] => write d
  | d :: ds => write d ++ "," ++ writeItems ds

/-- The fields of an object, with commas between them. -/
def writeFields : List (String × Datum) → String
  | [] => ""
  | [(k, d)] => quote k ++ ":" ++ write d
  | (k, d) :: fs => quote k ++ ":" ++ write d ++ "," ++ writeFields fs

end

end Gatehouse.Json
