import Gatehouse.Encoding.Utf8

/-!
# Request headers

A header is a name and a value. Names are tokens and compare without regard to case, so
they are kept in lowercase. Values are bytes without controls other than the tab; only
those within printable ASCII can be read as text. Headers keep the order they came in, and
one name may occur several times.
-/

set_option autoImplicit false

namespace Gatehouse

namespace Header

/-- What a lowercase name is made of. -/
def isNameChar (c : Char) : Bool :=
  ('a' ≤ c && c ≤ 'z') || ('0' ≤ c && c ≤ '9') || "!#$%&'*+-.^_`|~".toList.contains c

/-- What a value is made of: anything but controls, and the tab. -/
def isValueByte (b : UInt8) : Bool := (0x20 ≤ b && b != 0x7f) || b == 0x09

/-- The bytes that can be read as text. -/
def isTextByte (b : UInt8) : Bool := (0x20 ≤ b && b < 0x7f) || b == 0x09

/-- The longest name that is read. -/
def nameLimit : Nat := 65535

/-- A header name in lowercase. -/
structure Name where
  text : String
  deriving DecidableEq

/-- The name that the bytes spell in any case. -/
def Name.ofBytes? (bs : Bytes) : Option Name :=
  let cs := bs.map fun b => (Char.ofNat b.toNat).toLower
  if cs ≠ [] ∧ cs.length ≤ nameLimit ∧ cs.all isNameChar = true then some ⟨String.ofList cs⟩
  else none

/-- The name that a text spells. -/
def Name.parse (s : String) : Option Name := Name.ofBytes? (Utf8.encode s)

def Name.authorization : Name := ⟨"authorization"⟩

def Name.cookie : Name := ⟨"cookie"⟩

/-- A header value, which holds no controls but the tab. -/
structure Value where
  bytes : Bytes
  legal : bytes.all isValueByte = true
  deriving DecidableEq

/-- The value with the given bytes, if they make one. -/
def Value.ofBytes? (bs : Bytes) : Option Value :=
  if h : bs.all isValueByte = true then some ⟨bs, h⟩ else none

/-- The value as text, if it is printable ASCII. -/
def Value.text? (v : Value) : Option (List Char) :=
  if v.bytes.all isTextByte then some (v.bytes.map fun b => Char.ofNat b.toNat) else none

end Header

/-- The headers of a message, in the order they came in. -/
abbrev Headers := List (Header.Name × Header.Value)

namespace Headers

/-- The values of all headers of a name, in order. -/
def getAll (hs : Headers) (name : Header.Name) : List Header.Value :=
  (hs.filter fun h => h.1 = name).map Prod.snd

/-- The value of the first header of a name. -/
def get? (hs : Headers) (name : Header.Name) : Option Header.Value := (hs.getAll name).head?

end Headers

end Gatehouse
