import Gatehouse.Text.Split
import Gatehouse.Unicode.HostMapping
import Gatehouse.Unicode.Direction
import Gatehouse.Unicode.Joining
import Gatehouse.Unicode.Punycode

/-!
# Domain names in ASCII

A domain name may be given in any script. Its characters are mapped to one form and
composed, it is cut into labels, and a label that goes beyond ASCII is written in Punycode.
A label that is in Punycode already must stand for a text that the same steps would leave
alone.
-/

set_option autoImplicit false

namespace Gatehouse.Url.Domain

/-- The longest label that is written in Punycode. -/
def writtenLimit : Nat := 1000

/-- The longest Punycode that is read. -/
def readLimit : Nat := 2000

/-- What a label in Punycode begins with. -/
def prefixed : List Char := "xn--".toList

/-- The characters that no domain name holds. -/
def isRefused (c : Char) : Bool :=
  c.toNat ≤ 0x20 || c.toNat == 0x7f || "%#/:<>?@[\\]^|".toList.contains c

/-- The mapped and composed form of a text; nothing if one of its characters is refused. -/
def normal? (text : List Char) : Option (List Nat) :=
  (text.mapM fun c => Unicode.hostMapping c.toNat).map fun cs => Unicode.composed cs.flatten

/-- Whether a label begins with no mark and has its joiners in place. -/
def isWellFormed (label : List Nat) : Bool :=
  !((label.head?.map Unicode.isMark).getD false) && Unicode.joinersPlaced [] label

/-- A label as it is written in ASCII, and the text that it stands for. -/
structure Label where
  written : List Char
  text : List Nat

/-- Whether a text is in ASCII. -/
def isAscii (cs : List Nat) : Bool := cs.all (· < 0x80)

/-- A mapped label; nothing if it is not well formed. -/
def label? (cs : List Nat) : Option Label :=
  let chars := cs.map Char.ofNat
  if chars.take prefixed.length = prefixed then
    if !isAscii cs || readLimit < cs.length - prefixed.length then none
    else match Punycode.decode (chars.drop prefixed.length) with
      | none => none
      | some text =>
        if isAscii text || normal? (text.map Char.ofNat) ≠ some text || text.contains 0x2e
            || !isWellFormed text then none
        else some ⟨chars, text⟩
  else if isAscii cs then some ⟨chars, cs⟩
  else if !isWellFormed cs || writtenLimit < cs.length then none
  else some ⟨prefixed ++ Punycode.encode cs, cs⟩

open Unicode (Direction direction)

/-- Whether a name with these labels holds anything that runs from right to left. -/
def hasRightToLeft (labels : List Label) : Bool :=
  labels.any fun l => l.text.any fun c =>
    [Direction.rightToLeft, .arabicLetter, .arabicNumber].contains (direction c)

/-- The directions that characters of either kind of label may have. -/
def anywhere : List Direction :=
  [.europeanNumber, .numberSeparator, .commonSeparator, .numberTerminator, .neutral,
    .boundaryNeutral, .nonspacingMark]

/-- Whether a label runs one way: what it begins with, what it may hold, and what it ends
with before its last marks. -/
def runsOneWay (label : List Nat) : Bool :=
  let ds := label.map direction
  match ds with
  | [] => true
  | first :: rest =>
    let last := (rest.reverse.dropWhile (· = .nonspacingMark)).headD first
    if first = .leftToRight then
      rest.all (fun d => d = .leftToRight || anywhere.contains d)
        && [Direction.leftToRight, .europeanNumber].contains last
    else if first = .rightToLeft || first = .arabicLetter then
      rest.all
          (fun d =>
            [Direction.rightToLeft, .arabicLetter, .arabicNumber].contains d
              || anywhere.contains d)
        && [Direction.rightToLeft, .arabicLetter, .europeanNumber, .arabicNumber].contains last
        && !(ds.contains .europeanNumber && ds.contains .arabicNumber)
    else false

/-- The ASCII form of a domain name; nothing if it has none. -/
def toAscii? (bytes : Bytes) : Option (List Char) :=
  match Utf8.decode bytes with
  | none => none
  | some s =>
    match normal? s.toList with
    | none => none
    | some cs =>
      match (Text.splitAll 0x2e cs).mapM label? with
      | none => none
      | some labels =>
        let name := ['.'].intercalate (labels.map Label.written)
        if name.any isRefused || (hasRightToLeft labels && !labels.all (runsOneWay ·.text)) then
          none
        else some name

end Gatehouse.Url.Domain
