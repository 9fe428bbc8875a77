import Gatehouse.Text.Split
import Gatehouse.Header

/-!
# Session cookies

A cookie header holds pairs with semicolons between them, and a request may have several
such headers. A session is known by the first pair of its cookie's name. Headers that
cannot be read as text, and pieces without an equals sign, are passed over.
-/

set_option autoImplicit false

namespace Gatehouse.Cookie

/-- Names and values of a cookie header, in order. Blanks count only within them. -/
def pairs (cs : List Char) : List (List Char × List Char) :=
  (Text.splitAll ';' cs).filterMap fun piece =>
    Text.splitFirst '=' (Text.trim Text.isBlank piece)

/-- The pairs of all cookie headers, in order. -/
def allPairs (hs : Headers) : List (List Char × List Char) :=
  ((hs.getAll .cookie).filterMap Header.Value.text?).flatMap pairs

/-- The value of the first pair of a name. -/
def find? (hs : Headers) (name : String) : Option String :=
  ((allPairs hs).find? fun p => p.1 = name.toList).map fun p => String.ofList p.2

end Gatehouse.Cookie
