import Gatehouse.Encoding.Base64
import Gatehouse.Text.Split
import Gatehouse.Refusal
import Gatehouse.Trace

/-!
# User and password in the Basic scheme

An authorization value is a scheme and, after a space, what the scheme makes of the
credentials. In the Basic scheme that is user and password with a colon between them, as
UTF-8 in Base64. A value of another scheme is no credential at all; a value of this scheme
that cannot be decoded is a bad one.
-/

set_option autoImplicit false

namespace Gatehouse.Basic

/-- The scheme of an authorization value, and what follows it. The scheme ends at the first
space after leading blanks; a value without one is a scheme as it stands. -/
def splitScheme (cs : List Char) : List Char × List Char :=
  match Text.splitFirst ' ' (Text.trim Text.isBlank cs) with
  | some parts => parts
  | none => (cs, [])

/-- Whether a scheme is the Basic one, in whatever case. -/
def isBasic (scheme : List Char) : Bool := scheme.map Char.toLower = "basic".toList

/-- User and password from the part after the scheme, cut at the first colon. -/
def decodePair (cs : List Char) : Option (String × String) :=
  match Base64.decode (Text.trim Text.isBlank cs) with
  | none => none
  | some bytes =>
    match Utf8.decode bytes with
    | none => none
    | some text =>
      match Text.splitFirst ':' text.toList with
      | none => none
      | some (user, password) => some (String.ofList user, String.ofList password)

/-- The canonical form of user and password after the scheme. -/
def encodePair (user password : String) : List Char :=
  Base64.encode (Utf8.encode (user ++ ":" ++ password))

/-- User and password of an authorization value. A scheme other than Basic is logged as it
stands. -/
def parse (value : Header.Value) : Traced (Except Refusal (String × String)) :=
  match value.text? with
  | none => pure (.error .unauthorized)
  | some cs =>
    let (scheme, encoded) := splitScheme cs
    if isBasic scheme then
      match decodePair encoded with
      | none => pure (.error .unauthorized)
      | some pair => pure (.ok pair)
    else do
      Traced.log (.schemeUnsupported (String.ofList scheme))
      pure (.error .noCredentials)

end Gatehouse.Basic
