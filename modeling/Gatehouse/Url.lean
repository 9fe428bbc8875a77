import Gatehouse.Url.Host

/-!
# Web addresses

An address is read as the web's standard prescribes and written in its normal form: scheme
and host in lowercase, the default port left out, `.` and `..` resolved in the path, and
characters encoded where their part of the address demands it. Addresses of schemes that are
not for the web are read far enough to tell whether they are addresses at all, since nothing
more is done with them.
-/

set_option autoImplicit false

namespace Gatehouse

/-- An address of the web, in parts that are encoded already. -/
structure WebUrl where
  scheme : String
  user : List Char
  password : List Char
  host : Url.Host
  /-- The port, if it is not the scheme's own. -/
  port : Option Nat
  path : List (List Char)
  query : Option (List Char)
  fragment : Option (List Char)

/-- An address, of the web or of another scheme. -/
inductive Url where
  | web (address : WebUrl)
  | other (scheme : String)

namespace WebUrl

/-- User and password in the normal form of an address, with the sign behind them. -/
def userinfo (u : WebUrl) : List Char :=
  if u.user = [] ∧ u.password = [] then []
  else u.user ++ (if u.password = [] then [] else ':' :: u.password) ++ ['@']

/-- The normal form of an address. -/
def text (u : WebUrl) : String :=
  u.scheme ++ "://" ++ String.ofList u.userinfo ++ u.host.text
    ++ (match u.port with
      | some p => ":" ++ toString p
      | none => "")
    ++ String.ofList (u.path.flatMap ('/' :: ·))
    ++ (match u.query with
      | some q => "?" ++ String.ofList q
      | none => "")
    ++ (match u.fragment with
      | some f => "#" ++ String.ofList f
      | none => "")

end WebUrl

namespace Url

/-- The scheme of an address, in lowercase. -/
def scheme : Url → String
  | .web u => u.scheme
  | .other scheme => scheme

/-! ## Parts of the text -/

/-- The text that is read: blanks and controls at the ends, and tabs and line ends anywhere,
do not count. -/
def relevant (s : String) : List Char :=
  (Text.trim (· ≤ ' ') s.toList).filter fun c => c ≠ '\t' && c ≠ '\n' && c ≠ '\r'

/-- The scheme in lowercase, and what follows the colon. -/
def splitScheme (cs : List Char) : Option (List Char × List Char) :=
  let isSchemeChar (c : Char) := c.isAlphanum || c = '+' || c = '-' || c = '.'
  match cs with
  | [] => none
  | c :: _ =>
    if !c.isAlpha then none
    else match cs.dropWhile isSchemeChar with
      | ':' :: rest => some ((cs.takeWhile isSchemeChar).map Char.toLower, rest)
      | _ => none

/-- The port of a scheme of the web, which is left out in the normal form. -/
def defaultPort? (scheme : String) : Option Nat :=
  match scheme with
  | "http" => some 80
  | "https" => some 443
  | "ws" => some 80
  | "wss" => some 443
  | "ftp" => some 21
  | _ => none

/-- What ends host and port. Only in web addresses is a backslash a slash. -/
def endsAuthority (web : Bool) (c : Char) : Bool :=
  c = '/' || c = '?' || c = '#' || (web && c = '\\')

/-- User, password and what follows them. They end at the last `@` before the path. -/
def splitUserinfo (web : Bool) (cs : List Char) :
    Except Fault (List Char × List Char × List Char) :=
  let authority := cs.takeWhile (!endsAuthority web ·)
  let rest := cs.dropWhile (!endsAuthority web ·)
  if authority.contains '@' then
    let host := (authority.reverse.takeWhile (· ≠ '@')).reverse
    let info := authority.take (authority.length - host.length - 1)
    if info = [] ∧ host = [] ∧ rest ≠ [] then .error .emptyHost
    else
      let (user, password) := (Text.splitFirst ':' info).getD (info, [])
      .ok (percentEncode inUserinfo user, percentEncode inUserinfo password, host ++ rest)
  else .ok ([], [], cs)

/-- The host, up to a colon outside brackets, and the rest. -/
def splitHost (web : Bool) : Bool → List Char → List Char × List Char
  | _, [] => ([], [])
  | inBrackets, c :: rest =>
    if (c = ':' && !inBrackets) || endsAuthority web c then ([], c :: rest)
    else
      let (host, after) := splitHost web (if c = '[' then true else c ≠ ']' && inBrackets) rest
      (c :: host, after)

/-- The greatest number of a port. -/
def lastPort : Nat := 65535

/-- The port, if one is given, and what follows it. -/
def splitPort (cs : List Char) : Except Fault (Option Nat × List Char) :=
  match cs with
  | ':' :: after =>
    let digits := after.takeWhile Char.isDigit
    let rest := after.dropWhile Char.isDigit
    let port := digits.foldl (fun n c => 10 * n + (c.toNat - 48)) 0
    let ends := match rest with
      | [] => true
      | c :: _ => endsAuthority true c
    if lastPort < port ∨ ends = false then .error .port
    else .ok (if digits = [] then none else some port, rest)
  | _ => .ok (none, cs)

/-! ## Paths -/

/-- Whether a segment is a single dot, encoded or not. -/
def isDot (segment : List Char) : Bool :=
  let s := segment.map Char.toLower
  s = ['.'] || s = "%2e".toList

/-- Whether a segment is two dots, each of them encoded or not. -/
def isDotDot (segment : List Char) : Bool :=
  let s := segment.map Char.toLower
  s = "..".toList || s = ".%2e".toList || s = "%2e.".toList || s = "%2e%2e".toList

/-- Whether a segment names a drive, which two dots do not leave. -/
def isDrive : List Char → Bool
  | [c, d] => c.isAlpha && (d = ':' || d = '|')
  | _ => false

/-- The segments of a path in normal form. `done` are the finished ones, the last first. -/
def resolve (done : List (List Char)) : List (List Char) → List (List Char)
  | [] => done.reverse
  | [last] => (if isDot last || isDotDot last then [] :: up done last else last :: done).reverse
  | segment :: rest =>
    if isDot segment || isDotDot segment then resolve (up done segment) rest
    else resolve (segment :: done) rest
where
  /-- The finished segments after a segment of dots. -/
  up (done : List (List Char)) (segment : List Char) : List (List Char) :=
    if isDotDot segment then
      match done with
      | [] => []
      | d :: ds => if isDrive d then d :: ds else ds
    else done

/-- Cuts a path at slashes of both kinds, after the first one. -/
def segments (cs : List Char) : List (List Char) :=
  let slashed := cs.map fun c => if c = '\\' then '/' else c
  Text.splitAll '/' (if slashed.head? = some '/' then slashed.tail else slashed)

/-! ## Whole addresses -/

/-- An address of the web, after its scheme and slashes. -/
def parseWeb (scheme : String) (defaultPort : Nat) (cs : List Char) : Except Fault Url := do
  let (user, password, cs) ← splitUserinfo true cs
  let (host, cs) := splitHost true false cs
  if host = [] then throw .emptyHost
  let host ← Host.parse host
  let (port, cs) ← splitPort cs
  let inner := cs.takeWhile fun c => c ≠ '?' && c ≠ '#'
  let cs := cs.dropWhile fun c => c ≠ '?' && c ≠ '#'
  let (query, cs) : Option (List Char) × List Char :=
    match cs with
    | '?' :: rest => (some (rest.takeWhile (· ≠ '#')), rest.dropWhile (· ≠ '#'))
    | _ => (none, cs)
  pure <| .web
    { scheme, user, password, host
      port := port.filter (· ≠ defaultPort)
      path := resolve [] ((segments inner).map (percentEncode inPath))
      query := query.map (percentEncode inQuery)
      fragment := cs.head?.map fun _ => percentEncode inFragment cs.tail }

/-- The host of a file address, which may be missing or be a drive. -/
def parseFile (cs : List Char) : Except Fault Url := do
  let isSlash (c : Char) := c = '/' || c = '\\'
  match cs with
  | a :: b :: rest =>
    if isSlash a && isSlash b then
      let host := rest.takeWhile fun c => !isSlash c && c ≠ '?' && c ≠ '#'
      if host ≠ [] && !isDrive host then
        let _ ← Host.parse host
  | _ => pure ()
  pure (.other "file")

/-- An address of another scheme, which is checked and not kept. -/
def parseOther (scheme : String) (cs : List Char) : Except Fault Url := do
  match cs with
  | '/' :: '/' :: rest =>
    let (user, password, cs) ← splitUserinfo false rest
    let (host, cs) := splitHost false false cs
    let _ ← Host.parseOpaque host
    if host = [] ∧ cs.head? = some ':' then throw .emptyHost
    let _ ← splitPort cs
    if host = [] ∧ (user ≠ [] ∨ password ≠ []) then throw .emptyHost
  | _ => pure ()
  pure (.other scheme)

/-- The address that a text gives. Only an address with a scheme is one. -/
def parse (s : String) : Except Fault Url :=
  match splitScheme (relevant s) with
  | none => .error .relative
  | some (scheme, rest) =>
    let scheme := String.ofList scheme
    match defaultPort? scheme with
    | some port => parseWeb scheme port (rest.dropWhile fun c => c = '/' || c = '\\')
    | none => if scheme = "file" then parseFile rest else parseOther scheme rest

end Url

end Gatehouse
