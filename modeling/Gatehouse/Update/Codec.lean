import Gatehouse.Update
import Gatehouse.Data.Record
import Gatehouse.Encoding.Hex

/-!
# The wire form of updates

An update travels as a record whose four fields may each be missing. Entries are records
whose fields must all be there; salts and digests are hex strings, and roles go by names of
the wire's own (`Role.tag`). One entry that cannot be read refuses the whole update.
-/

set_option autoImplicit false

namespace Gatehouse

namespace Role

/-- What a role is called in an update. The names are kept apart from those of `Role.name`. -/
def tag : Role → String
  | .admin => "admin"
  | .readOnlyAdmin => "ro_admin"
  | .bucket => "bucket"

def all : List Role := [.admin, .readOnlyAdmin, .bucket]

/-- The role that is called so in an update. -/
def ofTag? (s : String) : Option Role := all.find? fun role => role.tag == s

/-- A role is given as what it is called, or as an object with that one key. -/
def ofDatum : Datum → Option Role
  | .string s => ofTag? s
  | .object [(s, .null)] => ofTag? s
  | _ => none

/-- A role is written as what it is called. -/
def toDatum (role : Role) : Datum := .string role.tag

end Role

/-- The bytes that a string gives in hex. -/
def bytesOfDatum (d : Datum) : Option Bytes := d.string?.bind Hex.decodeText

namespace AdminUser

/-- The fields, in the order in which a list gives them. -/
def fieldNames : List String := ["name", "salt", "password_hash", "role"]

/-- The entry that a value describes. -/
def ofDatum (d : Datum) : Option AdminUser :=
  match d.record? .refused fieldNames with
  | none => none
  | some r => do
    let name ← r.required "name" Datum.string?
    let salt ← r.required "salt" bytesOfDatum
    let passwordHash ← r.required "password_hash" bytesOfDatum
    let role ← r.required "role" Role.ofDatum
    pure { name, salt, passwordHash, role }

/-- The value that describes it. -/
def toDatum (a : AdminUser) : Datum :=
  .object
    [("name", .string a.name), ("salt", .string (Hex.encodeText a.salt)),
      ("password_hash", .string (Hex.encodeText a.passwordHash)), ("role", a.role.toDatum)]

end AdminUser

namespace BucketCredential

def fieldNames : List String := ["bucket", "password"]

def ofDatum (d : Datum) : Option BucketCredential :=
  match d.record? .refused fieldNames with
  | none => none
  | some r => do
    let bucket ← r.required "bucket" Datum.string?
    let password ← r.required "password" Datum.string?
    pure { bucket, password }

def toDatum (b : BucketCredential) : Datum :=
  .object [("bucket", .string b.bucket), ("password", .string b.password)]

end BucketCredential

namespace SessionToken

def fieldNames : List String := ["token", "user", "role"]

def ofDatum (d : Datum) : Option SessionToken :=
  match d.record? .refused fieldNames with
  | none => none
  | some r => do
    let token ← r.required "token" Datum.string?
    let user ← r.required "user" Datum.string?
    let role ← r.required "role" Role.ofDatum
    pure { token, user, role }

def toDatum (t : SessionToken) : Datum :=
  .object [("token", .string t.token), ("user", .string t.user), ("role", t.role.toDatum)]

end SessionToken

namespace Update

def fieldNames : List String := ["version", "admins", "buckets", "tokens"]

/-- The update that a value describes. A list that is missing is empty. -/
def ofDatum (d : Datum) : Option Update :=
  match d.record? .refused fieldNames with
  | none => none
  | some r => do
    let version ← r.optional "version" 0 Datum.uint64?
    let admins ← r.optional "admins" [] (Datum.list? AdminUser.ofDatum)
    let buckets ← r.optional "buckets" [] (Datum.list? BucketCredential.ofDatum)
    let tokens ← r.optional "tokens" [] (Datum.list? SessionToken.ofDatum)
    pure { version, admins, buckets, tokens }

/-- The value that describes an update, with every field given. -/
def toDatum (u : Update) : Datum :=
  .object
    [("version", .nat u.version.toNat), ("admins", .array (u.admins.map AdminUser.toDatum)),
      ("buckets", .array (u.buckets.map BucketCredential.toDatum)),
      ("tokens", .array (u.tokens.map SessionToken.toDatum))]

end Update

end Gatehouse
