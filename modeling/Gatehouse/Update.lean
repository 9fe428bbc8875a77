import Gatehouse.Role
import Gatehouse.Password

/-!
# Updates

An update is the full set of credentials that the cluster authority pushes: admin users
with salted password digests, buckets with their passwords, and live sessions. It carries a
version chosen by the authority. Nothing about an update is checked here; that is the work
of installing it.
-/

set_option autoImplicit false

namespace Gatehouse

/-- An administrative user. The digest is whatever the authority sent. -/
structure AdminUser where
  name : String
  salt : Bytes
  passwordHash : Bytes
  role : Role
  deriving DecidableEq

/-- A credential bound to one bucket; the bucket's name is the login. -/
structure BucketCredential where
  bucket : String
  password : String
  deriving DecidableEq

/-- A session that somebody has begun elsewhere. -/
structure SessionToken where
  token : String
  user : String
  role : Role
  deriving DecidableEq

/-- All credentials there are, in lists. Nothing keeps a name from occurring twice. -/
structure Update where
  version : UInt64 := 0
  admins : List AdminUser := []
  buckets : List BucketCredential := []
  tokens : List SessionToken := []
  deriving DecidableEq

/-- The user put in the place of the first of the same name, or at the end if there is none. -/
def AdminUser.placeIn (user : AdminUser) : List AdminUser → List AdminUser
  | [] => [user]
  | other :: rest =>
    if other.name = user.name then user :: rest else other :: user.placeIn rest

namespace Update

def new (version : UInt64) : Update := { version }

/-- Adds an admin user, or replaces the one of that name. -/
def setUser (u : Update) (name password : String) (role : Role) (salt : Bytes) : Update :=
  let user : AdminUser := ⟨name, salt, (Password.hash password salt).bytes, role⟩
  { u with admins := user.placeIn u.admins }

/-- Adds a bucket at the end. -/
def addBucket (u : Update) (bucket password : String) : Update :=
  { u with buckets := u.buckets ++ [⟨bucket, password⟩] }

def addToken (u : Update) (token user : String) (role : Role) : Update :=
  { u with tokens := u.tokens ++ [⟨token, user, role⟩] }

/-- One call on an update that is being built. -/
inductive Entry where
  | user (name password : String) (role : Role) (salt : Bytes)
  | bucket (name password : String)
  | token (token user : String) (role : Role)

/-- The update after one call. -/
def add (u : Update) : Entry → Update
  | .user name password role salt => u.setUser name password role salt
  | .bucket name password => u.addBucket name password
  | .token token user role => u.addToken token user role

/-- The update after some calls on a new one. -/
def build (version : UInt64) (entries : List Entry) : Update :=
  entries.foldl add (new version)

end Update

end Gatehouse
