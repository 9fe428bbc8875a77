import Gatehouse.Update
import Std.Data.HashMap

/-!
# Snapshots

A snapshot is an update that has been checked and indexed by name. Checking stops at the
first entry that breaks a rule: admin users come first, then buckets, then sessions, each
list in its own order. No name may occur twice in its list, so an index holds an entry for
each member of the list it was made from and nothing else.
-/

set_option autoImplicit false

namespace Gatehouse

/-- The three lists of an update. -/
inductive EntryKind where
  | adminUser
  | bucket
  | sessionToken
  deriving DecidableEq

/-- What an entry of the list is called in messages. -/
def EntryKind.label : EntryKind → String
  | .adminUser => "admin user"
  | .bucket => "bucket"
  | .sessionToken => "session token"

/-- What keeps an update from being installed, or from coming at all. -/
inductive UpdateFault where
  /-- An entry without the name that it is looked up by. -/
  | emptyName (kind : EntryKind)
  | duplicate (kind : EntryKind) (name : String)
  /-- An admin user whose role is for something else. -/
  | invalidAdminRole (name role : String)
  | emptySalt (name : String)
  /-- An admin user whose digest has the wrong width. -/
  | invalidHash (name : String) (length : Nat)
  | notFetched (reason : String)
  deriving DecidableEq

/-- The message about a fault. It names the entry, and never a secret. -/
def UpdateFault.message : UpdateFault → String
  | .emptyName kind => "Empty " ++ kind.label ++ " name in cache update"
  | .duplicate kind name => "Duplicate " ++ kind.label ++ " in cache update: " ++ name
  | .invalidAdminRole name role => "Admin user " ++ name ++ " has non-admin role " ++ role
  | .emptySalt name => "Admin user " ++ name ++ " has an empty salt"
  | .invalidHash name length =>
    "Admin user " ++ name ++ " has a " ++ toString length ++ "-byte password hash"
  | .notFetched reason => "Snapshot refresh failed: " ++ reason

/-- The first rule that an admin user breaks by itself. -/
def AdminUser.fault? (a : AdminUser) : Option UpdateFault :=
  if a.name = "" then some (.emptyName .adminUser)
  else if a.role.isAdminRole = false then some (.invalidAdminRole a.name a.role.name)
  else if a.salt = [] then some (.emptySalt a.name)
  else if a.passwordHash.length ≠ Password.digestSize then
    some (.invalidHash a.name a.passwordHash.length)
  else none

/-- The rule that a bucket breaks by itself. -/
def BucketCredential.fault? (b : BucketCredential) : Option UpdateFault :=
  if b.bucket = "" then some (.emptyName .bucket) else none

/-- The rule that a session breaks by itself. -/
def SessionToken.fault? (t : SessionToken) : Option UpdateFault :=
  if t.token = "" then some (.emptyName .sessionToken) else none

/-- Entries by the name that they are looked up by. -/
abbrev Index (α : Type) := Std.HashMap String α

/-- How the entries of one list are named and checked. -/
structure Entries (α : Type) where
  key : α → String
  fault? : α → Option UpdateFault
  duplicate : α → UpdateFault

/-- Adds the entries of a list to an index, up to the first fault. -/
def Entries.addTo {α : Type} (es : Entries α) : Index α → List α → Except UpdateFault (Index α)
  | index, [] => .ok index
  | index, x :: xs =>
    match es.fault? x with
    | some fault => .error fault
    | none =>
      if index.contains (es.key x) then .error (es.duplicate x)
      else es.addTo (index.insert (es.key x) x) xs

/-- The index of a list, or the first fault of the list. -/
def Entries.index {α : Type} (es : Entries α) (xs : List α) : Except UpdateFault (Index α) :=
  es.addTo ∅ xs

/-- Admin users go by their name. -/
def adminEntries : Entries AdminUser where
  key := AdminUser.name
  fault? := AdminUser.fault?
  duplicate a := .duplicate .adminUser a.name

/-- Buckets go by their name, which is the login as well. -/
def bucketEntries : Entries BucketCredential where
  key := BucketCredential.bucket
  fault? := BucketCredential.fault?
  duplicate b := .duplicate .bucket b.bucket

/-- A session token is a secret, so a second one is reported under its user. -/
def tokenEntries : Entries SessionToken where
  key := SessionToken.token
  fault? := SessionToken.fault?
  duplicate t := .duplicate .sessionToken t.user

/-- One generation of credentials. -/
structure Snapshot where
  version : UInt64
  /-- How many updates have been installed up to and with this one. -/
  generation : Nat
  /-- Whether it has been put in force, which the first one of a cache never was. -/
  installed : Bool
  admins : Index AdminUser
  buckets : Index BucketCredential
  tokens : Index SessionToken

namespace Snapshot

/-- The snapshot of a new cache. -/
def empty : Snapshot where
  version := 0
  generation := 0
  installed := false
  admins := ∅
  buckets := ∅
  tokens := ∅

/-- The checked and indexed form of an update, not installed yet. -/
def ofUpdate (u : Update) : Except UpdateFault Snapshot :=
  match adminEntries.index u.admins with
  | .error fault => .error fault
  | .ok admins =>
    match bucketEntries.index u.buckets with
    | .error fault => .error fault
    | .ok buckets =>
      match tokenEntries.index u.tokens with
      | .error fault => .error fault
      | .ok tokens =>
        .ok { version := u.version, generation := 0, installed := false, admins, buckets, tokens }

/-- The snapshot put in force as the given generation. -/
def install (s : Snapshot) (generation : Nat) : Snapshot :=
  { s with generation, installed := true }

/-- The admin user of a name. -/
def admin? (s : Snapshot) (name : String) : Option AdminUser := s.admins[name]?

def bucket? (s : Snapshot) (name : String) : Option BucketCredential := s.buckets[name]?

def token? (s : Snapshot) (token : String) : Option SessionToken := s.tokens[token]?

def adminCount (s : Snapshot) : Nat := s.admins.size

def bucketCount (s : Snapshot) : Nat := s.buckets.size

def tokenCount (s : Snapshot) : Nat := s.tokens.size

end Snapshot

end Gatehouse
