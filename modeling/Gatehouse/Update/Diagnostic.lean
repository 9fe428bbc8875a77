import Gatehouse.Update
import Gatehouse.Text.Quoted

/-!
# The diagnostic text of an update

What may be shown of an update when it is logged: the version, and who has credentials with
which role. Salts, digests, passwords and session tokens are left out, and two dots stand
for them.
-/

set_option autoImplicit false

namespace Gatehouse

def bracketed (entries : List String) : String := "[" ++ ", ".intercalate entries ++ "]"

/-- A named entry with some of its fields, and two dots for the rest. -/
def partialEntry (name : String) (fields : List (String × String)) : String :=
  name ++ " \x7b " ++ ", ".intercalate (fields.map fun f => f.1 ++ ": " ++ f.2) ++ ", .. \x7d"

/-- What is shown of an admin user. -/
def AdminUser.diagnostic (a : AdminUser) : String :=
  partialEntry "AdminUser" [("name", Text.quoted a.name), ("role", a.role.label)]

def BucketCredential.diagnostic (b : BucketCredential) : String :=
  partialEntry "BucketCredential" [("bucket", Text.quoted b.bucket)]

def SessionToken.diagnostic (t : SessionToken) : String :=
  partialEntry "SessionToken" [("user", Text.quoted t.user), ("role", t.role.label)]

/-- The version and the visible part of every entry. -/
def Update.diagnostic (u : Update) : String :=
  "CacheUpdate \x7b version: " ++ toString u.version.toNat
    ++ ", admins: " ++ bracketed (u.admins.map AdminUser.diagnostic)
    ++ ", buckets: " ++ bracketed (u.buckets.map BucketCredential.diagnostic)
    ++ ", tokens: " ++ bracketed (u.tokens.map SessionToken.diagnostic) ++ " \x7d"

end Gatehouse
