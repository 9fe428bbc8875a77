import Gatehouse.Credential.Basic
import Gatehouse.Credential.Cookie

/-!
# Credentials in a request

What a request identifies itself with: a session token, or a user with a password.
-/

set_option autoImplicit false

namespace Gatehouse

/-- A session token, or a user with a password. -/
inductive Credential where
  | token (token : String)
  | password (user password : String)
  deriving DecidableEq

/-- The mechanism that an attempt with the credential counts under. -/
def Credential.mechanism : Credential → Mechanism
  | .token _ => .token
  | .password .. => .password

end Gatehouse
