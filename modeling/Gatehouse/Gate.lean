import Gatehouse.Authority.Puller
import Gatehouse.Cache
import Gatehouse.Credential
import Gatehouse.Identity
import Gatehouse.Settings

/-!
# The gate

A gate finds out who a request comes from. A request that bears the session marker is known
by its session cookie, any other by its password. The cache is looked at first; only who is
not in it is asked about, with a single exchange, and the answer is not kept.

`authenticate` is given the cache and returns none, so it cannot change it.
-/

set_option autoImplicit false

namespace Gatehouse

/-- What a gate goes by: whom it asks, and what the settings say about requests. -/
structure Gate where
  verifier : Verifier
  markerHeader : Header.Name
  markerValue : String
  cookieName : String
  strict : Bool
  refresh : Option RefreshSettings

namespace Gate

/-! ## Setting up -/

/-- A gate with checked settings. -/
def ofSettings (s : Settings) : Traced (Except SettingsFault Gate) :=
  match s.validate with
  | .error fault => pure (.error fault)
  | .ok () =>
    match Header.Name.parse s.session.markerHeader with
    | none => pure (.error (.markerHeader s.session.markerHeader))
    | some markerHeader => do
      match ← Verifier.new s.verifyUrl with
      | .error (.invalidUrl url reason) => pure (.error (.unusableUrl url reason))
      | .error fault => pure (.error (.unusableUrl s.verifyUrl fault.message))
      | .ok verifier =>
        Traced.log (.gateCreated verifier.url s.strictSessionMarker)
        pure <| .ok
          { verifier
            markerHeader
            markerValue := s.session.markerValue
            cookieName := s.session.cookieName
            strict := s.strictSessionMarker
            refresh := s.refresh }

/-- A gate with a transport of its own. -/
def withTransport (s : Settings) : Traced (Except SettingsFault Gate) := do
  Traced.log (.transportCreated s.transport.timeout s.transport.skipTlsVerify)
  ofSettings s

/-- What a refresh task of the gate pulls from, if the settings ask for one. -/
def puller? (g : Gate) : Except SettingsFault (Option (Puller × Nat)) :=
  match g.refresh with
  | none => .ok none
  | some r =>
    match Puller.new r.snapshotUrl [] with
    | .error (.invalidUrl url reason) => .error (.unusableUrl url reason)
    | .error fault => .error (.unusableUrl r.snapshotUrl fault.message)
    | .ok puller => .ok (some (puller, r.interval))

/-! ## Classification -/

/-- The credential of a request. The marker's agreed value asks for a session cookie, and
then nothing else counts. Another value refuses the request if the gate is strict, and does
not count otherwise. -/
def classify (g : Gate) (hs : Headers) : Traced (Except Refusal Credential) :=
  match hs.get? g.markerHeader with
  | some marker =>
    if marker.bytes = Utf8.encode g.markerValue then
      match Cookie.find? hs g.cookieName with
      | none => noSession
      | some token => if token = "" then noSession else pure (.ok (.token token))
    else if g.strict then do
      Traced.log .markerRejected
      pure (.error .unauthorized)
    else do
      Traced.log .markerIgnored
      basic hs
  | none => basic hs
where
  noSession : Traced (Except Refusal Credential) := do
    Traced.log .sessionCookieMissing
    pure (.error .unauthorized)
  basic (hs : Headers) : Traced (Except Refusal Credential) :=
    match hs.get? .authorization with
    | none => pure (.error .noCredentials)
    | some value => do
      match ← Basic.parse value with
      | .error refusal => pure (.error refusal)
      | .ok (user, password) => pure (.ok (.password user password))

/-! ## Asking the authority -/

/-- What is sent to ask about a session: the marker, and all cookies. -/
def sessionHeaders (g : Gate) (hs : Headers) : Headers :=
  (match hs.get? g.markerHeader with
    | none => []
    | some marker => [(g.markerHeader, marker)])
  ++ (hs.getAll .cookie).map fun cookie => (.cookie, cookie)

/-- What is sent to ask about a password: the authorization value as it came. -/
def passwordHeaders (hs : Headers) : Headers :=
  match hs.get? .authorization with
  | none => []
  | some value => [(.authorization, value)]

/-- The outcome of an exchange, counted. -/
def counted (outcome : Verification) (result : Except Refusal Identity) :
    Traced (Except Refusal Identity) := do
  Traced.count (.verification outcome)
  pure result

/-- Asks about some credentials, once. Only a user with a name and a known role is let in. -/
def verifyRemote (g : Gate) (authority : Authority) (credentials : Headers) :
    Traced (Except Refusal Identity) := do
  match ← g.verifier.verify authority credentials with
  | .ok none => counted .rejected (.error .unauthorized)
  | .error (.invalidResponse reason) =>
    Traced.log (.answerUnreadable reason)
    counted .invalid (.error .unauthorized)
  | .error fault =>
    Traced.log (.verificationFailed fault)
    counted .error (.error (.transport fault))
  | .ok (some vouch) =>
    match Role.parse vouch.role with
    | .error unknown =>
      Traced.log (.roleUnknown vouch.user unknown)
      counted .invalid (.error .unauthorized)
    | .ok role =>
      if vouch.user = "" then
        Traced.log .userNameless
        counted .invalid (.error .unauthorized)
      else counted .verified (.ok (Identity.ofRole vouch.user role))

/-! ## Authentication -/

/-- Who a session token belongs to. What the cache has is not asked about. -/
def authenticateToken (g : Gate) (cache : Cache) (authority : Authority) (token : String)
    (hs : Headers) : Traced (Except Refusal Identity) := do
  match ← cache.lookupToken token with
  | some session => pure (.ok (Identity.ofRole session.user session.role))
  | none => g.verifyRemote authority (g.sessionHeaders hs)

/-- Who a password belongs to. An admin user hides a bucket of the same name, and who is in
the cache is not asked about. -/
def authenticatePassword (g : Gate) (cache : Cache) (authority : Authority)
    (user password : String) (hs : Headers) : Traced (Except Refusal Identity) :=
  match cache.current.admin? user with
  | some admin =>
    if Password.verify password admin.salt admin.passwordHash then
      pure (.ok (Identity.ofAdmin admin.name admin.role))
    else do
      Traced.log (.adminPasswordWrong user)
      pure (.error .unauthorized)
  | none =>
    match cache.current.bucket? user with
    | some bucket =>
      if bucket.password = password then pure (.ok (Identity.ofBucket bucket.bucket))
      else do
        Traced.log (.bucketPasswordWrong user)
        pure (.error .unauthorized)
    | none => do
      Traced.log (.userNotCached user)
      g.verifyRemote authority (passwordHeaders hs)

/-- The outcome that an attempt counts under. -/
def attemptOf : Except Refusal Identity → Attempt
  | .ok _ => .success
  | .error .noCredentials => .noCredentials
  | .error (.transport _) => .transportError
  | .error _ => .unauthorized

/-- The result of an attempt, counted once. -/
def recorded (mechanism : Mechanism) (result : Except Refusal Identity) :
    Traced (Except Refusal Identity) := do
  Traced.count (.attempt mechanism (attemptOf result))
  pure result

/-- Who a request comes from. -/
def authenticate (g : Gate) (cache : Cache) (authority : Authority) (hs : Headers) :
    Traced (Except Refusal Identity) := do
  match ← g.classify hs with
  | .error refusal => recorded .none (.error refusal)
  | .ok (.token token) => recorded .token (← g.authenticateToken cache authority token hs)
  | .ok (.password user password) =>
    recorded .password (← g.authenticatePassword cache authority user password hs)

end Gate

end Gatehouse
