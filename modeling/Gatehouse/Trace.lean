import Gatehouse.Snapshot
import Gatehouse.Exchange

/-!
# What can be observed of a computation

Authentication and refresh do three things besides giving a result: they exchange requests
with the authority, they count outcomes, and they write log lines. A computation is a value
together with the list of what it did, in order, so that a statement about its effects is a
statement about a list.
-/

set_option autoImplicit false

namespace Gatehouse

/-! ## Log lines -/

/-- How much a log line matters. -/
inductive Level where
  | debug
  | info
  | warn
  deriving DecidableEq

def Level.name : Level → String
  | .debug => "DEBUG"
  | .info => "INFO"
  | .warn => "WARN"

/-- What is worth a log line, with what the line tells about it. -/
inductive Event where
  | updateRejected (version : UInt64) (fault : UpdateFault)
  | snapshotInstalled (version : UInt64) (generation : Nat)
  | adminLookedUp (name : String) (hit : Bool)
  | bucketLookedUp (name : String) (hit : Bool)
  | tokenLookedUp (hit : Bool)
  | refreshStarted (seconds : Nat)
  | refreshing
  | fetchFailed (fault : UpdateFault)
  | installFailed (fault : UpdateFault)
  | snapshotFetched (version : UInt64) (admins buckets tokens : Nat)
  | verifierCreated (url : String)
  | credentialsRejected (status : Nat)
  | credentialsVerified (user role : String)
  | transportCreated (timeout : Option Nat) (skipsVerification : Bool)
  | gateCreated (url : String) (strict : Bool)
  | sessionCookieMissing
  | markerRejected
  | markerIgnored
  | schemeUnsupported (scheme : String)
  | adminPasswordWrong (user : String)
  | bucketPasswordWrong (user : String)
  | userNotCached (user : String)
  | answerUnreadable (reason : String)
  | verificationFailed (fault : ExchangeFault)
  | roleUnknown (user : String) (role : UnknownRole)
  | userNameless
  | admitted (name path : String)
  | settingsMissing (path : String)
  | settingsLoaded (path : String)

namespace Event

/-- How much an event matters: what goes wrong is a warning, what is set up or installed is
worth knowing, and all else is detail. -/
def level : Event → Level
  | .updateRejected .. => .warn
  | .snapshotInstalled .. => .info
  | .adminLookedUp .. => .debug
  | .bucketLookedUp .. => .debug
  | .tokenLookedUp .. => .debug
  | .refreshStarted .. => .info
  | .refreshing => .debug
  | .fetchFailed .. => .warn
  | .installFailed .. => .warn
  | .snapshotFetched .. => .debug
  | .verifierCreated .. => .info
  | .credentialsRejected .. => .debug
  | .credentialsVerified .. => .debug
  | .transportCreated .. => .info
  | .gateCreated .. => .info
  | .sessionCookieMissing => .debug
  | .markerRejected => .debug
  | .markerIgnored => .debug
  | .schemeUnsupported .. => .debug
  | .adminPasswordWrong .. => .debug
  | .bucketPasswordWrong .. => .debug
  | .userNotCached .. => .debug
  | .answerUnreadable .. => .warn
  | .verificationFailed .. => .warn
  | .roleUnknown .. => .warn
  | .userNameless => .warn
  | .admitted .. => .debug
  | .settingsMissing .. => .info
  | .settingsLoaded .. => .info

/-- What the result of a look-up is called. -/
def found (hit : Bool) : String := if hit then "hit" else "miss"

/-- A time limit as it is shown in messages. -/
def span : Option Nat → String
  | none => "None"
  | some seconds => "Some(" ++ toString seconds ++ "s)"

/-- The text of a log line. -/
def message : Event → String
  | .updateRejected version fault =>
    "Rejected cache update (version " ++ toString version.toNat ++ "): " ++ fault.message
  | .snapshotInstalled version generation =>
    "Installed credential snapshot (version: " ++ toString version.toNat ++ ", generation: "
      ++ toString generation ++ ")"
  | .adminLookedUp name hit => "Admin lookup for " ++ name ++ ": " ++ found hit
  | .bucketLookedUp name hit => "Bucket lookup for " ++ name ++ ": " ++ found hit
  | .tokenLookedUp hit => "Token lookup: " ++ found hit
  | .refreshStarted seconds =>
    "Starting credential refresh task (interval: " ++ toString seconds ++ " seconds)"
  | .refreshing => "Refreshing credential snapshot"
  | .fetchFailed fault => "Failed to fetch credential snapshot: " ++ fault.message
  | .installFailed fault => "Failed to install credential snapshot: " ++ fault.message
  | .snapshotFetched version admins buckets tokens =>
    "Fetched credential snapshot version " ++ toString version.toNat ++ " ("
      ++ toString admins ++ " admins, " ++ toString buckets ++ " buckets, "
      ++ toString tokens ++ " tokens)"
  | .verifierCreated url => "Created verification client for " ++ url
  | .credentialsRejected status => "Authority rejected credentials with " ++ Status.text status
  | .credentialsVerified user role => "Authority verified user " ++ user ++ " (" ++ role ++ ")"
  | .transportCreated timeout skips =>
    "Created authority transport (timeout: " ++ span timeout ++ ", skip_tls_verify: "
      ++ toString skips ++ ")"
  | .gateCreated url strict =>
    "Created authenticator (verify_url: " ++ url ++ ", strict_session_marker: "
      ++ toString strict ++ ")"
  | .sessionCookieMissing => "Session marker present without a session cookie"
  | .markerRejected => "Rejecting request with malformed session marker"
  | .markerIgnored => "Ignoring malformed session marker"
  | .schemeUnsupported scheme => "Unsupported authorization scheme: " ++ scheme
  | .adminPasswordWrong user => "Password mismatch for cached user " ++ user
  | .bucketPasswordWrong user => "Password mismatch for cached bucket " ++ user
  | .userNotCached user => "User " ++ user ++ " not cached, asking the authority"
  | .answerUnreadable reason =>
    "Authority returned an unreadable verification response: " ++ reason
  | .verificationFailed fault => "Verification call failed: " ++ fault.message
  | .roleUnknown user role => "Authority verified user " ++ user ++ " with " ++ role.message
  | .userNameless => "Authority verified credentials without a user name"
  | .admitted name path => "Authenticated " ++ name ++ " for " ++ path
  | .settingsMissing path => "Config file not found at " ++ path ++ ", using defaults"
  | .settingsLoaded path => "Loaded configuration from " ++ path

end Event

/-! ## Counters -/

/-- What may become of an update. -/
inductive Replacement where
  | installed
  | rejected
  deriving DecidableEq

/-- What may become of an exchange about credentials. -/
inductive Verification where
  | verified
  | rejected
  | invalid
  | error
  deriving DecidableEq

/-- What an attempt identifies itself by. -/
inductive Mechanism where
  | none
  | token
  | password
  deriving DecidableEq

/-- What may become of an attempt. -/
inductive Attempt where
  | success
  | noCredentials
  | transportError
  | unauthorized
  deriving DecidableEq

/-- What is counted, each with its outcome. -/
inductive Count where
  | replacement (outcome : Replacement)
  | verification (outcome : Verification)
  | attempt (mechanism : Mechanism) (outcome : Attempt)
  deriving DecidableEq

def Replacement.label : Replacement → String
  | .installed => "installed"
  | .rejected => "rejected"

def Verification.label : Verification → String
  | .verified => "verified"
  | .rejected => "rejected"
  | .invalid => "invalid"
  | .error => "error"

def Mechanism.label : Mechanism → String
  | .none => "none"
  | .token => "token"
  | .password => "password"

def Attempt.label : Attempt → String
  | .success => "success"
  | .noCredentials => "no_credentials"
  | .transportError => "transport_error"
  | .unauthorized => "unauthorized"

def Count.name : Count → String
  | .replacement _ => "credgate_cache_replacements_total"
  | .verification _ => "credgate_remote_verifications_total"
  | .attempt .. => "credgate_auth_attempts_total"

/-- The labels of a counter, which tell its outcomes apart. -/
def Count.labels : Count → List (String × String)
  | .replacement outcome => [("outcome", outcome.label)]
  | .verification outcome => [("outcome", outcome.label)]
  | .attempt mechanism outcome => [("mechanism", mechanism.label), ("outcome", outcome.label)]

/-! ## Computations that leave a trace -/

/-- One thing that a computation does. -/
inductive Effect where
  | log (event : Event)
  | count (counter : Count)
  | exchange (request : Request)

/-- A value, and what was done on the way to it. -/
structure Traced (α : Type) where
  value : α
  trace : List Effect := []

namespace Traced

instance : Monad Traced where
  pure a := { value := a }
  bind x f := { value := (f x.value).value, trace := x.trace ++ (f x.value).trace }

def emit (e : Effect) : Traced Unit := { value := (), trace := [e] }

def log (e : Event) : Traced Unit := emit (.log e)

def count (c : Count) : Traced Unit := emit (.count c)

section
variable {α β : Type}

@[simp] theorem value_pure (a : α) : (pure a : Traced α).value = a := rfl

@[simp] theorem trace_pure (a : α) : (pure a : Traced α).trace = [] := rfl

@[simp] theorem value_bind (x : Traced α) (f : α → Traced β) :
    (x >>= f).value = (f x.value).value := rfl

/-- What is done first comes first. -/
@[simp] theorem trace_bind (x : Traced α) (f : α → Traced β) :
    (x >>= f).trace = x.trace ++ (f x.value).trace := rfl

@[simp] theorem trace_emit (e : Effect) : (emit e).trace = [e] := rfl

@[simp] theorem trace_log (e : Event) : (log e).trace = [.log e] := rfl

@[simp] theorem trace_count (c : Count) : (count c).trace = [.count c] := rfl

end

end Traced

namespace Effect

/-- The log lines of a trace, in order. -/
def events (trace : List Effect) : List Event :=
  trace.filterMap fun
    | .log e => some e
    | _ => none

/-- The outcomes that a trace counts, in order. -/
def counts (trace : List Effect) : List Count :=
  trace.filterMap fun
    | .count c => some c
    | _ => none

/-- The requests that a trace sends, in order. -/
def requests (trace : List Effect) : List Request :=
  trace.filterMap fun
    | .exchange r => some r
    | _ => none

section
variable (e : Event) (c : Count) (r : Request) (first rest : List Effect)

@[simp] theorem events_nil : events [] = [] := rfl

@[simp] theorem events_log : events (.log e :: rest) = e :: events rest := rfl

@[simp] theorem events_count : events (.count c :: rest) = events rest := rfl

@[simp] theorem events_exchange : events (.exchange r :: rest) = events rest := rfl

/-- The log lines of two traces are those of the first, and then those of the second. -/
@[simp] theorem events_append : events (first ++ rest) = events first ++ events rest :=
  List.filterMap_append

@[simp] theorem counts_nil : counts [] = [] := rfl

@[simp] theorem counts_log : counts (.log e :: rest) = counts rest := rfl

@[simp] theorem counts_count : counts (.count c :: rest) = c :: counts rest := rfl

@[simp] theorem counts_exchange : counts (.exchange r :: rest) = counts rest := rfl

/-- The same for outcomes. -/
@[simp] theorem counts_append : counts (first ++ rest) = counts first ++ counts rest :=
  List.filterMap_append

@[simp] theorem requests_nil : requests [] = [] := rfl

@[simp] theorem requests_log : requests (.log e :: rest) = requests rest := rfl

@[simp] theorem requests_count : requests (.count c :: rest) = requests rest := rfl

@[simp] theorem requests_exchange : requests (.exchange r :: rest) = r :: requests rest := rfl

/-- The same for requests. -/
@[simp] theorem requests_append : requests (first ++ rest) = requests first ++ requests rest :=
  List.filterMap_append

end

/-- Nothing but log lines. -/
def Quiet (trace : List Effect) : Prop := ∀ e ∈ trace, ∃ event, e = .log event

namespace Quiet

variable {trace first rest : List Effect}

/-- Doing nothing is quiet. -/
theorem nil : Quiet [] := nofun

/-- So is a log line. -/
theorem log (event : Event) : Quiet [.log event] :=
  fun _ he => ⟨event, List.mem_singleton.mp he⟩

/-- Quiet computations are quiet one after the other. -/
theorem append (h : Quiet first) (h' : Quiet rest) : Quiet (first ++ rest) :=
  fun e he => (List.mem_append.mp he).elim (h e) (h' e)

/-- A quiet computation sends nothing. -/
theorem requests (h : Quiet trace) : Effect.requests trace = [] := by
  apply List.filterMap_eq_nil_iff.mpr
  intro e he
  obtain ⟨event, rfl⟩ := h e he
  rfl

/-- It counts nothing either. -/
theorem counts (h : Quiet trace) : Effect.counts trace = [] := by
  apply List.filterMap_eq_nil_iff.mpr
  intro e he
  obtain ⟨event, rfl⟩ := h e he
  rfl

end Quiet

end Effect

end Gatehouse
