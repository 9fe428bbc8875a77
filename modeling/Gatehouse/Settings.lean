import Gatehouse.Header
import Gatehouse.Url

/-!
# Settings

What a gate is configured with: where the authority verifies credentials, how session
requests are told from others, how exchanges are carried out, and whether credentials are
pulled from the authority by itself. Every setting has a default but the address to pull
from, without which nothing is pulled.
-/

set_option autoImplicit false

namespace Gatehouse

/-- How the requests of sessions are told from others. -/
structure SessionSettings where
  markerHeader : String := "ns_server-ui"
  markerValue : String := "yes"
  cookieName : String := "ui-auth-q"
  deriving DecidableEq

/-- How exchanges are carried out. -/
structure TransportSettings where
  skipTlsVerify : Bool := false
  timeoutSecs : UInt64 := 30
  deriving DecidableEq

/-- The time an exchange may take. A setting of zero leaves it unlimited. -/
def TransportSettings.timeout (t : TransportSettings) : Option Nat :=
  if t.timeoutSecs = 0 then none else some t.timeoutSecs.toNat

/-- The seconds between two refreshes that settings do not speak of. -/
def defaultIntervalSecs : UInt64 := 60

/-- Where to pull from, and how often. -/
structure RefreshSettings where
  snapshotUrl : String
  intervalSecs : UInt64 := defaultIntervalSecs
  deriving DecidableEq

/-- The seconds between two refreshes, at least one. -/
def RefreshSettings.interval (r : RefreshSettings) : Nat := max r.intervalSecs.toNat 1

/-- All settings of a gate. -/
structure Settings where
  verifyUrl : String := "http://127.0.0.1:8091/_auth"
  /-- Whether a marker with another value than the agreed one refuses the request. -/
  strictSessionMarker : Bool := false
  session : SessionSettings := {}
  transport : TransportSettings := {}
  refresh : Option RefreshSettings := none
  deriving DecidableEq

/-- What keeps settings from being used. -/
inductive SettingsFault where
  | unreadable (path : String)
  /-- The file holds no usable settings. -/
  | inFile (path : String) (cause : SettingsFault)
  | undecodable
  | verifyUrl (url : String) (fault : Url.Fault)
  | snapshotUrl (url : String) (fault : Url.Fault)
  | markerHeader (name : String)
  | emptyCookieName
  /-- An address that no exchange can be made with. -/
  | unusableUrl (url reason : String)

/-- The messages about a fault, the outermost first. -/
def SettingsFault.messages : SettingsFault → List String
  | .unreadable path => ["Failed to read config file: " ++ path]
  | .inFile path cause => ("Failed to load config file: " ++ path) :: cause.messages
  | .undecodable => ["Failed to parse configuration"]
  | .verifyUrl url fault => ["Invalid verify_url: " ++ url, fault.message]
  | .snapshotUrl url fault => ["Invalid refresh.snapshot_url: " ++ url, fault.message]
  | .markerHeader name =>
    ["Invalid session.marker_header: " ++ name, "invalid HTTP header name"]
  | .emptyCookieName => ["session.cookie_name must not be empty"]
  | .unusableUrl url reason => ["Invalid URL " ++ url ++ ": " ++ reason]

namespace Settings

/-- The default settings with another authority. -/
def withVerifyUrl (url : String) : Settings := { verifyUrl := url }

/-- Whether a text is an address at all. The fault tells which setting it is. -/
def checkUrl (fault : Url.Fault → SettingsFault) (url : String) : Except SettingsFault Unit :=
  match Url.parse url with
  | .ok _ => .ok ()
  | .error f => .error (fault f)

/-- The first setting that cannot be used, if there is one. -/
def validate (s : Settings) : Except SettingsFault Unit := do
  checkUrl (.verifyUrl s.verifyUrl) s.verifyUrl
  match s.refresh with
  | none => pure ()
  | some r => checkUrl (.snapshotUrl r.snapshotUrl) r.snapshotUrl
  match Header.Name.parse s.session.markerHeader with
  | none => throw (.markerHeader s.session.markerHeader)
  | some _ => pure ()
  if s.session.cookieName = "" then throw .emptyCookieName

end Settings

end Gatehouse
