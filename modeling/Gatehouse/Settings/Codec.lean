import Gatehouse.Settings
import Gatehouse.Data.Record
import Gatehouse.Data.Toml

/-!
# Settings as plain data

Settings are a record of records. What is not given has its default, which for a flag is
`false`. The one setting that has no default may be missing as a whole, and may then also be
written as `null`.
-/

set_option autoImplicit false

namespace Gatehouse

namespace SessionSettings

/-- The fields, in the order in which a list gives them. -/
def fieldNames : List String := ["marker_header", "marker_value", "cookie_name"]

/-- The settings that a value describes. -/
def ofDatum (surplus : Surplus) (d : Datum) : Option SessionSettings :=
  match d.record? surplus fieldNames with
  | none => none
  | some r => do
    let default : SessionSettings := {}
    let markerHeader ← r.optional "marker_header" default.markerHeader Datum.string?
    let markerValue ← r.optional "marker_value" default.markerValue Datum.string?
    let cookieName ← r.optional "cookie_name" default.cookieName Datum.string?
    pure { markerHeader, markerValue, cookieName }

/-- The value that describes it. -/
def toDatum (s : SessionSettings) : Datum :=
  .object
    [("marker_header", .string s.markerHeader), ("marker_value", .string s.markerValue),
      ("cookie_name", .string s.cookieName)]

end SessionSettings

namespace TransportSettings

def fieldNames : List String := ["skip_tls_verify", "timeout_secs"]

/-- The settings that a value describes. -/
def ofDatum (surplus : Surplus) (d : Datum) : Option TransportSettings :=
  match d.record? surplus fieldNames with
  | none => none
  | some r => do
    let default : TransportSettings := {}
    let skipTlsVerify ← r.optional "skip_tls_verify" false Datum.bool?
    let timeoutSecs ← r.optional "timeout_secs" default.timeoutSecs Datum.uint64?
    pure { skipTlsVerify, timeoutSecs }

def toDatum (t : TransportSettings) : Datum :=
  .object
    [("skip_tls_verify", .bool t.skipTlsVerify), ("timeout_secs", .nat t.timeoutSecs.toNat)]

end TransportSettings

namespace RefreshSettings

def fieldNames : List String := ["snapshot_url", "interval_secs"]

/-- The settings that a value describes. The address has to be there. -/
def ofDatum (surplus : Surplus) (d : Datum) : Option RefreshSettings :=
  match d.record? surplus fieldNames with
  | none => none
  | some r => do
    let snapshotUrl ← r.required "snapshot_url" Datum.string?
    let intervalSecs ← r.optional "interval_secs" defaultIntervalSecs Datum.uint64?
    pure { snapshotUrl, intervalSecs }

/-- The same where `null` stands for no settings at all. -/
def ofDatum? (surplus : Surplus) : Datum → Option (Option RefreshSettings)
  | .null => some none
  | d => (ofDatum surplus d).map some

def toDatum (r : RefreshSettings) : Datum :=
  .object
    [("snapshot_url", .string r.snapshotUrl), ("interval_secs", .nat r.intervalSecs.toNat)]

end RefreshSettings

namespace Settings

def fieldNames : List String :=
  ["verify_url", "strict_session_marker", "session", "transport", "refresh"]

/-- The settings that a value describes, each with its own default. -/
def ofDatum (surplus : Surplus) (d : Datum) : Option Settings :=
  match d.record? surplus fieldNames with
  | none => none
  | some r => do
    let default : Settings := {}
    let verifyUrl ← r.optional "verify_url" default.verifyUrl Datum.string?
    let strictSessionMarker ← r.optional "strict_session_marker" false Datum.bool?
    let session ← r.optional "session" {} (SessionSettings.ofDatum surplus)
    let transport ← r.optional "transport" {} (TransportSettings.ofDatum surplus)
    let refresh ← r.optional "refresh" none (RefreshSettings.ofDatum? surplus)
    pure { verifyUrl, strictSessionMarker, session, transport, refresh }

/-- The value that describes settings. A missing refresh is left out. -/
def toDatum (s : Settings) : Datum :=
  .object <|
    [("verify_url", .string s.verifyUrl), ("strict_session_marker", .bool s.strictSessionMarker),
      ("session", s.session.toDatum), ("transport", s.transport.toDatum)]
    ++ match s.refresh with
      | none => []
      | some r => [("refresh", r.toDatum)]

/-- Reads and checks a document. An array in the place of a record may go on behind the last
field there. -/
def ofToml (content : String) : Except SettingsFault Settings :=
  match (Toml.read content).bind (ofDatum .ignored) with
  | none => .error .undecodable
  | some s =>
    match s.validate with
    | .error fault => .error fault
    | .ok () => .ok s

end Settings

end Gatehouse
