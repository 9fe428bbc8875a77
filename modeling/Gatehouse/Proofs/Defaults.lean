import Gatehouse.Proofs.Json.Document
import Gatehouse.Proofs.Record

/-!
# Settings that are left out

A document may leave out any setting that has its default. Two things must agree for this to be
safe: what is written for a default, and what is read where nothing is written. Both are compared
with one table (`Settings.defaults`), and the law is

> take the document of any settings and remove whatever the table says of them: what is left is
> still read as these settings (`Settings.reads_back`).

Removing is done path by path, and the step is shown for every document that is read as the
settings, not for the one that is written (`Settings.keeps_without`). So the order does not
matter, and neither does it that a key is removed from a table which is removed as well.
-/

set_option autoImplicit false

namespace Gatehouse

namespace Datum

/-! ## Parts of a document -/

/-- What stands at the end of a path of keys. -/
def at? : Datum → List String → Option Datum
  | d, [] => some d
  | .object fields, k :: path => (fields.lookup k).bind (·.at? path)
  | _, _ :: _ => none

/-- The value without a key. Only an object has keys. -/
def erase (k : String) : Datum → Datum
  | .object fields => .object (fields.filter fun f => f.1 ≠ k)
  | d => d

/-- The value with a change to what a key stands for. -/
def modify (k : String) (change : Datum → Datum) : Datum → Datum
  | .object fields => .object (fields.map fun f => if f.1 = k then (f.1, change f.2) else f)
  | d => d

/-- The document without the key at the end of a path. -/
def without (d : Datum) : List String → Datum
  | [] => d
  | [k] => d.erase k
  | k :: k' :: path => d.modify k (·.without (k' :: path))

def withoutAll (d : Datum) (paths : List (List String)) : Datum := paths.foldl without d

variable {d : Datum} {k : String} {change : Datum → Datum}

/-! ## They have a text if the document has one -/

theorem Plain.erase (h : d.Plain) : (d.erase k).Plain := by
  cases h with
  | object hfields => exact .object fun f hf => hfields f (List.mem_filter.mp hf).1
  | array hitems => exact .array hitems
  | _ => constructor

theorem Plain.modify (h : d.Plain) (hchange : ∀ v : Datum, v.Plain → (change v).Plain) :
    (d.modify k change).Plain := by
  cases h with
  | object hfields =>
    refine .object fun f hf => ?_
    obtain ⟨g, hg, rfl⟩ := List.mem_map.mp hf
    split
    · exact hchange g.2 (hfields g hg)
    · exact hfields g hg
  | array hitems => exact .array hitems
  | _ => constructor

theorem Plain.without : ∀ {path : List String} {d : Datum}, d.Plain → (d.without path).Plain
  | [], _, h => h
  | [_], _, h => h.erase
  | _ :: _ :: _, _, h => h.modify fun _ hv => hv.without

theorem Plain.withoutAll {paths : List (List String)} : ∀ {d : Datum}, d.Plain →
    (d.withoutAll paths).Plain := by
  induction paths with
  | nil => exact id
  | cons path paths ih => exact fun h => ih h.without

/-! ## What they give -/

variable {surplus : Surplus} {names : List String} {name : String} {v : Datum}

theorem IsRecord.erase (h : d.IsRecord surplus names) : (d.erase k).IsRecord surplus names := by
  cases h with
  | object hnodup =>
    exact .object (hnodup.sublist ((List.filter_sublist.map Prod.fst).filter _))
  | array hlength => exact .array hlength

theorem IsRecord.modify (h : d.IsRecord surplus names) :
    (d.modify k change).IsRecord surplus names := by
  cases h with
  | @object fields hnodup =>
    refine .object ?_
    have hkeys : ∀ f : String × Datum, (if f.1 = k then (f.1, change f.2) else f).1 = f.1 := by
      intro f
      split <;> rfl
    rw [List.map_map]
    simpa only [Function.comp_def, hkeys] using hnodup
  | array hlength => exact .array hlength

theorem HasField.of_erase (h : (d.erase k).HasField names name v) : d.HasField names name v := by
  cases d with
  | object fields =>
    obtain ⟨hmem⟩ := h
    exact .named (List.mem_filter.mp hmem).1
  | _ => exact h

/-- A field is there as before, or it was the one of that key. -/
theorem HasField.erase (h : d.HasField names name v) : (d.erase k).HasField names name v ∨
    name = k ∧ ∀ w, ¬ (d.erase k).HasField names name w := by
  cases h with
  | @named fields name v hmem =>
    by_cases hk : name = k
    · refine .inr ⟨hk, ?_⟩
      rintro w ⟨hw⟩
      simpa [hk] using (List.mem_filter.mp hw).2
    · exact .inl (.named (List.mem_filter.mpr ⟨hmem, by simpa using hk⟩))
  | placed hname hitem => exact .inl (.placed hname hitem)

theorem HasField.of_modify (h : (d.modify k change).HasField names name v) :
    ∃ w, d.HasField names name w := by
  cases d with
  | object fields =>
    obtain ⟨hmem⟩ := h
    obtain ⟨⟨n, w⟩, hw, heq⟩ := List.mem_map.mp hmem
    refine ⟨w, .named ?_⟩
    split at heq <;> cases heq <;> exact hw
  | _ => exact ⟨v, h⟩

/-- A field is there as before, or it is changed as the one of that key. -/
theorem HasField.modify (h : d.HasField names name v) : (d.modify k change).HasField names name v ∨
    name = k ∧ (d.modify k change).HasField names name (change v) := by
  cases h with
  | @named fields name v hmem =>
    by_cases hk : name = k
    · exact .inr ⟨hk, .named (List.mem_map.mpr ⟨(name, v), hmem, if_pos hk⟩)⟩
    · exact .inl (.named (List.mem_map.mpr ⟨(name, v), hmem, if_neg hk⟩))
  | placed hname hitem => exact .inl (.placed hname hitem)

variable {α : Type} {read : Datum → Option α} {x default : α}

/-- The change does not show in what is read. -/
def Keeps (read : Datum → Option α) (x : α) (change : Datum → Datum) : Prop :=
  ∀ v, read v = some x → read (change v) = some x

theorem Gives.erase (h : Gives names d name read x) (hk : name ≠ k) :
    Gives names (d.erase k) name read x := by
  obtain ⟨v, hv, hx⟩ := h
  exact ⟨v, hv.erase.resolve_right fun h => hk h.1, hx⟩

theorem GivesOr.erase (h : GivesOr names d name default read x) (hk : name = k → x = default) :
    GivesOr names (d.erase k) name default read x := by
  rcases h with ⟨v, hv, hx⟩ | ⟨hnone, hx⟩
  · rcases hv.erase (k := k) with hv' | ⟨heq, hnone⟩
    · exact .inl ⟨v, hv', hx⟩
    · exact .inr ⟨hnone, hk heq⟩
  · exact .inr ⟨fun v hv => hnone v hv.of_erase, hx⟩

theorem GivesOr.modify (h : GivesOr names d name default read x)
    (hk : name = k → Keeps read x change) :
    GivesOr names (d.modify k change) name default read x := by
  rcases h with ⟨v, hv, hx⟩ | ⟨hnone, hx⟩
  · have hmodify : (d.modify k change).HasField names name v ∨
        name = k ∧ (d.modify k change).HasField names name (change v) := hv.modify
    rcases hmodify with hv' | ⟨heq, hv'⟩
    · exact .inl ⟨v, hv', hx⟩
    · exact .inl ⟨change v, hv', hk heq v hx⟩
  · refine .inr ⟨fun v hv => ?_, hx⟩
    obtain ⟨w, hw⟩ := hv.of_modify
    exact hnone w hw

end Datum

variable {surplus : Surplus} {d : Datum} {k : String} {change : Datum → Datum}

/-! ## What a document says about settings -/

namespace SessionSettings

variable {s : SessionSettings}

/-- The document is one of these settings. -/
structure Described (surplus : Surplus) (d : Datum) (s : SessionSettings) : Prop where
  record : d.IsRecord surplus fieldNames
  markerHeader : d.GivesOr fieldNames "marker_header" "ns_server-ui" Datum.string? s.markerHeader
  markerValue : d.GivesOr fieldNames "marker_value" "yes" Datum.string? s.markerValue
  cookieName : d.GivesOr fieldNames "cookie_name" "ui-auth-q" Datum.string? s.cookieName

theorem ofDatum_eq_some_iff : ofDatum surplus d = some s ↔ Described surplus d s := by
  unfold ofDatum
  refine Datum.reads_iff (fun r hr hd => ?_) Described.record
  have hnames : fieldNames.Nodup := by decide
  simp (disch := decide) only [bind, pure, Option.bind_eq_some_iff, Datum.optional_iff hnames _ hr]
  constructor
  · rintro ⟨_, hheader, _, hvalue, _, hcookie, heq⟩
    cases heq
    exact ⟨hd, hheader, hvalue, hcookie⟩
  · rintro ⟨-, hheader, hvalue, hcookie⟩
    exact ⟨_, hheader, _, hvalue, _, hcookie, rfl⟩

@[simp] theorem ofDatum_toDatum (surplus : Surplus) (s : SessionSettings) :
    ofDatum surplus s.toDatum = some s := by
  simp [ofDatum, toDatum, Datum.record?, fieldNames, distinctNames, Record.optional,
    List.lookup_cons, Datum.string?]

@[simp] theorem plain_toDatum (s : SessionSettings) : s.toDatum.Plain := .object (by simp)

theorem toDatum_injective {s' : SessionSettings} (h : s.toDatum = s'.toDatum) : s = s' := by
  have hread := ofDatum_toDatum .ignored s
  rw [h, ofDatum_toDatum] at hread
  exact (Option.some.inj hread).symm

/-- The key has its default. -/
inductive Omissible (s : SessionSettings) : String → Prop
  | markerHeader (h : s.markerHeader = "ns_server-ui") : Omissible s "marker_header"
  | markerValue (h : s.markerValue = "yes") : Omissible s "marker_value"
  | cookieName (h : s.cookieName = "ui-auth-q") : Omissible s "cookie_name"

/-- A field with its default may go, and the settings stay the same. -/
theorem keeps_erase (h : s.Omissible k) : Datum.Keeps (ofDatum surplus) s (Datum.erase k) := by
  intro v hv
  rw [ofDatum_eq_some_iff] at hv ⊢
  -- The fields of another name are not concerned.
  cases h <;>
    exact ⟨hv.record.erase, hv.markerHeader.erase (by simp [*]), hv.markerValue.erase (by simp [*]),
      hv.cookieName.erase (by simp [*])⟩

end SessionSettings

namespace TransportSettings

variable {t : TransportSettings}

structure Described (surplus : Surplus) (d : Datum) (t : TransportSettings) : Prop where
  record : d.IsRecord surplus fieldNames
  skipTlsVerify : d.GivesOr fieldNames "skip_tls_verify" false Datum.bool? t.skipTlsVerify
  timeoutSecs : d.GivesOr fieldNames "timeout_secs" 30 Datum.uint64? t.timeoutSecs

theorem ofDatum_eq_some_iff : ofDatum surplus d = some t ↔ Described surplus d t := by
  unfold ofDatum
  refine Datum.reads_iff (fun r hr hd => ?_) Described.record
  have hnames : fieldNames.Nodup := by decide
  simp (disch := decide) only [bind, pure, Option.bind_eq_some_iff, Datum.optional_iff hnames _ hr]
  constructor
  · rintro ⟨_, hskip, _, htimeout, heq⟩
    cases heq
    exact ⟨hd, hskip, htimeout⟩
  · rintro ⟨-, hskip, htimeout⟩
    exact ⟨_, hskip, _, htimeout, rfl⟩

@[simp] theorem ofDatum_toDatum (surplus : Surplus) (t : TransportSettings) :
    ofDatum surplus t.toDatum = some t := by
  simp [ofDatum, toDatum, Datum.record?, fieldNames, distinctNames, Record.optional,
    List.lookup_cons, Datum.bool?]

@[simp] theorem plain_toDatum (t : TransportSettings) : t.toDatum.Plain := .object (by simp)

theorem toDatum_injective {t' : TransportSettings} (h : t.toDatum = t'.toDatum) : t = t' := by
  have hread := ofDatum_toDatum .ignored t
  rw [h, ofDatum_toDatum] at hread
  exact (Option.some.inj hread).symm

/-- The key has its default. -/
inductive Omissible (t : TransportSettings) : String → Prop
  | skipTlsVerify (h : t.skipTlsVerify = false) : Omissible t "skip_tls_verify"
  | timeoutSecs (h : t.timeoutSecs = 30) : Omissible t "timeout_secs"

theorem keeps_erase (h : t.Omissible k) : Datum.Keeps (ofDatum surplus) t (Datum.erase k) := by
  intro v hv
  rw [ofDatum_eq_some_iff] at hv ⊢
  cases h <;>
    exact ⟨hv.record.erase, hv.skipTlsVerify.erase (by simp [*]),
      hv.timeoutSecs.erase (by simp [*])⟩

end TransportSettings

namespace RefreshSettings

variable {r : RefreshSettings}

structure Described (surplus : Surplus) (d : Datum) (r : RefreshSettings) : Prop where
  record : d.IsRecord surplus fieldNames
  snapshotUrl : d.Gives fieldNames "snapshot_url" Datum.string? r.snapshotUrl
  intervalSecs : d.GivesOr fieldNames "interval_secs" 60 Datum.uint64? r.intervalSecs

theorem ofDatum_eq_some_iff : ofDatum surplus d = some r ↔ Described surplus d r := by
  unfold ofDatum
  refine Datum.reads_iff (fun found hfound hd => ?_) Described.record
  have hnames : fieldNames.Nodup := by decide
  simp (disch := decide) only [bind, pure, Option.bind_eq_some_iff,
    Datum.required_iff hnames _ hfound, Datum.optional_iff hnames _ hfound]
  constructor
  · rintro ⟨_, hurl, _, hinterval, heq⟩
    cases heq
    exact ⟨hd, hurl, hinterval⟩
  · rintro ⟨-, hurl, hinterval⟩
    exact ⟨_, hurl, _, hinterval, rfl⟩

theorem ofDatum?_eq_some_iff : ofDatum? surplus d = some (some r) ↔ ofDatum surplus d = some r := by
  cases d with
  | null => exact iff_of_false nofun nofun
  | _ => simp [ofDatum?]

@[simp] theorem ofDatum?_toDatum (surplus : Surplus) (r : RefreshSettings) :
    ofDatum? surplus r.toDatum = some (some r) := by
  rw [ofDatum?_eq_some_iff]
  simp [ofDatum, toDatum, Datum.record?, fieldNames, distinctNames, Record.required,
    Record.optional, List.lookup_cons, Datum.string?]

@[simp] theorem plain_toDatum (r : RefreshSettings) : r.toDatum.Plain := .object (by simp)

/-- The key has its default. The address has none. -/
inductive Omissible (r : RefreshSettings) : String → Prop
  | intervalSecs (h : r.intervalSecs = 60) : Omissible r "interval_secs"

theorem keeps_erase (h : r.Omissible k) :
    Datum.Keeps (ofDatum? surplus) (some r) (Datum.erase k) := by
  intro v hv
  rw [ofDatum?_eq_some_iff, ofDatum_eq_some_iff] at hv ⊢
  cases h with
  | intervalSecs h =>
    exact ⟨hv.record.erase, hv.snapshotUrl.erase (by decide), hv.intervalSecs.erase fun _ => h⟩

end RefreshSettings

namespace Settings

variable {s : Settings}

structure Described (surplus : Surplus) (d : Datum) (s : Settings) : Prop where
  record : d.IsRecord surplus fieldNames
  verifyUrl : d.GivesOr fieldNames "verify_url" "http://127.0.0.1:8091/_auth" Datum.string?
    s.verifyUrl
  strictSessionMarker : d.GivesOr fieldNames "strict_session_marker" false Datum.bool?
    s.strictSessionMarker
  session : d.GivesOr fieldNames "session" ⟨"ns_server-ui", "yes", "ui-auth-q"⟩
    (SessionSettings.ofDatum surplus) s.session
  transport : d.GivesOr fieldNames "transport" ⟨false, 30⟩ (TransportSettings.ofDatum surplus)
    s.transport
  refresh : d.GivesOr fieldNames "refresh" none (RefreshSettings.ofDatum? surplus) s.refresh

theorem ofDatum_eq_some_iff : ofDatum surplus d = some s ↔ Described surplus d s := by
  unfold ofDatum
  refine Datum.reads_iff (fun r hr hd => ?_) Described.record
  have hnames : fieldNames.Nodup := by decide
  simp (disch := decide) only [bind, pure, Option.bind_eq_some_iff, Datum.optional_iff hnames _ hr]
  constructor
  · rintro ⟨_, hurl, _, hstrict, _, hsession, _, htransport, _, hrefresh, heq⟩
    cases heq
    exact ⟨hd, hurl, hstrict, hsession, htransport, hrefresh⟩
  · rintro ⟨-, hurl, hstrict, hsession, htransport, hrefresh⟩
    exact ⟨_, hurl, _, hstrict, _, hsession, _, htransport, _, hrefresh, rfl⟩

/-! ## Leaving settings out -/

/-- The default of every key that has one, as it is written. -/
def defaults : List (List String × Datum) :=
  [(["verify_url"], .string "http://127.0.0.1:8091/_auth"),
    (["strict_session_marker"], .bool false),
    (["session"], .object [("marker_header", .string "ns_server-ui"),
      ("marker_value", .string "yes"), ("cookie_name", .string "ui-auth-q")]),
    (["session", "marker_header"], .string "ns_server-ui"),
    (["session", "marker_value"], .string "yes"),
    (["session", "cookie_name"], .string "ui-auth-q"),
    (["transport"], .object [("skip_tls_verify", .bool false), ("timeout_secs", .nat 30)]),
    (["transport", "skip_tls_verify"], .bool false),
    (["transport", "timeout_secs"], .nat 30),
    (["refresh", "interval_secs"], .nat 60)]

/-- The settings are written with the default at the path. -/
def AtDefault (s : Settings) (path : List String) : Prop :=
  ∃ d, (path, d) ∈ defaults ∧ s.toDatum.at? path = some d

/-- The key has its default. -/
inductive Omissible (s : Settings) : String → Prop
  | verifyUrl (h : s.verifyUrl = "http://127.0.0.1:8091/_auth") : Omissible s "verify_url"
  | strictSessionMarker (h : s.strictSessionMarker = false) : Omissible s "strict_session_marker"
  | session (h : s.session = ⟨"ns_server-ui", "yes", "ui-auth-q"⟩) : Omissible s "session"
  | transport (h : s.transport = ⟨false, 30⟩) : Omissible s "transport"

theorem keeps_erase (h : s.Omissible k) : Datum.Keeps (ofDatum surplus) s (Datum.erase k) := by
  intro v hv
  rw [ofDatum_eq_some_iff] at hv ⊢
  cases h <;>
    exact ⟨hv.record.erase, hv.verifyUrl.erase (by simp [*]),
      hv.strictSessionMarker.erase (by simp [*]), hv.session.erase (by simp [*]),
      hv.transport.erase (by simp [*]), hv.refresh.erase (by simp)⟩

/-- The key is one of a table, and a change there does not show in what the table is read as. -/
inductive Unchanged (surplus : Surplus) (s : Settings) (change : Datum → Datum) : String → Prop
  | session (h : Datum.Keeps (SessionSettings.ofDatum surplus) s.session change) :
    Unchanged surplus s change "session"
  | transport (h : Datum.Keeps (TransportSettings.ofDatum surplus) s.transport change) :
    Unchanged surplus s change "transport"
  | refresh (h : Datum.Keeps (RefreshSettings.ofDatum? surplus) s.refresh change) :
    Unchanged surplus s change "refresh"

theorem keeps_modify (h : Unchanged surplus s change k) :
    Datum.Keeps (ofDatum surplus) s (Datum.modify k change) := by
  intro v hv
  rw [ofDatum_eq_some_iff] at hv ⊢
  cases h <;>
    exact ⟨hv.record.modify, hv.verifyUrl.modify (by simp), hv.strictSessionMarker.modify (by simp),
      hv.session.modify (by simp [*]), hv.transport.modify (by simp [*]),
      hv.refresh.modify (by simp [*])⟩

theorem keeps_without_key : ∀ e ∈ defaults, s.toDatum.at? e.1 = some e.2 →
    Datum.Keeps (ofDatum surplus) s (Datum.without · e.1) := by
  simp only [defaults, List.forall_mem_cons]
  refine ⟨?verifyUrl, ?strictSessionMarker, ?session, ?markerHeader, ?markerValue, ?cookieName,
    ?transport, ?skipTlsVerify, ?timeoutSecs, ?intervalSecs, List.forall_mem_nil _⟩
  case verifyUrl =>
    intro (h : some (Datum.string s.verifyUrl) = _)
    exact keeps_erase (.verifyUrl (by simpa using h))
  case strictSessionMarker =>
    intro (h : some (Datum.bool s.strictSessionMarker) = _)
    exact keeps_erase (.strictSessionMarker (by simpa using h))
  case session =>
    intro (h : some s.session.toDatum = _)
    exact keeps_erase (.session (SessionSettings.toDatum_injective (Option.some.inj h)))
  case markerHeader =>
    intro (h : some (Datum.string s.session.markerHeader) = _)
    exact keeps_modify (.session (SessionSettings.keeps_erase (.markerHeader (by simpa using h))))
  case markerValue =>
    intro (h : some (Datum.string s.session.markerValue) = _)
    exact keeps_modify (.session (SessionSettings.keeps_erase (.markerValue (by simpa using h))))
  case cookieName =>
    intro (h : some (Datum.string s.session.cookieName) = _)
    exact keeps_modify (.session (SessionSettings.keeps_erase (.cookieName (by simpa using h))))
  case transport =>
    intro (h : some s.transport.toDatum = _)
    exact keeps_erase (.transport (TransportSettings.toDatum_injective (Option.some.inj h)))
  case skipTlsVerify =>
    intro (h : some (Datum.bool s.transport.skipTlsVerify) = _)
    exact keeps_modify
      (.transport (TransportSettings.keeps_erase (.skipTlsVerify (by simpa using h))))
  case timeoutSecs =>
    intro (h : some (Datum.nat s.transport.timeoutSecs.toNat) = _)
    have htimeout : s.transport.timeoutSecs = 30 :=
      UInt64.toNat_inj.mp (Datum.nat.inj (Option.some.inj h))
    exact keeps_modify (.transport (TransportSettings.keeps_erase (.timeoutSecs htimeout)))
  case intervalSecs =>
    intro h
    cases hr : s.refresh with
    | none => simp [toDatum, hr, Datum.at?, List.lookup_cons] at h
    | some r =>
      have hat : some (Datum.nat r.intervalSecs.toNat) = some (.nat 60) := by
        rw [← h, toDatum, hr]
        rfl
      have hinterval : r.intervalSecs = 60 :=
        UInt64.toNat_inj.mp (Datum.nat.inj (Option.some.inj hat))
      refine keeps_modify (.refresh ?_)
      rw [hr]
      exact RefreshSettings.keeps_erase (.intervalSecs hinterval)

/-- **A default may be left out of any document of the settings.** -/
theorem keeps_without {path : List String} (h : s.AtDefault path) :
    Datum.Keeps (ofDatum surplus) s (Datum.without · path) := by
  obtain ⟨d, hmem, hat⟩ := h
  exact keeps_without_key (path, d) hmem hat

/-- By induction on the paths: what one removal leaves is a document that the next one keeps. -/
theorem keeps_withoutAll {paths : List (List String)} (h : ∀ path ∈ paths, s.AtDefault path) :
    Datum.Keeps (ofDatum surplus) s (Datum.withoutAll · paths) := by
  induction paths with
  | nil => exact fun _ hv => hv
  | cons path rest ih =>
    intro v hv
    exact ih (fun p hp => h p (List.mem_cons_of_mem path hp)) (v.without path)
      (keeps_without (h path List.mem_cons_self) v hv)

theorem plain_toDatum (s : Settings) : s.toDatum.Plain := by
  refine .object ?_
  cases s.refresh <;> simp

/-- The document of the settings is read as them. -/
theorem ofDatum_toDatum (surplus : Surplus) (s : Settings) :
    ofDatum surplus s.toDatum = some s := by
  obtain ⟨url, strict, session, transport, refresh⟩ := s
  cases refresh <;>
    simp [ofDatum, toDatum, Datum.record?, fieldNames, distinctNames, Record.optional,
      List.lookup_cons, Datum.string?, Datum.bool?]

theorem atDefault_of_forall (h : ∀ e ∈ defaults, s.toDatum.at? e.1 = some e.2)
    {path : List String} (hpath : path ∈ defaults.map Prod.fst) : s.AtDefault path := by
  obtain ⟨⟨path, d⟩, hmem, rfl⟩ := List.mem_map.mp hpath
  exact ⟨d, hmem, h (path, d) hmem⟩

/-- **Settings are read back from their document without any of the defaults**, as a value and as
a text; and what settings are by themselves is these defaults. -/
theorem reads_back (surplus : Surplus) (s : Settings) {paths : List (List String)}
    (h : ∀ path ∈ paths, s.AtDefault path) :
    ofDatum surplus (s.toDatum.withoutAll paths) = some s ∧
      (Json.read (Utf8.encode (Json.write (s.toDatum.withoutAll paths)))).bind (ofDatum surplus)
        = some s ∧
      ∀ e ∈ defaults, e.1.head? ≠ some "refresh" → ({} : Settings).toDatum.at? e.1 = some e.2 := by
  have hvalue := keeps_withoutAll h s.toDatum (ofDatum_toDatum surplus s)
  refine ⟨hvalue, ?_, ?_⟩
  · rw [Json.read_write s.plain_toDatum.withoutAll]
    exact hvalue
  · simp only [defaults, List.forall_mem_cons]
    exact ⟨fun _ => rfl, fun _ => rfl, fun _ => rfl, fun _ => rfl, fun _ => rfl, fun _ => rfl,
      fun _ => rfl, fun _ => rfl, fun _ => rfl, fun h => absurd rfl h, nofun⟩

/-- Settings with every default there can be. -/
def sparse : Settings := { refresh := some ⟨"http://127.0.0.1:9000/_cbauth/snapshot", 60⟩ }

/-- An address to pull from is all that has to be said about them. -/
theorem reads_back_sparse :
    (∀ path ∈ defaults.map Prod.fst, sparse.AtDefault path) ∧
      sparse.toDatum.withoutAll (defaults.map Prod.fst) = .object [("refresh",
        .object [("snapshot_url", .string "http://127.0.0.1:9000/_cbauth/snapshot")])] ∧
      ofDatum .ignored (sparse.toDatum.withoutAll (defaults.map Prod.fst)) = some sparse := by
  have hat : ∀ e ∈ defaults, sparse.toDatum.at? e.1 = some e.2 := by
    simp only [defaults, List.forall_mem_cons]
    exact ⟨rfl, rfl, rfl, rfl, rfl, rfl, rfl, rfl, rfl, rfl, nofun⟩
  have hall : ∀ path ∈ defaults.map Prod.fst, sparse.AtDefault path :=
    fun _ => atDefault_of_forall hat
  exact ⟨hall, rfl, (reads_back .ignored sparse hall).1⟩

end Settings

end Gatehouse
