import Gatehouse.Proofs.Gate.Presented
import Gatehouse.Session

/-!
# Settings that work

Settings are checked when they are loaded, and are used later: when a gate is made, and when
its refresh task is started. One would like the check to be enough (`Settings.Works`). It is
not: an address is checked by reading it, but used only if exchanges can be made with it, and
an address of a file, say, can be read. `works_iff_usable` says that this is all that is
missing, and what comes of it: a gate that is not made, or one whose task is never started.

So the question is what an address is that can be read and cannot be used. Reading tells the
scheme (`Url.yields_parse`), and the scheme decides (`Address.Usable`).
-/

set_option autoImplicit false

namespace Gatehouse

/-! ## The scheme of an address -/

namespace Url

/-- If an address is read at all, it is as described. -/
def Yields (reading : Except Fault Url) (P : Url → Prop) : Prop := ∀ u, reading = .ok u → P u

theorem Yields.ok {u : Url} {P : Url → Prop} (h : P u) : Yields (.ok u) P := by
  intro v hv
  rw [← Except.ok.inj hv]
  exact h

theorem Yields.bind {α : Type} {x : Except Fault α} {f : α → Except Fault Url} {P : Url → Prop}
    (h : ∀ a, Yields (f a) P) : Yields (x >>= f) P := by
  intro u hu
  cases x with
  | error fault => cases hu
  | ok a => exact h a u hu

/-- A check on the way may end the reading, and does nothing else. -/
theorem Yields.unless {c : Prop} [Decidable c] {fault : Fault} {rest : Unit → Except Fault Url}
    {P : Url → Prop} (h : Yields (rest ()) P) :
    Yields (if c then throw fault >>= rest else rest ()) P := by
  split
  · exact .bind fun _ => h
  · exact h

theorem yields_parseWeb (scheme : String) (port : Nat) (cs : List Char) :
    Yields (parseWeb scheme port cs) fun u => ∃ a, u = .web a := by
  unfold parseWeb
  apply Yields.bind
  rintro ⟨user, password, rest⟩
  exact .unless (.bind fun host => .bind fun port => .ok ⟨_, rfl⟩)

theorem yields_parseFile (cs : List Char) : Yields (parseFile cs) fun u => u = .other "file" := by
  unfold parseFile
  split
  · dsimp only
    split
    · split
      · exact .bind fun host => .ok rfl
      · exact .ok rfl
    · exact .ok rfl
  · exact .ok rfl

theorem yields_parseOther (scheme : String) (cs : List Char) :
    Yields (parseOther scheme cs) fun u => u = .other scheme := by
  unfold parseOther
  split
  · apply Yields.bind
    rintro ⟨user, password, rest⟩
    exact .bind fun host => .unless (.bind fun port => .unless (.ok rfl))
  · exact .ok rfl

/-- **An address that is not for the web** has a scheme that is not for the web. -/
theorem yields_parse (s : String) : Yields (parse s) fun u =>
    (∃ a, u = .web a) ∨ ∃ scheme, u = .other scheme ∧ defaultPort? scheme = none := by
  intro u hu
  unfold parse at hu
  cases hs : splitScheme (relevant s) with
  | none =>
    rw [hs] at hu
    cases hu
  | some parts =>
    obtain ⟨scheme, rest⟩ := parts
    rw [hs] at hu
    dsimp only at hu
    cases hp : defaultPort? (String.ofList scheme) with
    | some port =>
      rw [hp] at hu
      exact .inl (yields_parseWeb _ _ _ u hu)
    | none =>
      rw [hp] at hu
      dsimp only at hu
      by_cases hfile : String.ofList scheme = "file"
      · rw [if_pos hfile] at hu
        exact .inr ⟨_, yields_parseFile _ u hu, rfl⟩
      · rw [if_neg hfile] at hu
        exact .inr ⟨_, yields_parseOther _ _ u hu, hp⟩

end Url

namespace Address

/-- The address can be read, and its scheme is one that exchanges are made with. -/
def Usable (url : String) : Prop :=
  ∃ u, Url.parse url = .ok u ∧ (u.scheme = "http" ∨ u.scheme = "https")

variable {url : String}

/-- Exchanges can be made with a usable address. -/
theorem exists_parse_of_usable (h : Usable url) : ∃ text, parse url = .ok text := by
  obtain ⟨u, hu, hscheme⟩ := h
  rcases Url.yields_parse url u hu with ⟨a, rfl⟩ | ⟨scheme, rfl, hport⟩
  · refine ⟨a.text, ?_⟩
    rw [parse, hu]
    exact if_pos hscheme
  · -- both schemes have a port of their own
    obtain rfl | rfl : scheme = "http" ∨ scheme = "https" := hscheme
    · cases hport
    · cases hport

theorem parse_of_not_usable {u : Url} (hu : Url.parse url = .ok u) (h : ¬ Usable url) :
    parse url = .error (.invalidUrl url ("unsupported scheme " ++ u.scheme)) := by
  rw [parse, hu]
  cases u with
  | web a => exact if_neg fun hscheme => h ⟨_, hu, hscheme⟩
  | other scheme => rfl

/-- They can be made with no other. -/
theorem usable_of_parse {text : String} (h : parse url = .ok text) : Usable url := by
  apply Classical.byContradiction
  intro hno
  cases hu : Url.parse url with
  | error fault =>
    rw [parse, hu] at h
    cases h
  | ok u =>
    rw [parse_of_not_usable hu hno] at h
    cases h

end Address

/-! ## Checked settings -/

namespace Settings

variable {s : Settings}

theorem checkUrl_eq_ok_iff {fault : Url.Fault → SettingsFault} {url : String} :
    checkUrl fault url = .ok () ↔ ∃ u, Url.parse url = .ok u := by
  unfold checkUrl
  cases Url.parse url with
  | ok u => exact iff_of_true rfl ⟨u, rfl⟩
  | error f => exact iff_of_false nofun nofun

theorem andThen_eq_ok_iff {check : Except SettingsFault Unit}
    {rest : Unit → Except SettingsFault Unit} :
    (check >>= rest) = .ok () ↔ check = .ok () ∧ rest () = .ok () := by
  cases check with
  | error fault => exact iff_of_false nofun nofun
  | ok done => exact (and_iff_right rfl).symm

theorem throw_eq_ok_iff {fault : SettingsFault} :
    (throw fault : Except SettingsFault Unit) = .ok () ↔ False := iff_of_false nofun id

/-- **What the check makes sure of.** -/
theorem validate_eq_ok_iff : s.validate = .ok () ↔
    (∃ u, Url.parse s.verifyUrl = .ok u) ∧
      (∀ r, s.refresh = some r → ∃ u, Url.parse r.snapshotUrl = .ok u) ∧
      (∃ name, Header.Name.parse s.session.markerHeader = some name) ∧
      s.session.cookieName ≠ "" := by
  have hnames : (if s.session.cookieName = "" then throw .emptyCookieName
      else pure () : Except SettingsFault Unit) = .ok () ↔ s.session.cookieName ≠ "" := by
    split
    · next he => exact iff_of_false nofun fun h => h he
    · next he => exact iff_of_true rfl he
  unfold validate
  rw [andThen_eq_ok_iff, checkUrl_eq_ok_iff]
  refine and_congr_right' ?_
  cases s.refresh with
  | none =>
    cases Header.Name.parse s.session.markerHeader with
    | none => simp [andThen_eq_ok_iff, throw_eq_ok_iff]
    | some name => simpa using hnames
  | some r =>
    dsimp only
    rw [andThen_eq_ok_iff, checkUrl_eq_ok_iff]
    cases Header.Name.parse s.session.markerHeader with
    | none => simp [andThen_eq_ok_iff, throw_eq_ok_iff]
    | some name => simpa using fun u _ => hnames

end Settings

/-! ## Making a gate and starting its task -/

namespace Gate

variable {s : Settings} {g : Gate} {r : RefreshSettings} {u : Url}

theorem exists_ofSettings (h : s.validate = .ok ()) (hu : Address.Usable s.verifyUrl) :
    ∃ g, (ofSettings s).value = .ok g := by
  obtain ⟨-, -, ⟨name, hname⟩, -⟩ := Settings.validate_eq_ok_iff.mp h
  obtain ⟨text, htext⟩ := Address.exists_parse_of_usable hu
  exact ⟨⟨⟨text⟩, name, _, _, _, _⟩,
    ofSettings_eq_ok_iff.mpr ⟨h, hname, rfl, rfl, rfl, rfl, htext⟩⟩

theorem ofSettings_of_not_usable (h : s.validate = .ok ()) (hu : Url.parse s.verifyUrl = .ok u)
    (hno : ¬ Address.Usable s.verifyUrl) : (ofSettings s).value
      = .error (.unusableUrl s.verifyUrl ("unsupported scheme " ++ u.scheme)) := by
  obtain ⟨-, -, ⟨name, hname⟩, -⟩ := Settings.validate_eq_ok_iff.mp h
  unfold ofSettings
  rw [h]
  dsimp only
  rw [hname]
  dsimp only
  rw [Traced.value_bind, Verifier.new, Address.parse_of_not_usable hu hno]
  rfl

theorem exists_puller?_of_usable (hr : g.refresh = some r) (hu : Address.Usable r.snapshotUrl) :
    ∃ p, g.puller? = .ok (some (p, r.interval)) := by
  obtain ⟨text, htext⟩ := Address.exists_parse_of_usable hu
  refine ⟨⟨text, []⟩, ?_⟩
  simp only [puller?, hr, Puller.new, htext]

theorem puller?_of_not_usable (hr : g.refresh = some r) (hu : Url.parse r.snapshotUrl = .ok u)
    (hno : ¬ Address.Usable r.snapshotUrl) : g.puller?
      = .error (.unusableUrl r.snapshotUrl ("unsupported scheme " ++ u.scheme)) := by
  simp only [puller?, hr, Puller.new, Address.parse_of_not_usable hu hno]

end Gate

namespace Session

variable {session : Session}

theorem startRefresh_of_puller {p : Puller} {interval : Nat} (authority : Correspondence)
    (h : session.gate.puller? = .ok (some (p, interval))) :
    (step authority session .startRefresh).value.1 = .refreshStarted (.ok true) ∧
      (step authority session .startRefresh).value.2.store.upkeep.starting
        = session.store.upkeep.starting ++ [1000 * interval] := by
  unfold step
  rw [h]
  exact ⟨rfl, rfl⟩

theorem startRefresh_of_fault {fault : SettingsFault} (authority : Correspondence)
    (h : session.gate.puller? = .error fault) :
    (step authority session .startRefresh).value = (.refreshStarted (.error fault), session) := by
  unfold step
  rw [h]
  rfl

end Session

namespace Settings

/-- The settings make a gate, and if they ask for a refresh task, the gate starts one. -/
def Works (s : Settings) : Prop :=
  ∃ g, (Gate.ofSettings s).value = .ok g ∧
    ∀ r, s.refresh = some r → ∀ (authority : Correspondence) (session : Session),
      session.gate = g →
        (Session.step authority session .startRefresh).value.1 = .refreshStarted (.ok true) ∧
          (Session.step authority session .startRefresh).value.2.store.upkeep.starting
            = session.store.upkeep.starting ++ [1000 * r.interval]

variable {s : Settings}

theorem Works.usable (h : s.Works) : Address.Usable s.verifyUrl ∧
    ∀ r, s.refresh = some r → Address.Usable r.snapshotUrl := by
  obtain ⟨g, hg, hstarts⟩ := h
  obtain ⟨hvalid, hconfigured⟩ := Gate.ofSettings_eq_ok_iff.mp hg
  refine ⟨Address.usable_of_parse hconfigured.url, ?_⟩
  intro r hr
  apply Classical.byContradiction
  intro hno
  -- a new session would have started a task, and gets a fault instead
  let session : Session := { gate := g }
  let nobody : Authority := fun _ => .error (.transport "nobody there")
  let authority : Correspondence := ⟨fun _ => nobody, fun _ => nobody⟩
  have hstarted := (hstarts r hr authority session rfl).1
  obtain ⟨-, hparses, -, -⟩ := validate_eq_ok_iff.mp hvalid
  obtain ⟨u, hu⟩ := hparses r hr
  have hfault : session.gate.puller? = _ :=
    Gate.puller?_of_not_usable (hconfigured.refresh.trans hr) hu hno
  rw [Session.startRefresh_of_fault authority hfault] at hstarted
  cases hstarted

theorem works_of_usable (h : s.validate = .ok ()) (hv : Address.Usable s.verifyUrl)
    (hr : ∀ r, s.refresh = some r → Address.Usable r.snapshotUrl) : s.Works := by
  obtain ⟨g, hg⟩ := Gate.exists_ofSettings h hv
  refine ⟨g, hg, ?_⟩
  rintro r hrefresh authority session rfl
  have hconfigured := (Gate.ofSettings_eq_ok_iff.mp hg).2
  obtain ⟨p, hp⟩ := Gate.exists_puller?_of_usable (hconfigured.refresh.trans hrefresh)
    (hr r hrefresh)
  exact Session.startRefresh_of_puller authority hp

/-- **Checked settings work exactly if their addresses are usable.** If that of the authority
is not, no gate is made; if that of the snapshot is not, a gate is made all the same, and it is
its task that never starts. -/
theorem works_iff_usable {s : Settings} (h : s.validate = .ok ()) :
    (s.Works ↔ Address.Usable s.verifyUrl ∧
      ∀ r, s.refresh = some r → Address.Usable r.snapshotUrl) ∧
    (¬ Address.Usable s.verifyUrl → ∃ u, Url.parse s.verifyUrl = .ok u ∧
      (Gate.ofSettings s).value
        = .error (.unusableUrl s.verifyUrl ("unsupported scheme " ++ u.scheme))) ∧
    (Address.Usable s.verifyUrl → ∀ r, s.refresh = some r → ¬ Address.Usable r.snapshotUrl →
      ∃ g u, (Gate.ofSettings s).value = .ok g ∧ Url.parse r.snapshotUrl = .ok u ∧
        ∀ (authority : Correspondence) (session : Session), session.gate = g →
          (Session.step authority session .startRefresh).value
            = (.refreshStarted (.error (.unusableUrl r.snapshotUrl
                ("unsupported scheme " ++ u.scheme))), session)) := by
  obtain ⟨⟨u, hu⟩, hparses, -, -⟩ := validate_eq_ok_iff.mp h
  refine ⟨⟨Works.usable, fun hw => works_of_usable h hw.1 hw.2⟩, ?_, ?_⟩
  · intro hno
    exact ⟨u, hu, Gate.ofSettings_of_not_usable h hu hno⟩
  · intro hv r hr hno
    obtain ⟨g, hg⟩ := Gate.exists_ofSettings h hv
    obtain ⟨u', hu'⟩ := hparses r hr
    have hrefresh : g.refresh = some r := (Gate.ofSettings_eq_ok_iff.mp hg).2.refresh.trans hr
    refine ⟨g, u', hg, hu', ?_⟩
    rintro authority session rfl
    exact Session.startRefresh_of_fault authority (Gate.puller?_of_not_usable hrefresh hu' hno)

/-- Settings that pull from a file. -/
def fromFile : Settings :=
  { verifyUrl := "http://[::]/", refresh := some { snapshotUrl := "file:///snapshot" } }

theorem parse_fileUrl : Url.parse "file:///snapshot" = .ok (.other "file") := rfl

theorem validate_fromFile : fromFile.validate = .ok () := by
  refine validate_eq_ok_iff.mpr ⟨⟨_, Gate.parse_loopbackUrl⟩, ?_, ⟨⟨"ns_server-ui"⟩, by decide⟩,
    by decide⟩
  intro r hr
  obtain rfl := Option.some.inj hr
  exact ⟨_, parse_fileUrl⟩

/-- They are taken for usable, and do not work. -/
theorem not_works_fromFile : fromFile.validate = .ok () ∧ ¬ fromFile.Works := by
  refine ⟨validate_fromFile, fun hworks => ?_⟩
  obtain ⟨-, hsnapshot⟩ := (works_iff_usable validate_fromFile).1.mp hworks
  obtain ⟨u, hu, hscheme⟩ := hsnapshot _ rfl
  obtain rfl : Url.other "file" = u := Except.ok.inj (parse_fileUrl.symm.trans hu)
  exact absurd hscheme (by decide)

end Settings

end Gatehouse
