import Gatehouse.Proofs.Gate.Admission

/-!
# Identities and their names

An identity without a name is nobody's, and one that is bound to the bucket without a name
may use what belongs to no bucket. Four sources stand behind an identity. The lists promise a
name for admin users and buckets (`Update.Sound`), and a user without one is not taken from the
authority (`Vouches.named`). The user of a listed session is checked by nobody, so that is
the one place where an identity without a name comes from, and `named_iff_not_nameless` says
so exactly.
-/

set_option autoImplicit false

namespace Gatehouse

/-- The identity has a name, and has no part in the bucket without one unless it has full
rights. -/
structure Identity.Named (i : Identity) : Prop where
  name : i.name ≠ ""
  unbound : i.bucket ≠ some ""
  access : i.canAccess "" = true → i.isAdmin = true
  read : i.canRead "" = true → i.isAdmin = true

namespace Identity

theorem named_ofAdmin (user : String) (role : Role) : (ofAdmin user role).Named ↔ user ≠ "" := by
  constructor
  · exact fun h => h.name
  · intro h
    refine ⟨h, by simp [ofAdmin], ?_, ?_⟩
    · simp [canAccess, ofAdmin]
    · cases role with
      | admin => simp [isAdmin, ofAdmin]
      | readOnlyAdmin => simp [canRead, ofAdmin]
      | bucket => simp [canRead, ofAdmin]

theorem named_ofBucket (bucket : String) : (ofBucket bucket).Named ↔ bucket ≠ "" := by
  constructor
  · exact fun h => h.name
  · intro h
    refine ⟨h, by simpa [ofBucket] using h, ?_, ?_⟩
    · simp [canAccess, isAdmin, ofBucket, h]
    · simp [canRead, ofBucket, h]

theorem named_ofRole (user : String) (role : Role) : (ofRole user role).Named ↔ user ≠ "" := by
  cases role with
  | admin => exact named_ofAdmin user .admin
  | readOnlyAdmin => exact named_ofAdmin user .readOnlyAdmin
  | bucket => exact named_ofBucket user

end Identity

namespace Gate

/-- The request presents a session of the lists whose user has no name. -/
def Nameless (g : Gate) (u : Update) (hs : Headers) : Prop :=
  ∃ session ∈ u.tokens, g.Presents hs (.token session.token) ∧ session.user = ""

variable {g : Gate} {u : Update} {authority : Authority} {hs : Headers} {i : Identity}

theorem not_nameless_of_password {user password : String}
    (hp : g.Presents hs (.password user password)) : ¬ g.Nameless u hs := by
  rintro ⟨session, -, hp', -⟩
  cases hp.unique hp'

/-- One source after the other. -/
theorem Admits.named_iff {s : Snapshot} (hr : s.Reflects u) (h : g.Admits u authority hs i) :
    i.Named ↔ ¬ g.Nameless u hs := by
  cases h with
  | @session token session hp hmem hkey =>
    rw [Identity.named_ofRole]
    apply not_congr
    constructor
    · intro hu
      exact ⟨session, hmem, hkey ▸ hp, hu⟩
    · rintro ⟨other, hother, hp', hu⟩
      -- a token has one session only, since its list has no key twice
      have hsame : other.token = token := by
        simpa using hp'.unique hp
      have h1 := hr.token?_eq_some.mpr ⟨hmem, hkey⟩
      have h2 := hr.token?_eq_some.mpr ⟨hother, hsame⟩
      rw [h1, Option.some.injEq] at h2
      rw [h2]
      exact hu
  | admin hp hmem hkey hhash =>
    refine iff_of_true ?_ (not_nameless_of_password hp)
    exact (Identity.named_ofAdmin _ _).mpr (hkey ▸ hr.sound.admin_name hmem)
  | bucket hp hno hmem hkey hpassword =>
    refine iff_of_true ?_ (not_nameless_of_password hp)
    exact (Identity.named_ofBucket _).mpr (hkey ▸ hr.sound.bucket_name hmem)
  | vouched hp hno hv =>
    refine iff_of_true ((Identity.named_ofRole _ _).mpr hv.named) ?_
    rintro ⟨session, hmem, hp', -⟩
    obtain rfl := hp.unique hp'
    exact hno ⟨session, hmem, rfl⟩

/-- **Whoever is let in has a name**, but for the sessions that the authority listed without
a user. -/
theorem named_iff_not_nameless {settings : Settings} {g : Gate}
    (hg : (ofSettings settings).value = .ok g) (correspondence : Correspondence)
    (actions : List Session.Action) (authority : Authority) (hs : Headers) (i : Identity)
    (h : (g.authenticate (Session.run correspondence { gate := g } actions).2.store.cache
      authority hs).value = .ok i) :
    g.Configured settings ∧ (i.Named ↔
      ¬ g.Nameless (Update.lastTaken (Session.history correspondence { gate := g } actions))
        hs) := by
  have hr := (Session.records_run correspondence g actions).reflects
  exact ⟨(ofSettings_eq_ok_iff.mp hg).2, (admits_of_authenticate hr h).named_iff hr⟩

/-- An update with a session of nobody, who has full rights. -/
def namelessUpdate : Update := (Update.new 1).addToken "t" "" .admin

/-- A request with that session. -/
def namelessHeaders : Headers :=
  [(loopback.markerHeader, ⟨Utf8.encode "yes", by decide⟩),
    (.cookie, ⟨Utf8.encode "ui-auth-q=t", by decide⟩)]

/-- Such a session is let in, and its identity has no name. -/
theorem authenticate_nameless :
    (ofSettings loopbackSettings).value = .ok loopback ∧
      (loopback.authenticate
          (Session.run ⟨fun _ => unreachable, fun _ => unreachable⟩ { gate := loopback }
            [.store (.replace namelessUpdate)]).2.store.cache
          unreachable namelessHeaders).value = .ok (Identity.ofAdmin "" .admin) ∧
      ¬ (Identity.ofAdmin "" .admin).Named := by
  have htaken : namelessUpdate.isTaken = true := by
    refine namelessUpdate.isTaken_iff.mpr ⟨⟨?_, by decide⟩, ⟨?_, by decide⟩, ⟨?_, by decide⟩⟩
    · intro a ha
      cases ha
    · intro b hb
      cases hb
    · intro t ht
      obtain rfl := List.mem_singleton.mp ht
      rfl
  have hlists : Update.lastTaken (Session.history ⟨fun _ => unreachable, fun _ => unreachable⟩
      { gate := loopback } [.store (.replace namelessUpdate)]) = namelessUpdate :=
    Update.lastTaken_append_of_isTaken [] htaken
  have hp : loopback.Presents namelessHeaders (.token "t") :=
    ⟨⟨_, rfl, rfl⟩, by decide, by decide⟩
  have hr := (Session.records_run ⟨fun _ => unreachable, fun _ => unreachable⟩ loopback
    [.store (.replace namelessUpdate)]).reflects
  rw [hlists] at hr
  have hmem : ⟨"t", "", .admin⟩ ∈ namelessUpdate.tokens := List.mem_cons_self
  have hok : (loopback.authenticate _ unreachable namelessHeaders).value
      = .ok (Identity.ofAdmin "" .admin) := authenticate_of_admits hr (.session hp hmem rfl)
  refine ⟨ofSettings_loopback, hok, ?_⟩
  intro hnamed
  have hiff := (named_iff_not_nameless ofSettings_loopback _ _ _ _ _ hok).2
  rw [hlists] at hiff
  exact hiff.mp hnamed ⟨⟨"t", "", .admin⟩, hmem, hp, rfl⟩

end Gate

end Gatehouse
