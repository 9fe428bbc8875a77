import Gatehouse.Proofs.Gate.Admission

/-!
# What identities may do

An identity should have one kind of right: in the whole cluster, or in one bucket. The type
admits more, and so does `Identity.ofAdmin`, which makes an administrator with the role of a
bucket if it is given that role. `confined_ofAdmin` says that this is the only way to go
wrong, so that every source of an identity has to be looked at:

> whoever is let in is an administrator without a bucket or the bucket of its own name, and
> the permissions say the same (`Gate.confines`).

The role of a listed admin user is one that the checks of updates admit. The role of a session
or of an answer is not checked by anyone and may be any; `Identity.ofRole` makes a bucket of
it where it is that of one.
-/

set_option autoImplicit false

namespace Gatehouse

namespace Identity

/-- The identity has rights in the whole cluster or in the bucket of its name, never both and
never neither, and no permission goes beyond them. -/
structure Confined (i : Identity) : Prop where
  shape : (i.role = some .admin ∨ i.role = some .readOnlyAdmin) ∧ i.bucket = none ∨
    i.role = none ∧ i.bucket = some i.name
  /-- A full administrator may use and read every bucket. -/
  full : i.role = some .admin → ∀ b, i.canAccess b = true ∧ i.canRead b = true
  /-- One that may only look may do neither with any. -/
  looking : i.role = some .readOnlyAdmin → ∀ b, i.canAccess b = false ∧ i.canRead b = false
  /-- A bucket may use and read itself. -/
  own : i.role = none → ∀ b, (i.canAccess b = true ↔ b = i.name) ∧
    (i.canRead b = true ↔ b = i.name)
  read (b : String) : i.canRead b = i.canAccess b
  admin : i.isAdmin = true ↔ i.role = some .admin
  /-- Whoever has a role may look, and nobody else. -/
  look : i.isReadOnlyAdmin = true ↔ i.role ≠ none
  full_looks : i.isAdmin = true → i.isReadOnlyAdmin = true

theorem confined_ofBucket (bucket : String) : (ofBucket bucket).Confined where
  shape := .inr ⟨rfl, rfl⟩
  full h := by cases h
  looking h := by cases h
  own _ b := by simp [ofBucket, canAccess, isAdmin, canRead, eq_comm]
  read b := by simp [ofBucket, canAccess, isAdmin, canRead]
  admin := by simp [ofBucket, isAdmin]
  look := by simp [ofBucket, isReadOnlyAdmin]
  full_looks := by simp [ofBucket, isAdmin]

/-- **An administrator is confined unless it has the role of a bucket.** -/
theorem confined_ofAdmin {name : String} {role : Role} :
    (ofAdmin name role).Confined ↔ role.isAdminRole = true := by
  constructor
  · intro h
    rcases h.shape with ⟨hrole, -⟩ | ⟨hrole, -⟩
    · rcases hrole with hrole | hrole
      · rw [Option.some.inj hrole]
        rfl
      · rw [Option.some.inj hrole]
        rfl
    · cases hrole
  · intro h
    cases role with
    | admin =>
      exact
        { shape := .inl ⟨.inl rfl, rfl⟩
          full := fun _ _ => ⟨rfl, rfl⟩
          looking := nofun
          own := nofun
          read := fun _ => rfl
          admin := iff_of_true rfl rfl
          look := iff_of_true rfl nofun
          full_looks := fun _ => rfl }
    | readOnlyAdmin =>
      exact
        { shape := .inl ⟨.inr rfl, rfl⟩
          full := nofun
          looking := fun _ _ => ⟨rfl, rfl⟩
          own := nofun
          read := fun _ => rfl
          admin := iff_of_false nofun nofun
          look := iff_of_true rfl nofun
          full_looks := nofun }
    | bucket => cases h

theorem confined_ofRole (user : String) (role : Role) : (ofRole user role).Confined := by
  cases role with
  | admin => exact confined_ofAdmin.mpr rfl
  | readOnlyAdmin => exact confined_ofAdmin.mpr rfl
  | bucket => exact confined_ofBucket user

end Identity

namespace Gate

variable {g : Gate} {cache : Cache} {u : Update} {authority : Authority} {hs : Headers}
  {i : Identity}

/-- One source after the other. -/
theorem Admits.confined (hu : u.Sound) (h : g.Admits u authority hs i) : i.Confined := by
  cases h with
  | session => exact Identity.confined_ofRole _ _
  | admin hp hmem hkey hhash => exact Identity.confined_ofAdmin.mpr (hu.admin_role hmem)
  | bucket => exact Identity.confined_ofBucket _
  | vouched => exact Identity.confined_ofRole _ _

/-- The request is known by something with the role of a bucket: a session of the lists, or else
what the authority answers. -/
inductive FromBucketRole (g : Gate) (u : Update) (authority : Authority) (hs : Headers)
    (user : String) : Prop
  | session {session : SessionToken} (hp : g.Presents hs (.token session.token))
      (hmem : session ∈ u.tokens) (huser : session.user = user) (hrole : session.role = .bucket)
  | answer {c : Credential} (hp : g.Presents hs c) (hno : ¬ u.Lists c)
      (hv : Vouches (authority (g.question hs c)) user .bucket)

/-- Nobody is let in with more than the bucket then, since there is only one answer. -/
theorem eq_ofBucket_of_fromBucketRole (hr : cache.current.Reflects u)
    (h : (g.authenticate cache authority hs).value = .ok i) {user : String}
    (hb : g.FromBucketRole u authority hs user) : i = Identity.ofBucket user := by
  have hadmits : g.Admits u authority hs (Identity.ofRole user .bucket) := by
    cases hb with
    | session hp hmem huser hrole =>
      rw [← huser, ← hrole]
      exact .session hp hmem rfl
    | answer hp hno hv => exact .vouched hp hno hv
  have hok := authenticate_of_admits hr hadmits
  exact Except.ok.inj (h.symm.trans hok)

/-- **Whoever is let in has the rights of one kind**, and who is a bucket to the authority has no
part in the cluster. -/
theorem confines {settings : Settings} {g : Gate} (hg : (ofSettings settings).value = .ok g)
    (correspondence : Correspondence) (actions : List Session.Action) (authority : Authority)
    (hs : Headers) (i : Identity)
    (h : (g.authenticate (Session.run correspondence { gate := g } actions).2.store.cache
      authority hs).value = .ok i) :
    g.Configured settings ∧ i.Confined ∧ ∀ user,
      g.FromBucketRole
          (Update.lastTaken (Session.history correspondence { gate := g } actions)) authority hs
          user →
        i = Identity.ofBucket user ∧ i.isReadOnlyAdmin = false := by
  have hr := (Session.records_run correspondence g actions).reflects
  refine ⟨(ofSettings_eq_ok_iff.mp hg).2, (admits_of_authenticate hr h).confined hr.sound, ?_⟩
  intro user hb
  have heq := eq_ofBucket_of_fromBucketRole hr h hb
  refine ⟨heq, ?_⟩
  rw [heq]
  rfl

/-- An update with a session of the bucket `media`. -/
def mediaUpdate : Update := (Update.new 1).addToken "t" "media" .bucket

theorem sound_mediaUpdate : mediaUpdate.Sound where
  admins := ⟨nofun, by decide⟩
  buckets := ⟨nofun, by decide⟩
  tokens := by
    refine ⟨fun t ht => ?_, by decide⟩
    obtain rfl := List.mem_singleton.mp ht
    rfl

/-- A request with that session. -/
def mediaHeaders : Headers :=
  [(loopback.markerHeader, .ofText "yes" (by decide)),
    (.cookie, .ofText "ui-auth-q=t" (by decide))]

/-- A push of the update, in a run without an authority. -/
def mediaStore : Store :=
  (Session.run ⟨fun _ => unreachable, fun _ => unreachable⟩ { gate := loopback }
    [.store (.replace mediaUpdate)]).2.store

/-- Such a session is let in, as the bucket and no more. -/
theorem confines_media :
    (ofSettings loopbackSettings).value = .ok loopback ∧
      (loopback.authenticate mediaStore.cache unreachable mediaHeaders).value
        = .ok (Identity.ofBucket "media") ∧
      loopback.FromBucketRole mediaUpdate unreachable mediaHeaders "media" ∧
      (Identity.ofBucket "media").Confined ∧
      (Identity.ofBucket "media").isReadOnlyAdmin = false := by
  have hlast : Update.lastTaken (Session.history ⟨fun _ => unreachable, fun _ => unreachable⟩
      { gate := loopback } [.store (.replace mediaUpdate)]) = mediaUpdate :=
    Update.lastTaken_append_of_isTaken [] ((Update.isTaken_iff _).mpr sound_mediaUpdate)
  have hr : mediaStore.cache.current.Reflects mediaUpdate :=
    hlast ▸ (Session.records_run ⟨fun _ => unreachable, fun _ => unreachable⟩ loopback
      [.store (.replace mediaUpdate)]).reflects
  have hp : loopback.Presents mediaHeaders (.token "t") :=
    ⟨⟨_, rfl, rfl⟩, by decide, by decide⟩
  have hmem : ⟨"t", "media", .bucket⟩ ∈ mediaUpdate.tokens := List.mem_cons_self
  have hok : (loopback.authenticate mediaStore.cache unreachable mediaHeaders).value
      = .ok (Identity.ofBucket "media") := authenticate_of_admits hr (.session hp hmem rfl)
  have hbucket : loopback.FromBucketRole mediaUpdate unreachable mediaHeaders "media" :=
    .session hp hmem rfl rfl
  obtain ⟨-, hconfined, hlook⟩ := confines ofSettings_loopback _ _ _ _ _ hok
  rw [hlast] at hlook
  exact ⟨ofSettings_loopback, hok, hbucket, hconfined, (hlook "media" hbucket).2⟩

end Gate

end Gatehouse
