import Gatehouse.Proofs.Build
import Gatehouse.Proofs.History
import Gatehouse.Proofs.Violation

/-!
# Which built updates are taken

An update that is built by calls can only go wrong where a call does. Placing a user keeps the
names distinct and hashing gives every digest the same width, so two of the checks are never
what turns such an update down (`Violates.not_by_building`), and the others can be read off the
calls:

> a cache takes the update exactly if the last call for each user is in order, and the buckets
> and the tokens are (`Update.builds`).

Only last calls count. One in order makes up for any call before it, and one that is not spoils
what the calls before it have made.
-/

set_option autoImplicit false

namespace Gatehouse

namespace Update

variable {entries : List Update.Entry} {version : UInt64}

/-- Nothing is wrong with the calls. -/
structure InOrder (entries : List Entry) : Prop where
  users {name password : String} {role : Role} {salt : Bytes}
    (hlast : LastSets entries name password role salt) :
    name ≠ "" ∧ (role = .admin ∨ role = .readOnlyAdmin) ∧ salt ≠ []
  buckets {name password : String} (hmem : .bucket name password ∈ entries) : name ≠ ""
  tokens {token user : String} {role : Role} (hmem : .token token user role ∈ entries) :
    token ≠ ""
  distinctBuckets : ((entries.filterMap Entry.bucket?).map BucketCredential.bucket).Nodup
  distinctTokens : ((entries.filterMap Entry.token?).map SessionToken.token).Nodup

/-! ## The lists against the calls -/

/-- The last call for a user has made an entry of the list. -/
theorem LastSets.hashed_mem {name password : String} {role : Role} {salt : Bytes}
    (h : LastSets entries name password role salt) :
    AdminUser.hashed name password role salt ∈ (build version entries).admins :=
  mem_admins_build.mpr ⟨password, h, rfl⟩

/-- A digest has the width that is checked, whatever it was made from. -/
theorem length_passwordHash {a : AdminUser} (ha : a ∈ (build version entries).admins) :
    a.passwordHash.length = 32 := by
  obtain ⟨password, -, heq⟩ := mem_admins_build.mp ha
  rw [heq]
  exact Password.hash_length password a.salt

/-- No call changes the version. -/
theorem version_foldl (u : Update) : (entries.foldl add u).version = u.version := by
  induction entries generalizing u with
  | nil => rfl
  | cons e rest ih =>
    rw [List.foldl_cons, ih]
    cases e <;> rfl

theorem version_build : (build version entries).version = version := version_foldl (new version)

/-! ## What can be wrong -/

/-- **The checks come down to the calls.** -/
theorem valid_build_iff : (build version entries).Valid ↔ InOrder entries := by
  constructor
  · intro h
    refine ⟨?_, ?_, ?_, ?_, ?_⟩
    · intro name password role salt hlast
      obtain ⟨hname, hrole, hsalt, -⟩ := h.admins _ hlast.hashed_mem
      exact ⟨hname, hrole, hsalt⟩
    · intro name password hmem
      exact h.buckets ⟨name, password⟩ (mem_buckets_build.mpr hmem)
    · intro token user role hmem
      exact h.tokens ⟨token, user, role⟩ (mem_tokens_build.mpr hmem)
    · have hdistinct := h.distinctBuckets
      rwa [buckets_build] at hdistinct
    · have hdistinct := h.distinctTokens
      rwa [tokens_build] at hdistinct
  · intro h
    refine ⟨fun a ha => ?_, fun b hb => ?_, fun t ht => ?_, distinct_build, ?_, ?_⟩
    · obtain ⟨password, hlast, -⟩ := mem_admins_build.mp ha
      obtain ⟨hname, hrole, hsalt⟩ := h.users hlast
      exact ⟨hname, hrole, hsalt, length_passwordHash ha⟩
    · exact h.buckets (mem_buckets_build.mp hb)
    · exact h.tokens (mem_tokens_build.mp ht)
    · rw [buckets_build]
      exact h.distinctBuckets
    · rw [tokens_build]
      exact h.distinctTokens

theorem not_adminUser_of_nameViolates {α : Type} {kind : EntryKind} {name told : α → String}
    {earlier : List α} {x : α} {fault : UpdateFault} (hkind : kind ≠ .adminUser)
    (h : NameViolates kind name told earlier x fault) :
    (∀ user, fault ≠ .duplicate .adminUser user) ∧
      ∀ user length, fault ≠ .invalidHash user length := by
  cases h with
  | nameless => exact ⟨nofun, nofun⟩
  | taken => exact ⟨fun user heq => hkind (UpdateFault.duplicate.inj heq).1, nofun⟩

/-- **Two faults do not come from calls**: a second user of a name, and a digest of a wrong
width. -/
theorem Violates.not_by_building {fault : UpdateFault}
    (h : (build version entries).Violates fault) :
    (∀ name, fault ≠ .duplicate .adminUser name) ∧
      ∀ name length, fault ≠ .invalidHash name length := by
  cases h with
  | admin hfirst =>
    obtain ⟨earlier, a, later, hsplit, -, hbreaks⟩ := hfirst
    have ha : a ∈ (build version entries).admins := by simp [hsplit]
    cases hbreaks with
    | nameless | role | unsalted => exact ⟨nofun, nofun⟩
    | hash _ _ _ hhash => exact absurd (length_passwordHash ha) hhash
    | taken _ _ _ _ htaken =>
      obtain ⟨other, hother, hname⟩ := htaken
      have hdistinct : AdminUser.Distinct (build version entries).admins := distinct_build
      rw [AdminUser.Distinct, hsplit, List.map_append, List.nodup_append] at hdistinct
      exact absurd hname
        (hdistinct.2.2 _ (List.mem_map_of_mem hother) _ (by simp))
  | bucket _ hfirst =>
    obtain ⟨earlier, b, later, -, -, hbreaks⟩ := hfirst
    exact not_adminUser_of_nameViolates (by decide) hbreaks
  | token _ _ hfirst =>
    obtain ⟨earlier, t, later, -, -, hbreaks⟩ := hfirst
    exact not_adminUser_of_nameViolates (by decide) hbreaks

/-! ## The law of the calls -/

/-- The lists of the update are those of the calls. -/
structure ListsCalls (u : Update) (version : UInt64) (entries : List Entry) : Prop where
  version : u.version = version
  /-- One entry for each user, in the order of the first calls. -/
  names : u.admins.map AdminUser.name = (entries.filterMap Entry.user?).eraseDups
  /-- And each one as the last call for the user has made it. -/
  admins (a : AdminUser) : a ∈ u.admins ↔
    ∃ password, LastSets entries a.name password a.role a.salt ∧
      a.passwordHash = (Password.hash password a.salt).bytes
  buckets : u.buckets = entries.filterMap Entry.bucket?
  tokens : u.tokens = entries.filterMap Entry.token?

theorem listsCalls_build : (build version entries).ListsCalls version entries where
  version := version_build
  names := names_build
  admins a := by
    rw [mem_admins_build]
    refine exists_congr fun password => and_congr_right fun _ => ?_
    obtain ⟨name, salt, passwordHash, role⟩ := a
    simp [AdminUser.hashed]
  buckets := buckets_build
  tokens := tokens_build

/-- A cache takes an update exactly if it is valid. -/
theorem replaced_iff {c : Cache} {u : Update} :
    (∃ generation, (c.replace u).value.1 = .ok generation) ↔ u.Valid := by
  rw [← sound_iff_valid, ← Snapshot.exists_ofUpdate_iff]
  cases hu : Snapshot.ofUpdate u with
  | ok s =>
    rw [c.replace_of_ok hu]
    exact iff_of_true ⟨_, rfl⟩ ⟨s, rfl⟩
  | error fault =>
    rw [c.replace_of_error hu]
    exact iff_of_false nofun nofun

theorem not_replaced_iff {c : Cache} {u : Update} {fault : UpdateFault} :
    (c.replace u).value.1 = .error fault ↔ u.Violates fault := by
  rw [← Snapshot.ofUpdate_eq_error_iff]
  cases hu : Snapshot.ofUpdate u with
  | ok s =>
    rw [c.replace_of_ok hu]
    exact iff_of_false nofun nofun
  | error fault' =>
    rw [c.replace_of_error hu]
    rw [Except.error.injEq, Except.error.injEq]

/-- What becomes of a built update when it is pushed into a cache. -/
structure Decided (c : Cache) (version : UInt64) (entries : List Entry) : Prop where
  taken : (∃ generation, (c.replace (build version entries)).value.1 = .ok generation) ↔
    InOrder entries
  /-- It is never turned down for a user that is there twice. -/
  unique (name : String) :
    (c.replace (build version entries)).value.1 ≠ .error (.duplicate .adminUser name)
  /-- And never for a digest of the wrong width. -/
  width (name : String) (length : Nat) :
    (c.replace (build version entries)).value.1 ≠ .error (.invalidHash name length)

/-- **What is built is what was called for, and is taken if the calls are in order.** -/
theorem builds (version : UInt64) (entries : List Entry) :
    (build version entries).ListsCalls version entries ∧ (∀ c, Decided c version entries) ∧
      ∀ password salt, (Password.hash password salt).bytes.length = 32 := by
  refine ⟨listsCalls_build, fun c => ⟨replaced_iff.trans valid_build_iff, ?_, ?_⟩, ?_⟩
  · intro name h
    exact (not_replaced_iff.mp h).not_by_building.1 name rfl
  · intro name length h
    exact (not_replaced_iff.mp h).not_by_building.2 name length rfl
  · exact Password.hash_length

/-- A call for a user makes up for an earlier one without a salt, and keeps its place. -/
example : (build 1 [.user "a" "old" .bucket [], .user "b" "b" .admin [1],
    .user "a" "new" .admin [2]]).admins.map (fun a => (a.name, a.role, a.salt))
      = [("a", .admin, [2]), ("b", .admin, [1])] := rfl

end Update

end Gatehouse
