import Gatehouse.Proofs.Snapshot

/-!
# The first violation of an update

An update is checked entry by entry, and the first entry that breaks a rule decides how it is
turned down. This file says which entry that is without following the checks:

> an update is turned down with a fault exactly if an entry has that fault, and no entry
> before it has any (`Snapshot.checks`).

Whether an entry breaks a rule depends on the entries before it, since one of them may have
taken its name. `AdminUser.Violates`, `BucketCredential.Violates` and `SessionToken.Violates`
list the rules, each with the fault that it is reported as; the checks that come first are
the premises of those that come later. `Entries.addTo_cons` is the one step of the checks, and
`Entries.Indexes.addTo_eq_error_iff` and `addTo_eq_ok_iff` follow a list to its end.
-/

set_option autoImplicit false

namespace Gatehouse

/-! ## The first entry with a fault -/

section
variable {α : Type} (breaks : List α → α → UpdateFault → Prop)

/-- No entry of the list has a fault, given the entries before it. -/
def NoViolation (xs : List α) : Prop :=
  ∀ earlier x later, xs = earlier ++ x :: later → ∀ fault, ¬ breaks earlier x fault

/-- The fault is that of the first entry of the list that has one. -/
def FirstViolation (xs : List α) (fault : UpdateFault) : Prop :=
  ∃ earlier x later, xs = earlier ++ x :: later ∧ NoViolation breaks earlier
    ∧ breaks earlier x fault

variable {breaks}

theorem noViolation_nil : NoViolation breaks [] := by
  intro earlier x later hsplit
  simp at hsplit

/-- What is said of a list is said of its first entry, and of the others behind it. -/
theorem noViolation_cons {x : α} {xs : List α} : NoViolation breaks (x :: xs) ↔
    (∀ fault, ¬ breaks [] x fault) ∧ NoViolation (fun earlier => breaks (x :: earlier)) xs := by
  constructor
  · intro h
    refine ⟨h [] x xs rfl, ?_⟩
    intro earlier y later hsplit
    exact h (x :: earlier) y later (congrArg (List.cons x) hsplit)
  · intro h earlier y later hsplit
    cases earlier with
    | nil =>
      obtain ⟨rfl, -⟩ := List.cons_eq_cons.mp hsplit
      exact h.1
    | cons z earlier =>
      obtain ⟨rfl, hrest⟩ := List.cons_eq_cons.mp hsplit
      exact h.2 earlier y later hrest

theorem not_firstViolation_nil {fault : UpdateFault} : ¬ FirstViolation breaks [] fault := by
  intro h
  obtain ⟨earlier, x, later, hsplit, -⟩ := h
  simp at hsplit

theorem firstViolation_cons {x : α} {xs : List α} {fault : UpdateFault} :
    FirstViolation breaks (x :: xs) fault ↔ breaks [] x fault ∨
      (∀ fault, ¬ breaks [] x fault)
        ∧ FirstViolation (fun earlier => breaks (x :: earlier)) xs fault := by
  constructor
  · intro h
    obtain ⟨earlier, y, later, hsplit, hclean, hbreaks⟩ := h
    cases earlier with
    | nil =>
      obtain ⟨rfl, -⟩ := List.cons_eq_cons.mp hsplit
      exact .inl hbreaks
    | cons z earlier =>
      obtain ⟨rfl, hrest⟩ := List.cons_eq_cons.mp hsplit
      obtain ⟨hfirst, hclean⟩ := noViolation_cons.mp hclean
      exact .inr ⟨hfirst, earlier, y, later, hrest, hclean, hbreaks⟩
  · intro h
    rcases h with hbreaks | ⟨hfirst, earlier, y, later, hrest, hclean, hbreaks⟩
    · exact ⟨[], x, xs, rfl, noViolation_nil, hbreaks⟩
    · refine ⟨x :: earlier, y, later, congrArg (List.cons x) hrest, ?_, hbreaks⟩
      exact noViolation_cons.mpr ⟨hfirst, hclean⟩

end

/-! ## Checking a list -/

namespace Entries

variable {α : Type} {es : Entries α}

/-- The fault of an entry: its own, or else that its name is taken. -/
inductive Breaks (es : Entries α) (earlier : List α) (x : α) : UpdateFault → Prop
  | own {fault : UpdateFault} (hfault : es.fault? x = some fault) : Breaks es earlier x fault
  | taken (hnone : es.fault? x = none) (hkey : es.key x ∈ earlier.map es.key) :
    Breaks es earlier x (es.duplicate x)

/-- **One step.** An entry with a fault ends the checks with it, and one without goes into the
index. -/
theorem addTo_cons {index : Index α} {done : List α} (h : es.Indexes index done) (x : α)
    (xs : List α) :
    (∃ fault, (∀ fault', es.Breaks done x fault' ↔ fault' = fault)
        ∧ es.addTo index (x :: xs) = .error fault) ∨
      ∃ index', (∀ fault, ¬ es.Breaks done x fault) ∧ es.Indexes index' (done ++ [x])
        ∧ es.addTo index (x :: xs) = es.addTo index' xs := by
  cases hf : es.fault? x with
  | some fault =>
    refine .inl ⟨fault, ?_, ?_⟩
    · intro fault'
      constructor
      · intro hbreaks
        cases hbreaks with
        | own hown => exact Option.some.inj (hown.symm.trans hf)
        | taken hnone hkey => rw [hf] at hnone; cases hnone
      · intro he
        exact .own (he ▸ hf)
    · rw [Entries.addTo, hf]
  | none =>
    cases hk : index.contains (es.key x) with
    | true =>
      refine .inl ⟨es.duplicate x, ?_, ?_⟩
      · intro fault'
        constructor
        · intro hbreaks
          cases hbreaks with
          | own hown => rw [hf] at hown; cases hown
          | taken hnone hkey => rfl
        · intro he
          rw [he]
          exact .taken hf ((h.contains_iff _).mp hk)
      · rw [Entries.addTo, hf]
        simp only [hk, if_true]
    | false =>
      refine .inr ⟨index.insert (es.key x) x, ?_, h.insert hf hk, ?_⟩
      · intro fault hbreaks
        cases hbreaks with
        | own hown => rw [hf] at hown; cases hown
        | taken hnone hkey =>
          rw [← h.contains_iff, hk] at hkey
          cases hkey
      · rw [Entries.addTo, hf]
        simp only [hk, Bool.false_eq_true, if_false]

/-- The entries that are in the index already count as the ones before. -/
theorem breaks_append (done : List α) (x : α) :
    (fun earlier => es.Breaks (done ++ [x] ++ earlier))
      = fun earlier => es.Breaks (done ++ x :: earlier) := by
  funext earlier
  rw [List.append_assoc, List.singleton_append]

theorem Indexes.addTo_eq_error_iff {xs : List α} {fault : UpdateFault} :
    ∀ {done : List α} {index : Index α}, es.Indexes index done →
      (es.addTo index xs = .error fault ↔
        FirstViolation (fun earlier => es.Breaks (done ++ earlier)) xs fault) := by
  -- on the entries still to come, as long as none of them ends the checks
  induction xs with
  | nil =>
    intro done index h
    rw [Entries.addTo]
    refine iff_of_false ?_ not_firstViolation_nil
    intro hadd
    cases hadd
  | cons x xs ih =>
    intro done index h
    rw [firstViolation_cons, List.append_nil]
    rcases addTo_cons h x xs with ⟨fault', hbreaks, hadd⟩ | ⟨index', hnone, h', hadd⟩
    · rw [hadd, Except.error.injEq, hbreaks, eq_comm, or_iff_left]
      intro hfree
      exact hfree.1 fault' ((hbreaks fault').mpr rfl)
    · rw [hadd, ih h', breaks_append, or_iff_right (hnone fault)]
      exact (and_iff_right hnone).symm

theorem Indexes.addTo_eq_ok_iff {xs : List α} :
    ∀ {done : List α} {index : Index α}, es.Indexes index done →
      ((∃ index', es.addTo index xs = .ok index') ↔
        NoViolation (fun earlier => es.Breaks (done ++ earlier)) xs) := by
  induction xs with
  | nil =>
    intro done index h
    exact iff_of_true ⟨index, rfl⟩ noViolation_nil
  | cons x xs ih =>
    intro done index h
    rw [noViolation_cons, List.append_nil]
    rcases addTo_cons h x xs with ⟨fault, hbreaks, hadd⟩ | ⟨index', hnone, h', hadd⟩
    · rw [hadd]
      refine iff_of_false (fun hok => nomatch hok.choose_spec) ?_
      intro hfree
      exact hfree.1 fault ((hbreaks fault).mpr rfl)
    · rw [hadd, ih h', breaks_append]
      exact (and_iff_right hnone).symm

/-- Indexing a list fails with its first violation. -/
theorem index_eq_error_iff {xs : List α} {fault : UpdateFault} :
    es.index xs = .error fault ↔ FirstViolation es.Breaks xs fault :=
  Indexes.nil.addTo_eq_error_iff

theorem exists_index_iff_noViolation {xs : List α} :
    (∃ index, es.index xs = .ok index) ↔ NoViolation es.Breaks xs :=
  Indexes.nil.addTo_eq_ok_iff

end Entries

/-! ## The rules -/

/-- What is wrong with an admin user, after the ones before. -/
inductive AdminUser.Violates (earlier : List AdminUser) (a : AdminUser) : UpdateFault → Prop
  | nameless (hname : a.name = "") : Violates earlier a (.emptyName .adminUser)
  | role (hname : a.name ≠ "") (hrole : a.role = .bucket) :
    Violates earlier a (.invalidAdminRole a.name "bucket")
  | unsalted (hname : a.name ≠ "") (hrole : a.role ≠ .bucket) (hsalt : a.salt = []) :
    Violates earlier a (.emptySalt a.name)
  | hash (hname : a.name ≠ "") (hrole : a.role ≠ .bucket) (hsalt : a.salt ≠ [])
      (hhash : a.passwordHash.length ≠ 32) :
    Violates earlier a (.invalidHash a.name a.passwordHash.length)
  | taken (hname : a.name ≠ "") (hrole : a.role ≠ .bucket) (hsalt : a.salt ≠ [])
      (hhash : a.passwordHash.length = 32) (htaken : ∃ other ∈ earlier, other.name = a.name) :
    Violates earlier a (.duplicate .adminUser a.name)

/-- What is wrong with an entry that only has to have a name of its own, by the name that it is
looked up by and the one that it is reported under. -/
inductive NameViolates {α : Type} (kind : EntryKind) (name told : α → String)
    (earlier : List α) (x : α) : UpdateFault → Prop
  | nameless (hname : name x = "") : NameViolates kind name told earlier x (.emptyName kind)
  | taken (hname : name x ≠ "") (htaken : ∃ other ∈ earlier, name other = name x) :
    NameViolates kind name told earlier x (.duplicate kind (told x))

/-- What is wrong with a bucket. -/
def BucketCredential.Violates : List BucketCredential → BucketCredential → UpdateFault → Prop :=
  NameViolates .bucket BucketCredential.bucket BucketCredential.bucket

/-- What is wrong with a session. The token is a secret, so the user is reported. -/
def SessionToken.Violates : List SessionToken → SessionToken → UpdateFault → Prop :=
  NameViolates .sessionToken SessionToken.token SessionToken.user

theorem Role.isAdminRole_iff {r : Role} : r.isAdminRole = true ↔ r ≠ .bucket := by
  cases r with
  | admin => exact iff_of_true rfl nofun
  | readOnlyAdmin => exact iff_of_true rfl nofun
  | bucket => exact iff_of_false nofun (absurd rfl)

theorem AdminUser.violates_of_fault? {earlier : List AdminUser} {a : AdminUser}
    {fault : UpdateFault} (h : a.fault? = some fault) : a.Violates earlier fault := by
  unfold fault? at h
  split at h
  · next hname =>
    obtain rfl := Option.some.inj h
    exact .nameless hname
  · next hname =>
    split at h
    · next hadmin =>
      obtain rfl := Option.some.inj h
      have hrole : a.role = .bucket := by
        apply Decidable.byContradiction
        intro hne
        rw [Role.isAdminRole_iff.mpr hne] at hadmin
        cases hadmin
      rw [hrole]
      exact .role hname hrole
    · next hadmin =>
      have hrole := Role.isAdminRole_iff.mp ((Bool.not_eq_false _).mp hadmin)
      split at h
      · next hsalt =>
        obtain rfl := Option.some.inj h
        exact .unsalted hname hrole hsalt
      · next hsalt =>
        split at h
        · next hhash =>
          obtain rfl := Option.some.inj h
          exact .hash hname hrole hsalt hhash
        · cases h

/-- The rules for an admin user are those that are checked. -/
theorem AdminUser.violates_eq : AdminUser.Violates = adminEntries.Breaks := by
  funext earlier a fault
  refine propext ⟨?_, ?_⟩
  · intro h
    cases h with
    | nameless hname =>
      have hown : a.fault? = some (.emptyName .adminUser) := by simp [fault?, hname]
      exact .own hown
    | role hname hrole =>
      have hown : a.fault? = some (.invalidAdminRole a.name "bucket") := by
        simp [fault?, hname, hrole, Role.isAdminRole, Role.name]
      exact .own hown
    | unsalted hname hrole hsalt =>
      have hown : a.fault? = some (.emptySalt a.name) := by
        simp [fault?, hname, Role.isAdminRole_iff.mpr hrole, hsalt]
      exact .own hown
    | hash hname hrole hsalt hhash =>
      have hown : a.fault? = some (.invalidHash a.name a.passwordHash.length) := by
        simp [fault?, hname, Role.isAdminRole_iff.mpr hrole, hsalt, Password.digestSize, hhash]
      exact .own hown
    | taken hname hrole hsalt hhash htaken =>
      have hnone := fault?_eq_none.mpr ⟨hname, Role.isAdminRole_iff.mpr hrole, hsalt, hhash⟩
      exact .taken hnone (List.mem_map.mpr htaken)
  · intro h
    cases h with
    | own hown => exact violates_of_fault? hown
    | taken hnone hkey =>
      obtain ⟨hname, hrole, hsalt, hhash⟩ := fault?_eq_none.mp hnone
      exact .taken hname (Role.isAdminRole_iff.mp hrole) hsalt hhash (List.mem_map.mp hkey)

theorem nameViolates_eq {α : Type} {es : Entries α} {kind : EntryKind} {name told : α → String}
    (hkey : ∀ x, es.key x = name x)
    (hfault : ∀ x, es.fault? x = if name x = "" then some (.emptyName kind) else none)
    (hdup : ∀ x, es.duplicate x = .duplicate kind (told x)) :
    NameViolates kind name told = es.Breaks := by
  funext earlier x fault
  have htaken : (∃ other ∈ earlier, name other = name x) ↔ es.key x ∈ earlier.map es.key := by
    rw [List.mem_map]
    simp only [hkey]
  refine propext ⟨?_, ?_⟩
  · intro h
    cases h with
    | nameless hname => exact .own ((hfault x).trans (if_pos hname))
    | taken hname hmem =>
      rw [← hdup]
      exact .taken ((hfault x).trans (if_neg hname)) (htaken.mp hmem)
  · intro h
    cases h with
    | own hown =>
      rw [hfault] at hown
      split at hown
      · next hname =>
        obtain rfl := Option.some.inj hown
        exact .nameless hname
      · cases hown
    | taken hnone hmem =>
      rw [hfault] at hnone
      split at hnone
      · cases hnone
      · next hname =>
        rw [hdup]
        exact .taken hname (htaken.mpr hmem)

theorem BucketCredential.violates_eq : BucketCredential.Violates = bucketEntries.Breaks :=
  nameViolates_eq (fun _ => rfl) (fun _ => rfl) (fun _ => rfl)

theorem SessionToken.violates_eq : SessionToken.Violates = tokenEntries.Breaks :=
  nameViolates_eq (fun _ => rfl) (fun _ => rfl) (fun _ => rfl)

/-! ## Checking an update -/

/-- The entries are as they should be, each by itself, and no name occurs twice in a list. -/
structure Update.Valid (u : Update) : Prop where
  admins : ∀ a ∈ u.admins, a.name ≠ "" ∧ (a.role = .admin ∨ a.role = .readOnlyAdmin)
    ∧ a.salt ≠ [] ∧ a.passwordHash.length = 32
  buckets : ∀ b ∈ u.buckets, b.bucket ≠ ""
  tokens : ∀ t ∈ u.tokens, t.token ≠ ""
  distinctAdmins : (u.admins.map AdminUser.name).Nodup
  distinctBuckets : (u.buckets.map BucketCredential.bucket).Nodup
  distinctTokens : (u.tokens.map SessionToken.token).Nodup

/-- The first violation of an update: admin users come before buckets, and these before
sessions. -/
inductive Update.Violates (u : Update) (fault : UpdateFault) : Prop
  | admin (hfirst : FirstViolation AdminUser.Violates u.admins fault)
  | bucket (hadmins : NoViolation AdminUser.Violates u.admins)
      (hfirst : FirstViolation BucketCredential.Violates u.buckets fault)
  | token (hadmins : NoViolation AdminUser.Violates u.admins)
      (hbuckets : NoViolation BucketCredential.Violates u.buckets)
      (hfirst : FirstViolation SessionToken.Violates u.tokens fault)

theorem Update.sound_iff_valid {u : Update} : u.Sound ↔ u.Valid := by
  have hrole : ∀ r : Role, r.isAdminRole = true ↔ r = .admin ∨ r = .readOnlyAdmin := by
    intro r
    cases r <;> simp [Role.isAdminRole]
  have hadmin : ∀ a : AdminUser, adminEntries.fault? a = none ↔ a.name ≠ ""
      ∧ (a.role = .admin ∨ a.role = .readOnlyAdmin) ∧ a.salt ≠ [] ∧ a.passwordHash.length = 32 := by
    intro a
    rw [← hrole]
    exact AdminUser.fault?_eq_none
  constructor
  · intro h
    exact ⟨fun a ha => (hadmin a).mp (h.admins.faultless a ha), fun b hb => h.bucket_name hb,
      fun t ht => SessionToken.fault?_eq_none.mp (h.tokens.faultless t ht),
      h.admins.distinct, h.buckets.distinct, h.tokens.distinct⟩
  · intro h
    refine ⟨⟨?_, h.distinctAdmins⟩, ⟨?_, h.distinctBuckets⟩, ⟨?_, h.distinctTokens⟩⟩
    · intro a ha
      exact (hadmin a).mpr (h.admins a ha)
    · intro b hb
      exact BucketCredential.fault?_eq_none.mpr (h.buckets b hb)
    · intro t ht
      exact SessionToken.fault?_eq_none.mpr (h.tokens t ht)

/-- The first violation is where the first index cannot be made. -/
theorem Update.violates_iff {u : Update} {fault : UpdateFault} : u.Violates fault ↔
    adminEntries.index u.admins = .error fault ∨
      (∃ admins, adminEntries.index u.admins = .ok admins) ∧
        (bucketEntries.index u.buckets = .error fault ∨
          (∃ buckets, bucketEntries.index u.buckets = .ok buckets) ∧
            tokenEntries.index u.tokens = .error fault) := by
  rw [Entries.index_eq_error_iff, Entries.index_eq_error_iff, Entries.index_eq_error_iff,
    Entries.exists_index_iff_noViolation, Entries.exists_index_iff_noViolation,
    ← AdminUser.violates_eq, ← BucketCredential.violates_eq, ← SessionToken.violates_eq]
  constructor
  · intro h
    cases h with
    | admin hfirst => exact .inl hfirst
    | bucket hadmins hfirst => exact .inr ⟨hadmins, .inl hfirst⟩
    | token hadmins hbuckets hfirst => exact .inr ⟨hadmins, .inr ⟨hbuckets, hfirst⟩⟩
  · intro h
    rcases h with hfirst | ⟨hadmins, hfirst | ⟨hbuckets, hfirst⟩⟩
    · exact .admin hfirst
    · exact .bucket hadmins hfirst
    · exact .token hadmins hbuckets hfirst

namespace Snapshot

theorem ofUpdate_eq_error_iff {u : Update} {fault : UpdateFault} :
    ofUpdate u = .error fault ↔ u.Violates fault := by
  rw [Update.violates_iff]
  unfold ofUpdate
  cases adminEntries.index u.admins with
  | error fault' => simp
  | ok admins =>
    cases bucketEntries.index u.buckets with
    | error fault' => simp
    | ok buckets =>
      cases tokenEntries.index u.tokens with
      | error fault' => simp
      | ok tokens => simp

/-- What the checks of an update come to. -/
structure Checks (u : Update) : Prop where
  /-- They are passed exactly by an update that is valid. -/
  accepts : (∃ s, ofUpdate u = .ok s) ↔ u.Valid
  /-- Then an entry is found under its own name and under no other, and each list is counted. -/
  holds {s : Snapshot} (h : ofUpdate u = .ok s) :
    (∀ k a, s.admin? k = some a ↔ a ∈ u.admins ∧ a.name = k) ∧
      (∀ k b, s.bucket? k = some b ↔ b ∈ u.buckets ∧ b.bucket = k) ∧
      (∀ k t, s.token? k = some t ↔ t ∈ u.tokens ∧ t.token = k) ∧
      s.adminCount = u.admins.length ∧ s.bucketCount = u.buckets.length ∧
      s.tokenCount = u.tokens.length
  /-- And else the first violation is reported. -/
  rejects (fault : UpdateFault) : ofUpdate u = .error fault ↔ u.Violates fault

/-- **An update is taken if it is valid, and else turned down with its first violation.** -/
theorem checks (u : Update) : Checks u where
  accepts := by
    rw [exists_ofUpdate_iff]
    exact Update.sound_iff_valid
  holds h := by
    have hr := Reflects.of_ofUpdate h
    exact ⟨fun _ _ => hr.admin?_eq_some, fun _ _ => hr.bucket?_eq_some,
      fun _ _ => hr.token?_eq_some, hr.admins.size, hr.buckets.size, hr.tokens.size⟩
  rejects fault := ofUpdate_eq_error_iff

end Snapshot

end Gatehouse
