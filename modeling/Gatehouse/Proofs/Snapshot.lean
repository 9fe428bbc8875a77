import Gatehouse.Proofs.Index

/-!
# What a snapshot holds

A snapshot is made of three indexes, so what it answers can be read off the lists of the
update that it was made from. `Snapshot.Reflects` is that reading. The checks of an update
are here too, as a property of its lists (`Update.Sound`), and `exists_ofUpdate_iff` says
that they are the whole of what decides whether an update can be installed.
-/

set_option autoImplicit false

namespace Gatehouse

/-- An update whose three lists can be indexed. -/
structure Update.Sound (u : Update) : Prop where
  admins : adminEntries.Sound u.admins
  buckets : bucketEntries.Sound u.buckets
  tokens : tokenEntries.Sound u.tokens

/-! ## What a sound update promises of its entries -/

theorem AdminUser.fault?_eq_none {a : AdminUser} :
    a.fault? = none ↔ a.name ≠ "" ∧ a.role.isAdminRole = true ∧ a.salt ≠ []
      ∧ a.passwordHash.length = Password.digestSize := by
  unfold AdminUser.fault?
  by_cases hn : a.name = ""
  · simp [hn]
  · by_cases hr : a.role.isAdminRole = false
    · simp [hn, hr]
    · by_cases hs : a.salt = []
      · simp [hn, hr, hs]
      · by_cases hl : a.passwordHash.length = Password.digestSize
        · simp [hn, hr, hs, hl]
        · simp [hn, hr, hs, hl]

theorem BucketCredential.fault?_eq_none {b : BucketCredential} :
    b.fault? = none ↔ b.bucket ≠ "" := by
  simp [BucketCredential.fault?]

theorem SessionToken.fault?_eq_none {t : SessionToken} : t.fault? = none ↔ t.token ≠ "" := by
  simp [SessionToken.fault?]

namespace Update.Sound

variable {u : Update}

theorem admin_name (h : u.Sound) {a : AdminUser} (ha : a ∈ u.admins) : a.name ≠ "" :=
  (AdminUser.fault?_eq_none.mp (h.admins.faultless a ha)).1

theorem admin_role (h : u.Sound) {a : AdminUser} (ha : a ∈ u.admins) :
    a.role.isAdminRole = true :=
  (AdminUser.fault?_eq_none.mp (h.admins.faultless a ha)).2.1

theorem bucket_name (h : u.Sound) {b : BucketCredential} (hb : b ∈ u.buckets) :
    b.bucket ≠ "" :=
  BucketCredential.fault?_eq_none.mp (h.buckets.faultless b hb)

end Update.Sound

/-! ## The indexes of an update -/

namespace Snapshot

/-- The snapshot answers as the lists of the update say. -/
structure Reflects (s : Snapshot) (u : Update) : Prop where
  version : s.version = u.version
  admins : adminEntries.Indexes s.admins u.admins
  buckets : bucketEntries.Indexes s.buckets u.buckets
  tokens : tokenEntries.Indexes s.tokens u.tokens

namespace Reflects

variable {s : Snapshot} {u : Update}

theorem sound (h : s.Reflects u) : u.Sound := ⟨h.admins.sound, h.buckets.sound, h.tokens.sound⟩

theorem admin?_eq_some (h : s.Reflects u) {name : String} {a : AdminUser} :
    s.admin? name = some a ↔ a ∈ u.admins ∧ a.name = name := h.admins.lists name a

theorem admin?_eq_none (h : s.Reflects u) {name : String} :
    s.admin? name = none ↔ ∀ a ∈ u.admins, a.name ≠ name := h.admins.eq_none name

theorem bucket?_eq_some (h : s.Reflects u) {name : String} {b : BucketCredential} :
    s.bucket? name = some b ↔ b ∈ u.buckets ∧ b.bucket = name := h.buckets.lists name b

theorem token?_eq_some (h : s.Reflects u) {token : String} {t : SessionToken} :
    s.token? token = some t ↔ t ∈ u.tokens ∧ t.token = token := h.tokens.lists token t

/-- Putting a snapshot in force changes none of its entries. -/
theorem install (h : s.Reflects u) (generation : Nat) : (s.install generation).Reflects u :=
  ⟨h.version, h.admins, h.buckets, h.tokens⟩

end Reflects

theorem reflects_empty : Snapshot.empty.Reflects {} :=
  ⟨rfl, Entries.Indexes.nil, Entries.Indexes.nil, Entries.Indexes.nil⟩

/-- The three indexes, one after the other. -/
theorem ofUpdate_eq_ok {u : Update} {s : Snapshot} :
    ofUpdate u = .ok s ↔
      adminEntries.index u.admins = .ok s.admins ∧ bucketEntries.index u.buckets = .ok s.buckets
        ∧ tokenEntries.index u.tokens = .ok s.tokens
        ∧ s.version = u.version ∧ s.generation = 0 ∧ s.installed = false := by
  obtain ⟨version, generation, installed, admins, buckets, tokens⟩ := s
  unfold ofUpdate
  cases ha : adminEntries.index u.admins with
  | error fault => simp
  | ok indexed =>
    cases hb : bucketEntries.index u.buckets with
    | error fault => simp
    | ok indexed' =>
      cases ht : tokenEntries.index u.tokens with
      | error fault => simp
      | ok indexed'' =>
        simp only [Except.ok.injEq, Snapshot.mk.injEq]
        constructor
        · rintro ⟨rfl, rfl, rfl, rfl, rfl, rfl⟩
          exact ⟨rfl, rfl, rfl, rfl, rfl, rfl⟩
        · rintro ⟨rfl, rfl, rfl, rfl, rfl, rfl⟩
          exact ⟨rfl, rfl, rfl, rfl, rfl, rfl⟩

theorem Reflects.of_ofUpdate {u : Update} {s : Snapshot} (h : ofUpdate u = .ok s) :
    s.Reflects u := by
  obtain ⟨ha, hb, ht, hv, -, -⟩ := ofUpdate_eq_ok.mp h
  exact ⟨hv, .of_index ha, .of_index hb, .of_index ht⟩

/-- **What decides whether an update can be installed.** -/
theorem exists_ofUpdate_iff (u : Update) : (∃ s, ofUpdate u = .ok s) ↔ u.Sound := by
  constructor
  · rintro ⟨s, h⟩
    exact (Reflects.of_ofUpdate h).sound
  · intro h
    obtain ⟨admins, ha⟩ := (Entries.exists_index_iff _ _).mpr h.admins
    obtain ⟨buckets, hb⟩ := (Entries.exists_index_iff _ _).mpr h.buckets
    obtain ⟨tokens, ht⟩ := (Entries.exists_index_iff _ _).mpr h.tokens
    exact ⟨⟨u.version, 0, false, admins, buckets, tokens⟩,
      ofUpdate_eq_ok.mpr ⟨ha, hb, ht, rfl, rfl, rfl⟩⟩

end Snapshot

end Gatehouse
