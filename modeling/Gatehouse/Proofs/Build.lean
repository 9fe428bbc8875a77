import Gatehouse.Update

/-!
# What a sequence of calls builds

An update is built by calls, one after the other. Buckets and tokens pile up in the order of the
calls (`buckets_build`, `tokens_build`); of several calls for one admin user only the last counts,
wherever its predecessor has left the entry (`mem_admins_build`).
-/

set_option autoImplicit false

namespace Gatehouse

/-! ## One user -/

namespace AdminUser

variable {user a : AdminUser} {users : List AdminUser}

/-- There is one entry for each name. -/
def Distinct (users : List AdminUser) : Prop := (users.map AdminUser.name).Nodup

/-- A new name goes to the end, and one that is there keeps its place. -/
theorem names_placeIn : (user.placeIn users).map AdminUser.name =
    if user.name ∈ users.map AdminUser.name then users.map AdminUser.name
    else users.map AdminUser.name ++ [user.name] := by
  induction users with
  | nil => rfl
  | cons other rest ih =>
    rw [placeIn]
    by_cases heq : other.name = user.name
    · simp [heq]
    · rw [if_neg heq, List.map_cons, ih, List.map_cons]
      by_cases hmem : user.name ∈ rest.map AdminUser.name
      · rw [if_pos hmem, if_pos (List.mem_cons_of_mem _ hmem)]
      · rw [if_neg hmem, if_neg, List.cons_append]
        rw [List.mem_cons, not_or]
        exact ⟨Ne.symm heq, hmem⟩

theorem distinct_placeIn (h : Distinct users) : Distinct (user.placeIn users) := by
  rw [Distinct, names_placeIn]
  split
  · exact h
  · next hnew => exact List.nodup_append.mpr ⟨h, by simp, by grind⟩

/-- **Placing a user** takes out whoever had the name, and nobody else. -/
theorem mem_placeIn (h : Distinct users) :
    a ∈ user.placeIn users ↔ a = user ∨ a ∈ users ∧ a.name ≠ user.name := by
  induction users with
  | nil => simp [placeIn]
  | cons other rest ih =>
    obtain ⟨hnot, hrest⟩ := List.nodup_cons.mp h
    rw [placeIn]
    split
    · next heq =>
      constructor
      · intro hmem
        rcases List.mem_cons.mp hmem with rfl | hmem
        · exact .inl rfl
        · refine .inr ⟨List.mem_cons_of_mem _ hmem, fun hname => hnot ?_⟩
          exact List.mem_map.mpr ⟨a, hmem, hname.trans heq.symm⟩
      · rintro (rfl | ⟨hmem, hname⟩)
        · exact List.mem_cons_self
        · rcases List.mem_cons.mp hmem with rfl | hmem
          · exact absurd heq hname
          · exact List.mem_cons_of_mem _ hmem
    · next hne =>
      rw [List.mem_cons, ih hrest, List.mem_cons]
      constructor
      · rintro (rfl | rfl | ⟨hmem, hname⟩)
        · exact .inr ⟨.inl rfl, hne⟩
        · exact .inl rfl
        · exact .inr ⟨.inr hmem, hname⟩
      · rintro (rfl | ⟨rfl | hmem, hname⟩)
        · exact .inr (.inl rfl)
        · exact .inl rfl
        · exact .inr (.inr ⟨hmem, hname⟩)

/-- The entry that a call makes. -/
def hashed (name password : String) (role : Role) (salt : Bytes) : AdminUser :=
  ⟨name, salt, (Password.hash password salt).bytes, role⟩

end AdminUser

/-! ## Many calls -/

namespace Update

/-- The user that a call is for. -/
def Entry.user? : Entry → Option String
  | .user name _ _ _ => some name
  | _ => none

def Entry.bucket? : Entry → Option BucketCredential
  | .bucket name password => some ⟨name, password⟩
  | _ => none

def Entry.token? : Entry → Option SessionToken
  | .token key name role => some ⟨key, name, role⟩
  | _ => none

/-- The call for the user, and none for the same user after it. -/
def LastSets (entries : List Entry) (name password : String) (role : Role) (salt : Bytes) : Prop :=
  ∃ before after, entries = before ++ .user name password role salt :: after ∧
    ∀ password' role' salt', .user name password' role' salt' ∉ after

variable {entries : List Entry} {version : UInt64}

theorem LastSets.mem {name password : String} {role : Role} {salt : Bytes}
    (h : LastSets entries name password role salt) : .user name password role salt ∈ entries := by
  obtain ⟨before, after, rfl, -⟩ := h
  exact List.mem_append_right before List.mem_cons_self

theorem lastSets_cons {e : Entry} {name password : String} {role : Role} {salt : Bytes} :
    LastSets (e :: entries) name password role salt ↔
      LastSets entries name password role salt ∨ e = .user name password role salt ∧
        ∀ password' role' salt', .user name password' role' salt' ∉ entries := by
  constructor
  · rintro ⟨before, after, heq, hno⟩
    cases before with
    | nil =>
      obtain ⟨rfl, rfl⟩ := List.cons_eq_cons.mp heq
      exact .inr ⟨rfl, hno⟩
    | cons first before =>
      obtain ⟨-, rfl⟩ := List.cons_eq_cons.mp heq
      exact .inl ⟨before, after, rfl, hno⟩
  · rintro (⟨before, after, rfl, hno⟩ | ⟨rfl, hno⟩)
    · exact ⟨e :: before, after, rfl, hno⟩
    · exact ⟨[], entries, rfl, hno⟩

/-! ### Lists that pile up -/

/-- What is added at the end with each call is there in the order of the calls. -/
theorem piled_foldl {α : Type} {list : Update → List α} {item? : Entry → Option α}
    (h : ∀ u e, list (add u e) = list u ++ (item? e).toList) (u : Update) :
    list (entries.foldl add u) = list u ++ entries.filterMap item? := by
  induction entries generalizing u with
  | nil => exact (List.append_nil _).symm
  | cons e rest ih =>
    rw [List.foldl_cons, ih, h, List.append_assoc]
    cases he : item? e <;> simp [he]

theorem buckets_build : (build version entries).buckets = entries.filterMap Entry.bucket? := by
  refine piled_foldl (fun u e => ?_) (new version)
  cases e with
  | bucket => rfl
  | user | token => exact (List.append_nil _).symm

theorem tokens_build : (build version entries).tokens = entries.filterMap Entry.token? := by
  refine piled_foldl (fun u e => ?_) (new version)
  cases e with
  | token => rfl
  | user | bucket => exact (List.append_nil _).symm

/-- The buckets of an update that has been built are those of the calls. -/
theorem mem_buckets_build {b : BucketCredential} :
    b ∈ (build version entries).buckets ↔ .bucket b.bucket b.password ∈ entries := by
  rw [buckets_build, List.mem_filterMap]
  constructor
  · rintro ⟨e, he, hb⟩
    cases e with
    | bucket name password =>
      obtain rfl := Option.some.inj hb
      exact he
    | user | token => cases hb
  · intro h
    exact ⟨_, h, rfl⟩

/-- So are its sessions. -/
theorem mem_tokens_build {t : SessionToken} :
    t ∈ (build version entries).tokens ↔ .token t.token t.user t.role ∈ entries := by
  rw [tokens_build, List.mem_filterMap]
  constructor
  · rintro ⟨e, he, ht⟩
    cases e with
    | token token user role =>
      obtain rfl := Option.some.inj ht
      exact he
    | user | bucket => cases ht
  · intro h
    exact ⟨_, h, rfl⟩

/-! ### The list of users -/

theorem distinct_add {u : Update} (h : AdminUser.Distinct u.admins) (e : Entry) :
    AdminUser.Distinct (u.add e).admins := by
  cases e with
  | user name password role salt => exact AdminUser.distinct_placeIn h
  | bucket | token => exact h

theorem distinct_foldl {u : Update} (h : AdminUser.Distinct u.admins) :
    AdminUser.Distinct (entries.foldl add u).admins := by
  induction entries generalizing u with
  | nil => exact h
  | cons e rest ih => exact ih (distinct_add h e)

/-- The names that are there stay in front, and each other one comes where it is first called. -/
theorem names_foldl (u : Update) : (entries.foldl add u).admins.map AdminUser.name =
    u.admins.map AdminUser.name ++
      ((entries.filterMap Entry.user?).removeAll (u.admins.map AdminUser.name)).eraseDups := by
  induction entries generalizing u with
  | nil => exact (List.append_nil _).symm
  | cons e rest ih =>
    rw [List.foldl_cons, ih]
    cases e with
    | user name password role salt =>
      have hnames : (u.add (.user name password role salt)).admins.map AdminUser.name
          = if name ∈ u.admins.map AdminUser.name then u.admins.map AdminUser.name
            else u.admins.map AdminUser.name ++ [name] := AdminUser.names_placeIn
      have hcalled : (Entry.user name password role salt :: rest).filterMap Entry.user?
          = name :: rest.filterMap Entry.user? := rfl
      rw [hnames, hcalled, List.cons_removeAll]
      by_cases hmem : name ∈ u.admins.map AdminUser.name
      · rw [if_pos hmem, if_neg (by simpa using hmem)]
      · have hlater : (rest.filterMap Entry.user?).removeAll (u.admins.map AdminUser.name ++ [name])
            = ((rest.filterMap Entry.user?).removeAll (u.admins.map AdminUser.name)).filter
                fun other => !other == name := by
          rw [List.removeAll, List.removeAll, List.filter_filter]
          refine List.filter_congr fun other _ => ?_
          simp [Bool.and_comm, BEq.beq]
        rw [if_neg hmem, if_pos (by simpa using hmem), List.eraseDups_cons, ← hlater,
          List.append_assoc]
        rfl
    | bucket | token => rfl

theorem mem_admins_foldl {a : AdminUser} {u : Update} (h : AdminUser.Distinct u.admins) :
    a ∈ (entries.foldl add u).admins ↔
      (∃ password, LastSets entries a.name password a.role a.salt ∧
        a = .hashed a.name password a.role a.salt) ∨
      a ∈ u.admins ∧ ∀ password role salt, .user a.name password role salt ∉ entries := by
  induction entries generalizing u with
  | nil => simp [LastSets]
  | cons e rest ih =>
    rw [List.foldl_cons, ih (distinct_add h e)]
    simp only [lastSets_cons, List.mem_cons, not_or]
    cases e with
    | user name password role salt =>
      have hadmins : (u.add (.user name password role salt)).admins
          = (AdminUser.hashed name password role salt).placeIn u.admins := rfl
      rw [hadmins, AdminUser.mem_placeIn h]
      constructor
      · rintro (⟨password', hlast, ha⟩ | ⟨rfl | ⟨hmem, hname⟩, hno⟩)
        · exact .inl ⟨password', .inl hlast, ha⟩
        · exact .inl ⟨password, .inr ⟨rfl, hno⟩, rfl⟩
        · exact .inr ⟨hmem, fun p r t => ⟨fun he => hname (Entry.user.inj he).1, hno p r t⟩⟩
      · rintro (⟨password', hlast | ⟨he, hno⟩, ha⟩ | ⟨hmem, hno⟩)
        · exact .inl ⟨password', hlast, ha⟩
        · obtain ⟨rfl, rfl, rfl, rfl⟩ := Entry.user.inj he
          exact .inr ⟨.inl ha, hno⟩
        · refine .inr ⟨.inr ⟨hmem, fun hname => ?_⟩, fun p r t => (hno p r t).2⟩
          exact (hno password role salt).1 (congrArg (Entry.user · password role salt) hname)
    | bucket | token => simp [add, addBucket, addToken]

/-- **A user has the place of the first call for it.** -/
theorem names_build : (build version entries).admins.map AdminUser.name
    = (entries.filterMap Entry.user?).eraseDups := by
  rw [build, names_foldl]
  exact congrArg List.eraseDups List.removeAll_nil

theorem distinct_build : AdminUser.Distinct (build version entries).admins := by
  have hnew : AdminUser.Distinct (new version).admins := List.nodup_nil
  exact distinct_foldl hnew

/-- **Of the calls for one user the last counts.** -/
theorem mem_admins_build {a : AdminUser} : a ∈ (build version entries).admins ↔
    ∃ password, LastSets entries a.name password a.role a.salt ∧
      a = .hashed a.name password a.role a.salt := by
  have hnew : AdminUser.Distinct (new version).admins := List.nodup_nil
  rw [build, mem_admins_foldl hnew]
  exact or_iff_left fun h => List.not_mem_nil h.1

end Update

end Gatehouse
