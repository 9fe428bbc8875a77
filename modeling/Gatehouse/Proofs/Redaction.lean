import Gatehouse.Proofs.History
import Gatehouse.Proofs.Violation
import Gatehouse.Update.Diagnostic

/-!
# What an update tells of its secrets

Two updates are held side by side that are the same but for their secrets: the passwords of
buckets, the salts and digests of admin users, and session tokens. Checking an update does look
at them. A salt or a token must not be empty, a digest has a width, and a token is the very key
that a session is indexed under, so it must be new. Nothing else is looked at:

> updates that agree on these things are both taken, or turned down with the same fault; the
> log, the counters and the diagnostic text are the same for both (`Update.concealed`).

Of tokens it is which of them are the same that counts (`SamePattern`), not what they are. One
step of the checks is `Entries.Alike.breaks`: the entries at one place of two lists have the same
faults, each after the entries before it. `Entries.Alike.addTo` follows the two lists to their
ends, and `Cache.told_alike` follows two caches through any number of offers.
-/

set_option autoImplicit false

namespace Gatehouse

/-! ## Lists that agree -/

/-- Two places hold the same in one list if they do in the other. -/
def SamePattern {α : Type} (ks ls : List α) : Prop :=
  ∀ i j : Nat, ks[i]? = ks[j]? ↔ ls[i]? = ls[j]?

section
variable {α β γ : Type}

theorem SamePattern.of_eq {ks ls : List α} (h : ks = ls) : SamePattern ks ls := by
  intro i j
  rw [h]

theorem SamePattern.symm {ks ls : List α} (h : SamePattern ks ls) : SamePattern ls ks :=
  fun i j => (h i j).symm

/-- What has been seen before in one list has been seen in the other. -/
theorem SamePattern.mem {ks ls ks' ls' : List α} {k l : α}
    (h : SamePattern (ks ++ k :: ks') (ls ++ l :: ls')) (hlen : ks.length = ls.length)
    (hk : k ∈ ks) : l ∈ ls := by
  obtain ⟨i, hi, hki⟩ := List.mem_iff_getElem.mp hk
  have hsame : (ks ++ k :: ks')[i]? = (ks ++ k :: ks')[ks.length]? := by
    rw [List.getElem?_append_left hi, List.getElem?_eq_getElem hi, hki]
    simp
  have hl : ls[i]? = some l := by
    have := (h i ks.length).mp hsame
    rw [List.getElem?_append_left (hlen ▸ hi), hlen] at this
    simpa using this
  exact List.mem_of_getElem? hl

/-- What depends on a part of the entries only is the same where that part is. -/
theorem map_eq_of_part {part : α → β} {f : α → γ} (hf : ∀ x y, part x = part y → f x = f y) :
    ∀ {xs ys : List α}, xs.map part = ys.map part → xs.map f = ys.map f
  | [], [], _ => rfl
  | [], _ :: _, h => nomatch h
  | _ :: _, [], h => nomatch h
  | x :: xs, y :: ys, h => by
    obtain ⟨hhead, htail⟩ := List.cons_eq_cons.mp h
    exact List.cons_eq_cons.mpr ⟨hf x y hhead, map_eq_of_part hf htail⟩

end

/-! ## Checking two lists -/

/-- Both fail in the same way, or neither fails. -/
inductive SameVerdict {ε α β : Type} : Except ε α → Except ε β → Prop
  | refused (fault : ε) : SameVerdict (.error fault) (.error fault)
  | taken (a : α) (b : β) : SameVerdict (.ok a) (.ok b)

namespace Entries

variable {α : Type} {es : Entries α}

/-- The entries have the same faults of their own and are reported alike, and the same ones have
their names in common. -/
structure Alike (es : Entries α) (xs ys : List α) : Prop where
  faults : xs.map es.fault? = ys.map es.fault?
  duplicates : xs.map es.duplicate = ys.map es.duplicate
  keys : SamePattern (xs.map es.key) (ys.map es.key)

namespace Alike

theorem symm {xs ys : List α} (h : es.Alike xs ys) : es.Alike ys xs :=
  ⟨h.faults.symm, h.duplicates.symm, h.keys.symm⟩

theorem length {xs ys : List α} (h : es.Alike xs ys) : xs.length = ys.length := by
  rw [← List.length_map es.fault?, h.faults, List.length_map]

/-- **One step.** A fault of an entry, after the ones before it, is one of the entry at its place
in the other list. -/
theorem breaks {done done' xs ys : List α} {x y : α} {fault : UpdateFault}
    (h : es.Alike (done ++ x :: xs) (done' ++ y :: ys)) (hlen : done.length = done'.length)
    (hx : es.Breaks done x fault) : es.Breaks done' y fault := by
  obtain ⟨hfaults, hduplicates, hkeys⟩ := h
  simp only [List.map_append, List.map_cons] at hfaults hduplicates hkeys
  have hown : es.fault? x = es.fault? y :=
    (List.cons_eq_cons.mp (List.append_inj_right hfaults (by simpa using hlen))).1
  have htold : es.duplicate x = es.duplicate y :=
    (List.cons_eq_cons.mp (List.append_inj_right hduplicates (by simpa using hlen))).1
  cases hx with
  | own hfault => exact .own (hown ▸ hfault)
  | taken hnone hkey =>
    rw [htold]
    exact .taken (hown ▸ hnone) (hkeys.mem (by simpa using hlen) hkey)

/-- **To the end of the lists.** -/
theorem addTo {xs : List α} : ∀ {ys done done' : List α} {index index' : Index α},
    es.Indexes index done → es.Indexes index' done' → done.length = done'.length →
      es.Alike (done ++ xs) (done' ++ ys) →
        SameVerdict (es.addTo index xs) (es.addTo index' ys) := by
  -- on the entries still to come; the ones done stand at the same places in both lists
  induction xs with
  | nil =>
    intro ys done done' index index' _ _ hlen h
    have hys : ys = [] := by
      have := h.length
      simp only [List.append_nil, List.length_append] at this
      exact List.eq_nil_of_length_eq_zero (by omega)
    subst hys
    exact .taken index index'
  | cons x xs ih =>
    intro ys done done' index index' hindex hindex' hlen h
    cases ys with
    | nil =>
      have := h.length
      simp only [List.append_nil, List.length_append, List.length_cons] at this
      omega
    | cons y ys =>
      have hlen' : (done ++ [x]).length = (done' ++ [y]).length := by simp [hlen]
      have hrest : es.Alike (done ++ [x] ++ xs) (done' ++ [y] ++ ys) := by simpa using h
      rcases addTo_cons hindex x xs with ⟨fault, hbreaks, hadd⟩ | ⟨next, hnone, hnext, hadd⟩
      · have hy := h.breaks hlen ((hbreaks fault).mpr rfl)
        rcases addTo_cons hindex' y ys with ⟨fault', hbreaks', hadd'⟩ | ⟨next', hnone', -, -⟩
        · rw [hadd, hadd', ← (hbreaks' fault).mp hy]
          exact .refused fault
        · exact absurd hy (hnone' fault)
      · rcases addTo_cons hindex' y ys with ⟨fault', hbreaks', -⟩ | ⟨next', -, hnext', hadd'⟩
        · have hx := h.symm.breaks hlen.symm ((hbreaks' fault').mpr rfl)
          exact absurd hx (hnone fault')
        · rw [hadd, hadd']
          exact ih hnext hnext' hlen' hrest

theorem index {xs ys : List α} (h : es.Alike xs ys) : SameVerdict (es.index xs) (es.index ys) :=
  addTo Indexes.nil Indexes.nil rfl h

end Alike

end Entries

/-! ## Updates that differ in their secrets -/

/-- What is looked at of an admin user. -/
def AdminUser.outline (a : AdminUser) : String × Role × Bool × Nat :=
  (a.name, a.role, a.salt.isEmpty, a.passwordHash.length)

/-- What is looked at of a session, apart from whether its token is new. -/
def SessionToken.outline (t : SessionToken) : String × Role × Bool :=
  (t.user, t.role, t.token.isEmpty)

/-- The same but for passwords, salts, digests and tokens. As many salts are empty and digests as
wide, and as many tokens are empty and equal to each other, all at the same places. -/
structure Update.SameButSecrets (u₁ u₂ : Update) : Prop where
  version : u₁.version = u₂.version
  admins : u₁.admins.map AdminUser.outline = u₂.admins.map AdminUser.outline
  buckets : u₁.buckets.map BucketCredential.bucket = u₂.buckets.map BucketCredential.bucket
  tokens : u₁.tokens.map SessionToken.outline = u₂.tokens.map SessionToken.outline
  pattern : SamePattern (u₁.tokens.map SessionToken.token) (u₂.tokens.map SessionToken.token)

theorem AdminUser.fault?_eq_of_outline {a₁ a₂ : AdminUser} (h : a₁.outline = a₂.outline) :
    a₁.fault? = a₂.fault? := by
  simp only [outline, Prod.mk.injEq] at h
  obtain ⟨hname, hrole, hsalt, hhash⟩ := h
  have hsalt' : a₁.salt = [] ↔ a₂.salt = [] := by
    rw [← List.isEmpty_iff, ← List.isEmpty_iff, hsalt]
  simp only [fault?, hname, hrole, hsalt', hhash]

theorem BucketCredential.fault?_eq_of_bucket {b₁ b₂ : BucketCredential}
    (h : b₁.bucket = b₂.bucket) : b₁.fault? = b₂.fault? := by
  rw [fault?, fault?, h]

theorem SessionToken.fault?_eq_of_outline {t₁ t₂ : SessionToken} (h : t₁.outline = t₂.outline) :
    t₁.fault? = t₂.fault? := by
  simp only [outline, Prod.mk.injEq] at h
  have htoken : t₁.token = "" ↔ t₂.token = "" := by
    rw [← String.isEmpty_iff, ← String.isEmpty_iff, h.2.2]
  simp only [fault?, htoken]

theorem AdminUser.diagnostic_eq_of_outline {a₁ a₂ : AdminUser} (h : a₁.outline = a₂.outline) :
    a₁.diagnostic = a₂.diagnostic := by
  simp only [outline, Prod.mk.injEq] at h
  rw [diagnostic, diagnostic, h.1, h.2.1]

theorem BucketCredential.diagnostic_eq_of_bucket {b₁ b₂ : BucketCredential}
    (h : b₁.bucket = b₂.bucket) : b₁.diagnostic = b₂.diagnostic := by
  rw [diagnostic, diagnostic, h]

theorem SessionToken.diagnostic_eq_of_outline {t₁ t₂ : SessionToken}
    (h : t₁.outline = t₂.outline) : t₁.diagnostic = t₂.diagnostic := by
  simp only [outline, Prod.mk.injEq] at h
  rw [diagnostic, diagnostic, h.1, h.2.1]

namespace Update.SameButSecrets

variable {u₁ u₂ : Update}

theorem refl (u : Update) : u.SameButSecrets u := ⟨rfl, rfl, rfl, rfl, .of_eq rfl⟩

theorem adminsAlike (h : u₁.SameButSecrets u₂) : adminEntries.Alike u₁.admins u₂.admins where
  faults := map_eq_of_part (fun _ _ => AdminUser.fault?_eq_of_outline) h.admins
  duplicates := by
    apply map_eq_of_part _ h.admins
    intro a₁ a₂ ho
    exact congrArg (UpdateFault.duplicate .adminUser) (congrArg Prod.fst ho)
  keys := .of_eq (map_eq_of_part (fun _ _ ho => congrArg Prod.fst ho) h.admins)

theorem bucketsAlike (h : u₁.SameButSecrets u₂) : bucketEntries.Alike u₁.buckets u₂.buckets where
  faults := map_eq_of_part (fun _ _ => BucketCredential.fault?_eq_of_bucket) h.buckets
  duplicates := map_eq_of_part (fun _ _ => congrArg (UpdateFault.duplicate .bucket)) h.buckets
  keys := .of_eq h.buckets

theorem tokensAlike (h : u₁.SameButSecrets u₂) : tokenEntries.Alike u₁.tokens u₂.tokens where
  faults := map_eq_of_part (fun _ _ => SessionToken.fault?_eq_of_outline) h.tokens
  duplicates := by
    apply map_eq_of_part _ h.tokens
    intro t₁ t₂ ho
    exact congrArg (UpdateFault.duplicate .sessionToken) (congrArg Prod.fst ho)
  keys := h.pattern

theorem ofUpdate (h : u₁.SameButSecrets u₂) :
    SameVerdict (Snapshot.ofUpdate u₁) (Snapshot.ofUpdate u₂) := by
  have hadmins := h.adminsAlike.index
  have hbuckets := h.bucketsAlike.index
  have htokens := h.tokensAlike.index
  unfold Snapshot.ofUpdate
  -- the first list with a fault decides, and it is the same one for both
  generalize adminEntries.index u₁.admins = admins₁, adminEntries.index u₂.admins = admins₂
    at hadmins ⊢
  generalize bucketEntries.index u₁.buckets = buckets₁,
    bucketEntries.index u₂.buckets = buckets₂ at hbuckets ⊢
  generalize tokenEntries.index u₁.tokens = tokens₁, tokenEntries.index u₂.tokens = tokens₂
    at htokens ⊢
  cases hadmins with
  | refused fault => exact .refused fault
  | taken admins₁ admins₂ =>
    cases hbuckets with
    | refused fault => exact .refused fault
    | taken buckets₁ buckets₂ =>
      cases htokens with
      | refused fault => exact .refused fault
      | taken tokens₁ tokens₂ => exact .taken _ _

/-- Diagnostic text shows no secret. -/
theorem diagnostic (h : u₁.SameButSecrets u₂) : u₁.diagnostic = u₂.diagnostic := by
  unfold Update.diagnostic
  rw [h.version, map_eq_of_part (fun _ _ => AdminUser.diagnostic_eq_of_outline) h.admins,
    map_eq_of_part (fun _ _ => BucketCredential.diagnostic_eq_of_bucket) h.buckets,
    map_eq_of_part (fun _ _ => SessionToken.diagnostic_eq_of_outline) h.tokens]

end Update.SameButSecrets

/-! ## Offering them to a cache -/

namespace Cache

/-- What a cache answers to one update after the other, and what it does about each. -/
def told : Cache → List Update → List (Except UpdateFault Nat × List Effect)
  | _, [] => []
  | c, u :: rest => ((c.replace u).value.1, (c.replace u).trace) :: told (c.replace u).value.2 rest

/-- **One offer.** Only the generation of a cache shows in what it tells, and it goes on alike. -/
theorem replace_alike {c₁ c₂ : Cache} {u₁ u₂ : Update} (h : u₁.SameButSecrets u₂)
    (hc : c₁.current.generation = c₂.current.generation) :
    (c₁.replace u₁).value.1 = (c₂.replace u₂).value.1
      ∧ (c₁.replace u₁).trace = (c₂.replace u₂).trace
      ∧ (c₁.replace u₁).value.2.current.generation
          = (c₂.replace u₂).value.2.current.generation := by
  have hverdict := h.ofUpdate
  unfold replace
  generalize Snapshot.ofUpdate u₁ = s₁, Snapshot.ofUpdate u₂ = s₂ at hverdict ⊢
  cases hverdict with
  | refused fault =>
    rw [h.version]
    exact ⟨rfl, rfl, hc⟩
  | taken s₁ s₂ =>
    dsimp only
    rw [h.version, hc]
    exact ⟨rfl, rfl, rfl⟩

/-- **Any number of offers.** Those that follow are told of alike as well. -/
theorem told_alike {rest : List Update} : ∀ {c₁ c₂ : Cache} {u₁ u₂ : Update},
    u₁.SameButSecrets u₂ → c₁.current.generation = c₂.current.generation →
      c₁.told (u₁ :: rest) = c₂.told (u₂ :: rest) := by
  -- what follows is the same for both, so it differs in no secret
  induction rest with
  | nil =>
    intro c₁ c₂ u₁ u₂ h hc
    obtain ⟨hanswer, htrace, -⟩ := replace_alike h hc
    rw [told, told, hanswer, htrace, told, told]
  | cons u rest ih =>
    intro c₁ c₂ u₁ u₂ h hc
    obtain ⟨hanswer, htrace, hc'⟩ := replace_alike h hc
    rw [told, hanswer, htrace, ih (.refl u) hc', ← told]

theorem told_append (first rest : List Update) : ∀ c : Cache,
    c.told (first ++ rest) = c.told first ++ (c.offered first).told rest := by
  induction first with
  | nil => intro c; rfl
  | cons u first ih =>
    intro c
    rw [List.cons_append, told, told, ih]
    rfl

end Cache

/-- Nothing that is shown of two updates tells them apart: not the diagnostic text, and not what
a cache answers, logs and counts when it is offered them. -/
structure Update.Concealed (u₁ u₂ : Update) : Prop where
  diagnostic : u₁.diagnostic = u₂.diagnostic
  answer (c : Cache) : (c.replace u₁).value.1 = (c.replace u₂).value.1
  events (c : Cache) :
    Effect.events (c.replace u₁).trace = Effect.events (c.replace u₂).trace
  counts (c : Cache) :
    Effect.counts (c.replace u₁).trace = Effect.counts (c.replace u₂).trace
  /-- Nor does it show later which of them was offered, whatever else is. -/
  later (c : Cache) (earlier rest : List Update) :
    c.told (earlier ++ u₁ :: rest) = c.told (earlier ++ u₂ :: rest)

/-- **Secrets show nowhere.** -/
theorem Update.concealed {u₁ u₂ : Update} (h : u₁.SameButSecrets u₂) : u₁.Concealed u₂ where
  diagnostic := h.diagnostic
  answer _ := (Cache.replace_alike h rfl).1
  events _ := congrArg Effect.events (Cache.replace_alike h rfl).2.1
  counts _ := congrArg Effect.counts (Cache.replace_alike h rfl).2.1
  later c earlier rest := by rw [Cache.told_append, Cache.told_append, Cache.told_alike h rfl]

/-- A session token that comes twice, in an update with other secrets as well. -/
def repeated : Update where
  version := 7
  admins := [⟨"root", [1], List.replicate 32 0, .admin⟩]
  buckets := [⟨"logs", "hunter2"⟩]
  tokens := [⟨"t-1", "ann", .admin⟩, ⟨"t-2", "bob", .admin⟩, ⟨"t-1", "eve", .readOnlyAdmin⟩]

/-- The same with every secret replaced. -/
def repeatedElse : Update where
  version := 7
  admins := [⟨"root", [2, 3], List.replicate 32 9, .admin⟩]
  buckets := [⟨"logs", ""⟩]
  tokens := [⟨"x", "ann", .admin⟩, ⟨"a longer one", "bob", .admin⟩, ⟨"x", "eve", .readOnlyAdmin⟩]

theorem ofUpdate_repeated :
    Snapshot.ofUpdate repeated = .error (.duplicate .sessionToken "eve") := by
  simp [repeated, Snapshot.ofUpdate, Entries.index, Entries.addTo, adminEntries, bucketEntries,
    tokenEntries, AdminUser.fault?, BucketCredential.fault?, SessionToken.fault?,
    Role.isAdminRole, Password.digestSize]

/-- Both are turned down, and it is the user that is named. -/
theorem concealed_repeated : repeated.SameButSecrets repeatedElse
    ∧ repeated.Concealed repeatedElse
    ∧ ∀ c : Cache, (c.replace repeatedElse).value.1 = .error (.duplicate .sessionToken "eve") := by
  have hsame : repeated.SameButSecrets repeatedElse := by
    refine ⟨rfl, rfl, rfl, rfl, ?_⟩
    rintro (_ | _ | _ | i) (_ | _ | _ | j) <;> simp [repeated, repeatedElse]
  refine ⟨hsame, Update.concealed hsame, ?_⟩
  intro c
  rw [← (Update.concealed hsame).answer c, c.replace_of_error ofUpdate_repeated]

end Gatehouse
