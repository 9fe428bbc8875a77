import Gatehouse.Proofs.History

/-!
# Generations

A cache numbers the updates that it takes, and a snapshot bears the number of its update. The
number is a name for the content:

> whoever holds a snapshot of generation `g` holds the index of the `g`-th update that the
> cache has taken, however long ago that was, and generation `0` is the empty snapshot.

`Snapshot.Numbered` is that statement. It is kept by whatever happens to a store, and
`Store.Course` says what that is: any action, and between two actions a tick of any task, so
that the moments in the middle of a wait count as well. What a store tells at each of these
moments is `Store.Chronicles`.
-/

set_option autoImplicit false

namespace Gatehouse

/-- The updates of a list that a cache takes, in order. -/
def Update.taken (offers : List Update) : List Update := offers.filter Update.isTaken

theorem Update.taken_append (first rest : List Update) :
    taken (first ++ rest) = taken first ++ taken rest := List.filter_append ..

theorem Update.taken_of_sound {u : Update} (h : u.Sound) : taken [u] = [u] := by
  simp [taken, u.isTaken_iff.mpr h]

theorem Update.taken_of_not_sound {u : Update} (h : ¬ u.Sound) : taken [u] = [] := by
  rw [← u.isTaken_iff, Bool.not_eq_true] at h
  simp [taken, h]

theorem Update.exists_fault_of_not_sound {u : Update} (h : ¬ u.Sound) :
    ∃ fault, Snapshot.ofUpdate u = .error fault := by
  cases hu : Snapshot.ofUpdate u with
  | ok built => exact absurd ((Snapshot.exists_ofUpdate_iff u).mp ⟨built, hu⟩) h
  | error fault => exact ⟨fault, rfl⟩

/-! ## What a snapshot tells -/

/-- A look-up in an index is a search in its list. -/
theorem Entries.Indexes.getElem?_eq_find? {α : Type} {es : Entries α} {index : Index α}
    {xs : List α} (h : es.Indexes index xs) (k : String) :
    index[k]? = xs.find? fun x => es.key x = k := by
  cases hf : xs.find? fun x => es.key x = k with
  | none =>
    rw [List.find?_eq_none] at hf
    apply (h.eq_none k).mpr
    intro x hx hk
    exact hf x hx (decide_eq_true hk)
  | some x =>
    have hk : es.key x = k := of_decide_eq_true (List.find?_some (p := fun x => es.key x = k) hf)
    exact (h.lists k x).mpr ⟨List.mem_of_find?_eq_some hf, hk⟩

namespace Snapshot

/-- All that a snapshot tells is in the lists of the update: its figures, and what it finds
under a key. -/
structure Tells (s : Snapshot) (u : Update) (generation : Nat) : Prop where
  figures : s.figures = ⟨generation, u.version, u.admins.length, u.buckets.length,
    u.tokens.length, decide (0 < generation)⟩
  admin : ∀ name, s.admin? name = u.admins.find? fun a => a.name = name
  bucket : ∀ name, s.bucket? name = u.buckets.find? fun b => b.bucket = name
  token : ∀ token, s.token? token = u.tokens.find? fun t => t.token = token

theorem Tells.generation {s : Snapshot} {u : Update} {generation : Nat}
    (h : s.Tells u generation) : s.generation = generation := congrArg Figures.generation h.figures

theorem Reflects.tells {s : Snapshot} {u : Update} (h : s.Reflects u)
    (hi : s.installed = decide (0 < s.generation)) : s.Tells u s.generation where
  figures := by
    simp only [figures, adminCount, bucketCount, tokenCount, h.version, h.admins.size,
      h.buckets.size, h.tokens.size, hi]
  admin := h.admins.getElem?_eq_find?
  bucket := h.buckets.getElem?_eq_find?
  token := h.tokens.getElem?_eq_find?

/-- The snapshot is the index of the update, put in force as the given generation. -/
def Installs (s : Snapshot) (u : Update) (generation : Nat) : Prop :=
  ∃ built, ofUpdate u = .ok built ∧ s = built.install generation

theorem Installs.unique {s s' : Snapshot} {u : Update} {generation : Nat}
    (h : s.Installs u generation) (h' : s'.Installs u generation) : s = s' := by
  obtain ⟨built, hb, rfl⟩ := h
  obtain ⟨built', hb', rfl⟩ := h'
  rw [Except.ok.inj (hb.symm.trans hb')]

theorem Installs.generation {s : Snapshot} {u : Update} {generation : Nat}
    (h : s.Installs u generation) : s.generation = generation := by
  obtain ⟨built, -, rfl⟩ := h
  rfl

theorem Installs.tells {s : Snapshot} {u : Update} {generation : Nat}
    (h : s.Installs u generation) (hpos : 0 < generation) : s.Tells u generation := by
  obtain ⟨built, hb, rfl⟩ := h
  have hr := (Reflects.of_ofUpdate hb).install generation
  exact hr.tells (decide_eq_true hpos).symm

/-- The snapshot is empty, or it is that of the update whose number it bears. -/
inductive Numbered (taken : List Update) : Snapshot → Prop
  | empty : Numbered taken Snapshot.empty
  | installed {k : Nat} {u : Update} {s : Snapshot} (hk : taken[k]? = some u)
      (hs : s.Installs u (k + 1)) : Numbered taken s

namespace Numbered

variable {taken : List Update} {s s' : Snapshot}

/-- Later updates do not change the numbers of earlier ones. -/
theorem append (h : Numbered taken s) (more : List Update) : Numbered (taken ++ more) s := by
  cases h with
  | empty => exact .empty
  | installed hk hs =>
    have hlt := (List.getElem?_eq_some_iff.mp hk).1
    exact .installed ((List.getElem?_append_left hlt).trans hk) hs

/-- **A generation has one content.** -/
theorem eq_of_generation_eq (h : Numbered taken s) (h' : Numbered taken s')
    (hg : s.generation = s'.generation) : s = s' := by
  cases h with
  | empty =>
    cases h' with
    | empty => rfl
    | installed hk hs => exact absurd (hg.trans hs.generation) (Nat.zero_ne_add_one _)
  | @installed k u _ hk hs =>
    cases h' with
    | empty => exact absurd (hs.generation.symm.trans hg) (Nat.add_one_ne_zero _)
    | @installed k' u' _ hk' hs' =>
      have hkk : k = k' := Nat.succ.inj (hs.generation.symm.trans (hg.trans hs'.generation))
      subst hkk
      obtain rfl : u = u' := Option.some.inj (hk.symm.trans hk')
      exact hs.unique hs'

/-- What a numbered snapshot tells is what the update of its number lists, and nothing in
generation `0`. -/
theorem tells (h : Numbered taken s) :
    ∃ u, (({} : Update) :: taken)[s.generation]? = some u ∧ s.Tells u s.generation := by
  cases h with
  | empty => exact ⟨{}, rfl, reflects_empty.tells rfl⟩
  | @installed k u _ hk hs =>
    rw [hs.generation]
    exact ⟨u, hk, hs.tells k.succ_pos⟩

end Numbered

end Snapshot

/-! ## What a cache makes of its offers -/

namespace Cache

/-- From one cache to another by taking updates. -/
structure Took (c : Cache) (taken : List Update) (c' : Cache) : Prop where
  generation : c'.current.generation = c.current.generation + taken.length
  current : taken = [] ∧ c' = c ∨
    ∃ u, taken.getLast? = some u ∧ c'.current.Installs u c'.current.generation

theorem Took.refl (c : Cache) : c.Took [] c := ⟨rfl, .inl ⟨rfl, rfl⟩⟩

/-- One more offer: a sound one is put in force, and any other changes nothing. -/
theorem Took.replace {c c' : Cache} {taken : List Update} (h : c.Took taken c') (u : Update) :
    c.Took (taken ++ Update.taken [u]) (c'.replace u).value.2 := by
  by_cases hu : u.Sound
  · obtain ⟨built, hb⟩ := (Snapshot.exists_ofUpdate_iff u).mpr hu
    rw [Update.taken_of_sound hu, replace_of_ok c' hb]
    refine ⟨?_, .inr ⟨u, List.getLast?_concat, built, hb, rfl⟩⟩
    show c'.current.generation + 1 = _
    rw [h.generation, List.length_append, List.length_singleton, Nat.add_assoc]
  · obtain ⟨fault, hf⟩ := Update.exists_fault_of_not_sound hu
    rw [Update.taken_of_not_sound hu, replace_of_error c' hf, List.append_nil]
    exact h

/-- The same for any number of offers. -/
theorem Took.offered {c : Cache} {offers : List Update} :
    ∀ {c' : Cache} {taken : List Update}, c.Took taken c' →
      c.Took (taken ++ Update.taken offers) (c'.offered offers) := by
  induction offers with
  | nil =>
    intro c' taken h
    rw [show Update.taken [] = [] from rfl, List.append_nil]
    exact h
  | cons u rest ih =>
    intro c' taken h
    rw [← List.singleton_append, Update.taken_append, ← List.append_assoc]
    exact ih (h.replace u)

/-- **What becomes of any cache**: it counts the updates that it takes, and the last one is in
force. -/
theorem took_offered (c : Cache) (offers : List Update) :
    c.Took (Update.taken offers) (c.offered offers) := (Took.refl c).offered

/-- The snapshot of a cache that began empty bears the number of its update. -/
theorem numbered_offered (offers : List Update) :
    (Cache.empty.offered offers).current.Numbered (Update.taken offers) := by
  have h := took_offered Cache.empty offers
  rcases h.current with ⟨-, hc⟩ | ⟨u, hu, hs⟩
  · rw [hc]
    exact .empty
  · have hlen : (Cache.empty.offered offers).current.generation
        = (Update.taken offers).length := h.generation.trans (Nat.zero_add _)
    have hpos : 0 < (Update.taken offers).length := by
      cases ht : Update.taken offers with
      | nil => rw [ht] at hu; cases hu
      | cons v vs => exact Nat.succ_pos _
    rw [hlen, ← Nat.sub_add_cancel hpos] at hs
    exact .installed (List.getLast?_eq_getElem? ▸ hu) hs

end Cache

/-! ## The course of a store -/

namespace Store

/-- From one store to another, with what the cache is offered on the way. Besides the actions
there are the ticks of tasks. Which task ticks and when is left open, so a tick may come
between any two actions, and a wait is passed through tick by tick. -/
inductive Course (feed : Feed) (s : Store) : List Update → Store → Prop
  | begin : Course feed s [] s
  | act {offers : List Update} {t : Store} (h : Course feed s offers t) (a : Action) :
    Course feed s (offers ++ t.offers feed a) (step feed t a).value.2
  | tick {offers : List Update} {t : Store} {w : Upkeep} (h : Course feed s offers t)
      (hc : w.cache = t.cache) (hf : w.fetches = t.upkeep.fetches) :
    Course feed s (offers ++ (feed w.fetches).value.toOption.toList)
      { t with upkeep := (Upkeep.tick feed w).value }

/-- All that the cache is offered in a run, in order. -/
def history (feed : Feed) : Store → List Action → List Update
  | _, [] => []
  | s, a :: rest => s.offers feed a ++ history feed (step feed s a).value.2 rest

/-- A snapshot that can be looked at: the one in force, or one that is held. -/
def Shows (s : Store) (snapshot : Snapshot) : Prop :=
  snapshot = s.cache.current ∨ ∃ label, (label, snapshot) ∈ s.held

namespace Course

variable {feed : Feed} {s t t' : Store} {offers more : List Update}

theorem trans (h : Course feed s offers t) (h' : Course feed t more t') :
    Course feed s (offers ++ more) t' := by
  induction h' with
  | begin => rw [List.append_nil]; exact h
  | act _ a ih => rw [← List.append_assoc]; exact ih.act a
  | tick _ hc hf ih => rw [← List.append_assoc]; exact ih.tick hc hf

/-- A run is a course. -/
theorem run (feed : Feed) (actions : List Action) : ∀ (s : Store),
    Course feed s (history feed s actions) (Store.run feed s actions).2 := by
  induction actions with
  | nil => intro s; exact .begin
  | cons a rest ih =>
    intro s
    have hfirst : Course feed s (s.offers feed a) (step feed s a).value.2 := Course.begin.act a
    exact hfirst.trans (ih _)

theorem cache_tick (feed : Feed) (w : Upkeep) : (Upkeep.tick feed w).value.cache
    = w.cache.offered (feed w.fetches).value.toOption.toList :=
  Cache.refresh_value w.cache (feed w.fetches).value

/-- **Nothing but its offers changes a cache.** -/
theorem cache (h : Course feed s offers t) : t.cache = s.cache.offered offers := by
  induction h with
  | begin => rfl
  | act _ a ih => rw [cache_step, ih, Cache.offered_append]
  | @tick _ t w _ hc _ ih =>
    show (Upkeep.tick feed w).value.cache = _
    rw [cache_tick, hc, ih, Cache.offered_append]

/-- An action holds the snapshot in force or none. -/
theorem held_step {p : String × Snapshot} (feed : Feed) (t : Store) (a : Action)
    (hp : p ∈ (step feed t a).value.2.held) : p ∈ t.held ∨ p.2 = t.cache.current := by
  cases a with
  | hold label =>
    rcases List.mem_cons.mp hp with rfl | hp
    · exact .inr rfl
    · exact .inl hp
  | held label key =>
    simp only [step] at hp
    split at hp <;> exact .inl hp
  | replace | lookupAdmin | lookupBucket | lookupToken | figures | spawn | wait | abort =>
    exact .inl hp

/-- **Snapshots keep their numbers**, the one in force as well as those that are held. -/
theorem numbered (h : Course feed {} offers t) {snapshot : Snapshot}
    (hs : t.Shows snapshot) : snapshot.Numbered (Update.taken offers) := by
  have hcurrent : ∀ {offers t}, Course feed {} offers t →
      t.cache.current.Numbered (Update.taken offers) := by
    intro offers t h
    rw [h.cache]
    exact Cache.numbered_offered offers
  rcases hs with rfl | ⟨label, hs⟩
  · exact hcurrent h
  -- what is held was in force when it was taken hold of
  induction h with
  | begin => cases hs
  | @act offers t h a ih =>
    rw [Update.taken_append]
    apply Snapshot.Numbered.append
    rcases held_step feed t a hs with hs | hs
    · exact ih hs
    · rw [show snapshot = t.cache.current from hs]
      exact hcurrent h
  | tick h hc hf ih =>
    rw [Update.taken_append]
    exact (ih hs).append _

end Course

/-! ## What a store tells -/

/-- What a store tells after some offers. -/
structure Chronicles (feed : Feed) (offers : List Update) (t : Store) : Prop where
  /-- The snapshot in force counts the updates taken, and has the entries of the last one. -/
  current : t.cache.current.Tells (Update.lastTaken offers) (Update.taken offers).length
  admin : ∀ name, (t.cache.lookupAdmin name).value
    = (Update.lastTaken offers).admins.find? fun a => a.name = name
  bucket : ∀ name, (t.cache.lookupBucket name).value
    = (Update.lastTaken offers).buckets.find? fun b => b.bucket = name
  token : ∀ token, (t.cache.lookupToken token).value
    = (Update.lastTaken offers).tokens.find? fun s => s.token = token
  /-- A sound update is told its number in the order of the updates taken. -/
  taken : ∀ u, u.Sound →
    (step feed t (.replace u)).value.1 = .replaced (.ok (Update.taken (offers ++ [u])).length) ∧
      (Update.taken (offers ++ [u])).getLast? = some u
  /-- Any other is told its fault, and nothing at all has changed. -/
  refused : ∀ u, ¬ u.Sound → ∃ fault, Snapshot.ofUpdate u = .error fault ∧
    (step feed t (.replace u)).value = (.replaced (.error fault), t)
  populated : t.cache.isPopulated = true ↔ 0 < t.cache.current.generation
  installed : t.cache.current.installed = true ↔ 0 < t.cache.current.generation
  /-- What can be looked at is an update taken, under its number. -/
  shown : ∀ snapshot, t.Shows snapshot →
    ∃ u, (({} : Update) :: Update.taken offers)[snapshot.generation]? = some u ∧
      snapshot.Tells u snapshot.generation
  /-- A counter that has room for the offers has room for the generation. -/
  bounded : t.cache.current.generation ≤ offers.length

theorem Course.chronicles {feed : Feed} {offers : List Update} {t : Store}
    (h : Course feed {} offers t) : t.Chronicles feed offers := by
  have hr : t.cache.Records offers := by
    rw [h.cache]
    exact Cache.records_offered offers
  have hgen : t.cache.current.generation = (Update.taken offers).length := hr.generation
  have htells : t.cache.current.Tells (Update.lastTaken offers) (Update.taken offers).length :=
    hgen ▸ hr.reflects.tells hr.installed
  refine ⟨htells, htells.admin, htells.bucket, htells.token, ?_, ?_, ?_, ?_, ?_, ?_⟩
  · intro u hu
    obtain ⟨built, hb⟩ := (Snapshot.exists_ofUpdate_iff u).mpr hu
    rw [Update.taken_append, Update.taken_of_sound hu]
    refine ⟨?_, List.getLast?_concat⟩
    show Answer.replaced (t.cache.replace u).value.1 = _
    rw [t.cache.replace_of_ok hb, hgen, List.length_append, List.length_singleton]
  · intro u hu
    obtain ⟨fault, hf⟩ := Update.exists_fault_of_not_sound hu
    refine ⟨fault, hf, ?_⟩
    show (Answer.replaced (t.cache.replace u).value.1, t.withCache (t.cache.replace u).value.2) = _
    rw [t.cache.replace_of_error hf]
    rfl
  · exact decide_eq_true_iff
  · rw [hr.installed]
    exact decide_eq_true_iff
  · exact fun snapshot hs => (h.numbered hs).tells
  · rw [hgen]
    exact List.length_filter_le ..

/-- **The history of a cache.** At every moment of every course a store tells what the updates
taken so far list, and snapshots of one generation that are seen at two moments are one. -/
theorem chronicles_and_eq_of_generation {feed : Feed} {offers : List Update} {t : Store}
    (h : Course feed {} offers t) :
    t.Chronicles feed offers ∧
      ∀ {more : List Update} {t' : Store}, Course feed t more t' →
        ∀ {snapshot snapshot' : Snapshot}, t.Shows snapshot → t'.Shows snapshot' →
          snapshot.generation = snapshot'.generation → snapshot = snapshot' := by
  refine ⟨h.chronicles, ?_⟩
  intro more t' h' snapshot snapshot' hs hs' hg
  have hn : snapshot.Numbered (Update.taken (offers ++ more)) := by
    rw [Update.taken_append]
    exact (h.numbered hs).append _
  exact hn.eq_of_generation_eq ((h.trans h').numbered hs') hg

/-- A source that never has an update. -/
def silent : Feed := fun _ => pure (.error (.notFetched "no source"))

/-- An update with one bucket. -/
def fooUpdate : Update := (Update.new 5).addBucket "foo" "secret"

/-- An update that lists a bucket twice. -/
def twiceUpdate : Update := ((Update.new 7).addBucket "bar" "x").addBucket "bar" "y"

/-- An update is taken, its snapshot is held, one is refused, and another is taken. -/
def holdingOn : List Action :=
  [.replace fooUpdate, .hold "old", .replace twiceUpdate, .replace (Update.new 6)]

theorem sound_fooUpdate : fooUpdate.Sound where
  admins := ⟨List.forall_mem_nil _, List.nodup_nil⟩
  buckets := ⟨List.forall_mem_singleton.mpr rfl, by decide⟩
  tokens := ⟨List.forall_mem_nil _, List.nodup_nil⟩

theorem not_sound_twiceUpdate : ¬ twiceUpdate.Sound := fun h =>
  absurd h.buckets.distinct (by decide)

theorem sound_new (version : UInt64) : (Update.new version).Sound where
  admins := ⟨List.forall_mem_nil _, List.nodup_nil⟩
  buckets := ⟨List.forall_mem_nil _, List.nodup_nil⟩
  tokens := ⟨List.forall_mem_nil _, List.nodup_nil⟩

theorem taken_holdingOn :
    Update.taken (history silent {} holdingOn) = [fooUpdate, Update.new 6] := by
  show Update.taken ([fooUpdate] ++ ([twiceUpdate] ++ [Update.new 6])) = _
  rw [Update.taken_append, Update.taken_append, Update.taken_of_sound sound_fooUpdate,
    Update.taken_of_not_sound not_sound_twiceUpdate, Update.taken_of_sound (sound_new 6)]
  rfl

/-- The snapshot that is held is the first one still, with its bucket, while the one in force
is the second and has none. -/
theorem shows_holdingOn :
    Course silent {} (history silent {} holdingOn) (run silent {} holdingOn).2 ∧
      ∃ held, (run silent {} holdingOn).2.Shows held ∧ held.generation = 1 ∧
        held.bucket? "foo" = some ⟨"foo", "secret"⟩ ∧
        (run silent {} holdingOn).2.cache.current.generation = 2 ∧
        ((run silent {} holdingOn).2.cache.lookupBucket "foo").value = none := by
  have hcourse := Course.run silent holdingOn {}
  have hlast := (chronicles_and_eq_of_generation hcourse).1
  have hshown : (run silent {} holdingOn).2.Shows
      (run silent {} [.replace fooUpdate]).2.cache.current := .inr ⟨"old", List.mem_cons_self⟩
  -- it was the first one when it was in force
  have hfirst : (run silent {} [.replace fooUpdate]).2.cache.current.generation = 1 := by
    have htells := (Course.run silent [.replace fooUpdate] {}).chronicles.current
    have hone : Update.taken (history silent {} [.replace fooUpdate]) = [fooUpdate] :=
      Update.taken_of_sound sound_fooUpdate
    rw [htells.generation, hone]
    rfl
  obtain ⟨u, hu, htells⟩ := hlast.shown _ hshown
  rw [hfirst, taken_holdingOn] at hu
  obtain rfl : fooUpdate = u := Option.some.inj hu
  refine ⟨hcourse, _, hshown, hfirst, ?_, ?_, ?_⟩
  · rw [htells.bucket]
    decide
  · rw [hlast.current.generation, taken_holdingOn]
    rfl
  · rw [hlast.bucket, show Update.lastTaken (history silent {} holdingOn)
      = (Update.taken (history silent {} holdingOn)).getLast?.getD {} from rfl, taken_holdingOn]
    rfl

end Store

end Gatehouse
