import Gatehouse.Snapshot

/-!
# What an index holds

An index is made from a list, one entry after the other, and the making stops at the first
entry that breaks a rule. This file says what has been made when it does not stop:

> `es.index xs = .ok index` exactly when no entry of `xs` breaks a rule by itself and no key
> occurs twice, and then a look-up finds an entry of the list or nothing.

Everything goes through one relation, `Entries.Indexes`, between an index and the list of the
entries that it was made from. `Indexes.insert` is the only step; the recursion of
`Entries.addTo` is followed twice, once in each direction, with the entries that are in the
index already as the parameter of the induction.
-/

set_option autoImplicit false

namespace Gatehouse

namespace Entries

variable {α : Type} {es : Entries α}

/-- A list that an index can be made from. -/
structure Sound (es : Entries α) (xs : List α) : Prop where
  faultless : ∀ x ∈ xs, es.fault? x = none
  distinct : (xs.map es.key).Nodup

/-- The index holds the entries of the list, each under its own key, and nothing else. -/
structure Indexes (es : Entries α) (index : Index α) (xs : List α) : Prop where
  sound : es.Sound xs
  lists : ∀ k x, index[k]? = some x ↔ x ∈ xs ∧ es.key x = k
  size : index.size = xs.length

/-! ## Look-ups -/

theorem Indexes.eq_none {index : Index α} {xs : List α} (h : es.Indexes index xs)
    (k : String) : index[k]? = none ↔ ∀ x ∈ xs, es.key x ≠ k := by
  constructor
  · intro hn x hx hk
    have hs : index[k]? = some x := (h.lists k x).mpr ⟨hx, hk⟩
    rw [hn] at hs
    cases hs
  · intro hall
    cases hs : index[k]? with
    | none => rfl
    | some x =>
      obtain ⟨hx, hk⟩ := (h.lists k x).mp hs
      exact absurd hk (hall x hx)

theorem Indexes.contains_iff {index : Index α} {xs : List α} (h : es.Indexes index xs)
    (k : String) : index.contains k = true ↔ k ∈ xs.map es.key := by
  rw [Std.HashMap.contains_eq_isSome_getElem?, Option.isSome_iff_exists, List.mem_map]
  exact exists_congr fun x => h.lists k x

/-! ## Making an index -/

theorem Indexes.nil : es.Indexes (∅ : Index α) [] where
  sound := ⟨by simp, List.nodup_nil⟩
  lists k x := by simp
  size := Std.HashMap.size_empty

/-- **One more entry.** Its key must be free: an entry under a key that is taken would hide
the other one, and the list would hold more than the index. -/
theorem Indexes.insert {index : Index α} {xs : List α} {x : α} (h : es.Indexes index xs)
    (hf : es.fault? x = none) (hk : index.contains (es.key x) = false) :
    es.Indexes (index.insert (es.key x) x) (xs ++ [x]) := by
  have hfree : es.key x ∉ xs.map es.key := by
    rw [← h.contains_iff, hk]
    exact Bool.false_ne_true
  refine ⟨⟨?_, ?_⟩, ?_, ?_⟩
  · intro y hy
    rcases List.mem_append.mp hy with hy | hy
    · exact h.sound.faultless y hy
    · rw [List.mem_singleton.mp hy]
      exact hf
  · rw [List.map_append, List.nodup_append]
    refine ⟨h.sound.distinct, by simp, ?_⟩
    intro a ha b hb hab
    rw [List.map_singleton, List.mem_singleton] at hb
    exact hfree (hb ▸ hab ▸ ha)
  · intro k y
    rw [Std.HashMap.getElem?_insert, List.mem_append, List.mem_singleton]
    -- the new key finds the new entry and no old one, any other key what it found before
    by_cases he : es.key x = k
    · subst he
      have hnone : ∀ z ∈ xs, es.key z ≠ es.key x := by
        intro z hz hzx
        exact hfree (hzx ▸ List.mem_map_of_mem hz)
      simp only [BEq.rfl, if_true, Option.some.injEq]
      constructor
      · rintro rfl
        exact ⟨Or.inr rfl, rfl⟩
      · rintro ⟨hy | rfl, hyk⟩
        · exact absurd hyk (hnone y hy)
        · rfl
    · rw [if_neg (by simpa using he), h.lists k y]
      constructor
      · rintro ⟨hy, hyk⟩
        exact ⟨Or.inl hy, hyk⟩
      · rintro ⟨hy | rfl, hyk⟩
        · exact ⟨hy, hyk⟩
        · exact absurd hyk he
  · rw [Std.HashMap.size_insert, if_neg (by simp [← Std.HashMap.contains_iff_mem, hk]), h.size,
      List.length_append, List.length_singleton]

/-- An index is kept up with the entries that are added. -/
theorem Indexes.addTo {xs : List α} : ∀ {done : List α} {index index' : Index α},
    es.Indexes index done → es.addTo index xs = .ok index' → es.Indexes index' (done ++ xs) := by
  -- on the entries still to come; the index is always that of the ones done
  induction xs with
  | nil =>
    intro done index index' h hadd
    rw [Entries.addTo, Except.ok.injEq] at hadd
    rw [List.append_nil, ← hadd]
    exact h
  | cons x xs ih =>
    intro done index index' h hadd
    rw [Entries.addTo] at hadd
    cases hf : es.fault? x with
    | some fault => rw [hf] at hadd; cases hadd
    | none =>
      rw [hf] at hadd
      cases hk : index.contains (es.key x) with
      | true => rw [hk] at hadd; cases hadd
      | false =>
        rw [hk] at hadd
        rw [List.append_cons]
        exact ih (h.insert hf hk) hadd

theorem Indexes.exists_addTo {xs : List α} : ∀ {done : List α} {index : Index α},
    es.Indexes index done → es.Sound (done ++ xs) → ∃ index', es.addTo index xs = .ok index' := by
  induction xs with
  | nil => intro done index _ _; exact ⟨index, rfl⟩
  | cons x xs ih =>
    intro done index h hs
    have hf : es.fault? x = none := hs.faultless x (by simp)
    have hk : index.contains (es.key x) = false := by
      rw [← Bool.not_eq_true, h.contains_iff]
      intro hmem
      have hd := hs.distinct
      rw [List.map_append, List.nodup_append] at hd
      exact hd.2.2 _ hmem _ (by simp) rfl
    rw [List.append_cons] at hs
    obtain ⟨index', hadd⟩ := ih (h.insert hf hk) hs
    refine ⟨index', ?_⟩
    rw [Entries.addTo, hf]
    simp only [hk]
    exact hadd

/-- **What an index is made of.** -/
theorem Indexes.of_index {index : Index α} {xs : List α} (h : es.index xs = .ok index) :
    es.Indexes index xs := by
  have := Indexes.nil.addTo h
  rwa [List.nil_append] at this

/-- Exactly the sound lists have an index. -/
theorem exists_index_iff (es : Entries α) (xs : List α) :
    (∃ index, es.index xs = .ok index) ↔ es.Sound xs :=
  ⟨fun ⟨_, h⟩ => (Indexes.of_index h).sound, fun h => Indexes.nil.exists_addTo h⟩

end Entries

end Gatehouse
