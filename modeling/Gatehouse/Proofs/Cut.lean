import Gatehouse.Text.Split

/-!
# What is left when the blanks are cut off

`Text.trim` takes away nothing but blanks (`exists_eq_trim`), and what it leaves of a text that is
put together from parts can be read off the parts (`trim_append`, `trim_cons_append`).

What stands before the first separator is the longest front part without one
(`splitFirst_of_mem`), whatever follows (`takeWhile_append_of_mem`). Cutting at all separators
can be done in parts (`splitAll_append`).

A text that is spelled in other characters is cut in the same places (`splitAll_map`).
-/

set_option autoImplicit false

namespace Gatehouse.Text

variable {α : Type} {blank : α → Bool}

/-- The text neither begins nor ends with a blank. -/
structure Trimmed (blank : α → Bool) (cs : List α) : Prop where
  first : ∀ c ∈ cs.head?, blank c = false
  last : ∀ c ∈ cs.getLast?, blank c = false

theorem trimmed_of_forall {cs : List α} (h : ∀ c ∈ cs, blank c = false) : Trimmed blank cs :=
  ⟨fun c hc => h c (List.mem_of_mem_head? hc), fun c hc => h c (List.mem_of_getLast? hc)⟩

theorem blank_of_mem_takeWhile {cs : List α} {c : α} (h : c ∈ cs.takeWhile blank) :
    blank c = true := by
  have hall := List.all_takeWhile (p := blank) (l := cs)
  rw [List.all_eq_true] at hall
  exact hall c h

theorem dropWhile_append_of_first {lead rest : List α} (hl : ∀ c ∈ lead, blank c = true)
    (hr : ∀ c ∈ rest.head?, blank c = false) : (lead ++ rest).dropWhile blank = rest := by
  rw [List.dropWhile_append_of_pos hl]
  cases rest with
  | nil => rfl
  | cons c rest => rw [List.dropWhile_cons_of_neg (by simp [hr c rfl])]

theorem takeWhile_append_of_first {lead rest : List α} (hl : ∀ c ∈ lead, blank c = true)
    (hr : ∀ c ∈ rest.head?, blank c = false) : (lead ++ rest).takeWhile blank = lead := by
  rw [List.takeWhile_append_of_pos hl]
  cases rest with
  | nil => rw [List.takeWhile_nil, List.append_nil]
  | cons c rest => rw [List.takeWhile_cons_of_neg (by simp [hr c rfl]), List.append_nil]

/-- **Nothing but blanks is cut off.** -/
theorem exists_eq_trim (blank : α → Bool) (cs : List α) : ∃ lead trail,
    (∀ c ∈ lead, blank c = true) ∧ (∀ c ∈ trail, blank c = true)
      ∧ cs = lead ++ trim blank cs ++ trail := by
  refine ⟨cs.takeWhile blank, ((cs.dropWhile blank).reverse.takeWhile blank).reverse, ?_, ?_, ?_⟩
  · intro c hc
    exact blank_of_mem_takeWhile hc
  · intro c hc
    exact blank_of_mem_takeWhile (List.mem_reverse.mp hc)
  · rw [trim, List.append_assoc, ← List.reverse_append, List.takeWhile_append_dropWhile,
      List.reverse_reverse, List.takeWhile_append_dropWhile]

/-- Blanks around a text that has none at its ends are what trimming takes away. -/
theorem trim_append {lead core trail : List α} (hl : ∀ c ∈ lead, blank c = true)
    (hc : Trimmed blank core) (ht : ∀ c ∈ trail, blank c = true) :
    trim blank (lead ++ core ++ trail) = core := by
  cases core with
  | nil =>
    have hall : ∀ c ∈ lead ++ [] ++ trail, blank c = true := by
      intro c hmem
      rw [List.append_nil, List.mem_append] at hmem
      exact hmem.elim (hl c) (ht c)
    rw [trim, ← List.append_nil (lead ++ [] ++ trail), dropWhile_append_of_first hall (by simp)]
    rfl
  | cons c core =>
    rw [trim, List.append_assoc, dropWhile_append_of_first hl (by simpa using hc.first c rfl),
      List.reverse_append, dropWhile_append_of_first, List.reverse_reverse]
    · intro d hd
      exact ht d (List.mem_reverse.mp hd)
    · rw [List.head?_reverse]
      exact hc.last

theorem exists_eq_trim_append {cs : List α} {c : α} (h : c ∈ cs.head?)
    (hc : blank c = false) : ∃ trail, cs = trim blank cs ++ trail := by
  obtain ⟨lead, trail, hlead, -, hcut⟩ := exists_eq_trim blank cs
  cases lead with
  | nil => exact ⟨trail, hcut⟩
  | cons d ds =>
    rw [hcut] at h
    obtain rfl : d = c := by simpa using h
    rw [hlead d List.mem_cons_self] at hc
    cases hc

theorem mem_of_mem_trim {cs : List α} {c : α} (h : c ∈ trim blank cs) : c ∈ cs := by
  obtain ⟨lead, trail, -, -, hcut⟩ := exists_eq_trim blank cs
  rw [hcut]
  exact List.mem_append_left _ (List.mem_append_right _ h)

/-- Nothing is left that could be cut off. -/
theorem trimmed_trim (blank : α → Bool) (cs : List α) : Trimmed blank (trim blank cs) where
  first := by
    -- cutting at the end leaves the first character, if it leaves any
    have hfirst : ∀ c ∈ (cs.dropWhile blank).head?, blank c = false := by
      intro c hc
      have hno := List.head?_dropWhile_not blank cs
      rw [Option.mem_def.mp hc] at hno
      simpa using hno
    intro c hc
    have hprefix : trim blank cs <+: cs.dropWhile blank := by
      have hsuffix := List.dropWhile_suffix (l := (cs.dropWhile blank).reverse) blank
      rwa [← List.reverse_prefix, List.reverse_reverse] at hsuffix
    obtain ⟨rest, hrest⟩ := hprefix
    apply hfirst
    rw [← hrest, List.head?_append, Option.mem_def.mp hc]
    rfl
  last := by
    intro c hc
    rw [trim, List.getLast?_reverse] at hc
    have hno := List.head?_dropWhile_not blank (cs.dropWhile blank).reverse
    rw [Option.mem_def.mp hc] at hno
    simpa using hno

/-- Blanks around a text do not count. -/
theorem trim_blanks {lead trail : List α} (hl : ∀ c ∈ lead, blank c = true)
    (ht : ∀ c ∈ trail, blank c = true) (cs : List α) :
    trim blank (lead ++ cs ++ trail) = trim blank cs := by
  obtain ⟨lead', trail', hl', ht', hcut⟩ := exists_eq_trim blank cs
  have hparts : lead ++ cs ++ trail
      = (lead ++ lead') ++ trim blank cs ++ (trail' ++ trail) := by
    conv => lhs; rw [hcut]
    simp only [List.append_assoc]
  rw [hparts]
  refine trim_append ?_ (trimmed_trim blank cs) ?_
  · intro c hc
    exact (List.mem_append.mp hc).elim (hl c) (hl' c)
  · intro c hc
    exact (List.mem_append.mp hc).elim (ht' c) (ht c)

/-- With a character in front, nothing is cut off there. -/
theorem trim_cons_append {c d : α} (hc : blank c = false) (hd : blank d = false)
    (front rest : List α) :
    trim blank (c :: (front ++ d :: rest)) = c :: (front ++ trim blank (d :: rest)) := by
  have hkeep : ∃ kept, (d :: rest).reverse.dropWhile blank = kept ++ [d] := by
    rw [List.reverse_cons, List.dropWhile_append]
    split
    · exact ⟨[], by simp [hd]⟩
    · exact ⟨rest.reverse.dropWhile blank, rfl⟩
  obtain ⟨kept, hkept⟩ := hkeep
  have hne : ((d :: rest).reverse.dropWhile blank).isEmpty = false := by
    rw [hkept]
    simp
  rw [trim, trim, List.dropWhile_cons_of_neg (by simp [hc]),
    List.dropWhile_cons_of_neg (by simp [hd]), ← List.cons_append, List.reverse_append,
    List.dropWhile_append, hne]
  simp

/-! ## The text before a separator -/

section
variable [DecidableEq α] {sep : α}

theorem takeWhile_append_of_notMem {cs : List α} (h : sep ∉ cs) (rest : List α) :
    ((cs ++ rest).takeWhile fun c => c ≠ sep) = cs ++ rest.takeWhile fun c => c ≠ sep := by
  apply List.takeWhile_append_of_pos
  intro c hc
  rw [decide_eq_true_eq]
  rintro rfl
  exact h hc

theorem takeWhile_of_notMem {cs : List α} (h : sep ∉ cs) :
    (cs.takeWhile fun c => c ≠ sep) = cs := by
  simpa using takeWhile_append_of_notMem h []

theorem splitFirst_of_mem {cs : List α} (h : sep ∈ cs) :
    ∃ after, splitFirst sep cs = some (cs.takeWhile fun c => c ≠ sep, after) := by
  obtain ⟨before, after, rfl, hno⟩ := List.eq_append_cons_of_mem h
  refine ⟨after, ?_⟩
  rw [takeWhile_append_of_notMem hno, List.takeWhile_cons_of_neg (by simp), List.append_nil]
  exact splitFirst_append hno after

theorem splitFirst_eq_none {cs : List α} (h : sep ∉ cs) : splitFirst sep cs = none := by
  cases hs : splitFirst sep cs with
  | none => rfl
  | some parts =>
    obtain ⟨rfl, -⟩ := splitFirst_eq_some.mp hs
    exact absurd (List.mem_append_right _ List.mem_cons_self) h

/-- What follows a separator has no say in what stands before the first. -/
theorem takeWhile_append_of_mem {cs : List α} (h : sep ∈ cs) (rest : List α) :
    ((cs ++ rest).takeWhile fun c => c ≠ sep) = cs.takeWhile fun c => c ≠ sep := by
  induction cs with
  | nil => cases h
  | cons c cs ih =>
    by_cases hc : c = sep
    · simp [hc]
    · rcases List.mem_cons.mp h with rfl | hrest
      · exact absurd rfl hc
      · rw [List.cons_append, List.takeWhile_cons_of_pos (by simpa using hc), ih hrest,
          List.takeWhile_cons_of_pos (by simpa using hc)]

/-! ## The texts between separators -/

theorem splitAll_of_notMem {cs : List α} (h : sep ∉ cs) : splitAll sep cs = [cs] := by
  induction cs with
  | nil => rfl
  | cons c cs ih =>
    obtain ⟨hc, hcs⟩ := not_or.mp (mt List.mem_cons.mpr h)
    rw [splitAll, if_neg (Ne.symm hc), ih hcs]

theorem splitAll_append (first rest : List α) :
    splitAll sep (first ++ sep :: rest) = splitAll sep first ++ splitAll sep rest := by
  induction first with
  | nil => simp [splitAll]
  | cons c first ih =>
    rw [List.cons_append, splitAll, splitAll, ih]
    split
    · rfl
    · -- the first piece takes the character, and there always is a first piece
      cases hs : splitAll sep first with
      | nil => exact absurd hs (splitAll_ne_nil sep first)
      | cons piece pieces => rfl

theorem notMem_of_mem_splitAll {cs piece : List α} (h : piece ∈ splitAll sep cs) :
    sep ∉ piece ∧ ∀ c ∈ piece, c ∈ cs := by
  induction cs generalizing piece with
  | nil =>
    obtain rfl := List.mem_singleton.mp h
    exact ⟨List.not_mem_nil, nofun⟩
  | cons c cs ih =>
    have hrest : ∀ p ∈ splitAll sep cs, sep ∉ p ∧ ∀ d ∈ p, d ∈ c :: cs := fun p hp =>
      ⟨(ih hp).1, fun d hd => List.mem_cons_of_mem c ((ih hp).2 d hd)⟩
    rw [splitAll] at h
    split at h
    · rcases List.mem_cons.mp h with rfl | h
      · exact ⟨List.not_mem_nil, nofun⟩
      · exact hrest _ h
    · next hc =>
      cases hs : splitAll sep cs with
      | nil => exact absurd hs (splitAll_ne_nil sep cs)
      | cons first pieces =>
        rw [hs] at h
        rcases List.mem_cons.mp h with rfl | h
        · obtain ⟨hno, hmem⟩ := hrest first (hs ▸ List.mem_cons_self)
          refine ⟨fun hsep => ?_, List.forall_mem_cons.mpr ⟨List.mem_cons_self, hmem⟩⟩
          exact (List.mem_cons.mp hsep).elim (fun he => hc he.symm) hno
        · exact hrest _ (hs ▸ List.mem_cons_of_mem _ h)

/-- The first piece ends where the text does, or at a separator. -/
theorem of_splitAll_eq_cons {cs piece : List α} {after : List (List α)}
    (h : splitAll sep cs = piece :: after) :
    (after = [] ∧ cs = piece) ∨ ∃ rest, cs = piece ++ sep :: rest ∧ splitAll sep rest = after := by
  induction cs generalizing piece with
  | nil =>
    obtain ⟨rfl, rfl⟩ := List.cons_eq_cons.mp h
    exact .inl ⟨rfl, rfl⟩
  | cons c cs ih =>
    rw [splitAll] at h
    split at h
    · next hc =>
      obtain ⟨rfl, hrest⟩ := List.cons_eq_cons.mp h
      exact .inr ⟨cs, by rw [hc, List.nil_append], hrest⟩
    · cases hs : splitAll sep cs with
      | nil => exact absurd hs (splitAll_ne_nil sep cs)
      | cons first pieces =>
        rw [hs] at h
        obtain ⟨rfl, rfl⟩ := List.cons_eq_cons.mp h
        rcases ih hs with ⟨hnil, rfl⟩ | ⟨rest, rfl, hrest⟩
        · exact .inl ⟨hnil, rfl⟩
        · exact .inr ⟨rest, rfl, hrest⟩

/-- Where a piece stands in the text, with the pieces before it. -/
theorem exists_of_splitAll_eq {before after : List (List α)} {piece : List α} :
    ∀ {cs : List α}, splitAll sep cs = before ++ piece :: after → ∃ front back,
      cs = front ++ piece ++ back ∧
      (front = [] ∧ before = [] ∨ ∃ ds, front = ds ++ [sep] ∧ splitAll sep ds = before) ∧
      (back = [] ∨ ∃ ds, back = sep :: ds) := by
  induction before with
  | nil =>
    intro cs h
    rcases of_splitAll_eq_cons h with ⟨-, rfl⟩ | ⟨rest, rfl, -⟩
    · exact ⟨[], [], by simp, .inl ⟨rfl, rfl⟩, .inl rfl⟩
    · exact ⟨[], sep :: rest, by simp, .inl ⟨rfl, rfl⟩, .inr ⟨rest, rfl⟩⟩
  | cons first before ih =>
    intro cs h
    have hfirst : first ∈ splitAll sep cs := by
      rw [h]
      exact List.mem_cons_self
    have hone : splitAll sep first = [first] :=
      splitAll_of_notMem (notMem_of_mem_splitAll hfirst).1
    rcases of_splitAll_eq_cons h with ⟨hnil, -⟩ | ⟨rest, rfl, hrest⟩
    · exact absurd hnil (by simp)
    · obtain ⟨front, back, rfl, hfront, hback⟩ := ih hrest
      refine ⟨first ++ sep :: front, back, by simp, .inr ?_, hback⟩
      rcases hfront with ⟨rfl, rfl⟩ | ⟨ds, rfl, hds⟩
      · exact ⟨first, rfl, hone⟩
      · exact ⟨first ++ sep :: ds, by simp, by rw [splitAll_append, hone, hds]; rfl⟩

end

/-! ## The same cuts in another spelling -/

section
variable {β : Type} {f : β → α}

theorem trim_map (cs : List β) :
    trim blank (cs.map f) = (trim (fun b => blank (f b)) cs).map f := by
  simp only [trim, List.dropWhile_map, ← List.map_reverse]
  rfl

variable [DecidableEq α] [DecidableEq β] {sep : α} {sep' : β}

theorem splitFirst_map (hf : ∀ b, f b = sep ↔ b = sep') (cs : List β) :
    splitFirst sep (cs.map f)
      = (splitFirst sep' cs).map fun p => (p.1.map f, p.2.map f) := by
  induction cs with
  | nil => rfl
  | cons c cs ih =>
    rw [List.map_cons, splitFirst, splitFirst, ih]
    by_cases hc : c = sep'
    · rw [if_pos hc, if_pos ((hf c).mpr hc)]
      rfl
    · rw [if_neg hc, if_neg (mt (hf c).mp hc)]
      cases splitFirst sep' cs with
      | none => rfl
      | some parts => rfl

theorem splitAll_map (hf : ∀ b, f b = sep ↔ b = sep') (cs : List β) :
    splitAll sep (cs.map f) = (splitAll sep' cs).map (List.map f) := by
  induction cs with
  | nil => rfl
  | cons c cs ih =>
    rw [List.map_cons, splitAll, splitAll, ih]
    by_cases hc : c = sep'
    · rw [if_pos hc, if_pos ((hf c).mpr hc)]
      rfl
    · rw [if_neg hc, if_neg (mt (hf c).mp hc)]
      cases splitAll sep' cs with
      | nil => rfl
      | cons piece pieces => rfl

end

end Gatehouse.Text
