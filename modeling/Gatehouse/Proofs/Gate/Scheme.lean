import Gatehouse.Proofs.Gate.Admission
import Gatehouse.Proofs.Gate.Failures

/-!
# Whose scheme an authorization value has

A value that carries no pair is either a bad one of the Basic scheme, which ends the request, or
one of another scheme, with which the request goes on as nobody. So it matters that the scheme is
found. The scheme is what stands between leading blanks and the next blank (`Basic.scheme`), a
blank being a space or a tab. A gate does not look for it like that, and this file says where the
two ways part:

> a value of the Basic scheme passes as one of another if it has a tab behind its scheme, or
> nothing but blanks around it (`Basic.Overlooked`), and a value of another scheme is a bad one
> if it cannot be read (`Gate.discerns`).

For all other values the gate finds the scheme that they have, whatever the blanks are.
-/

set_option autoImplicit false

namespace Gatehouse

namespace Basic

variable {v : Header.Value}

/-! ## The scheme -/

/-- The scheme of a value, which ends at the first blank behind it. -/
def scheme (v : Header.Value) : List Char :=
  ((chars v).dropWhile Text.isBlank).takeWhile fun c => !Text.isBlank c

/-- What follows the scheme, blanks included. -/
def remainder (v : Header.Value) : List Char :=
  ((chars v).dropWhile Text.isBlank).dropWhile fun c => !Text.isBlank c

theorem exists_solid {cs : List Char} (h : ¬ Blank cs) :
    ∃ c ∈ cs, Text.isBlank c = false := by
  simp only [Blank, Classical.not_forall, Bool.not_eq_true] at h
  obtain ⟨c, hc, hsolid⟩ := h
  exact ⟨c, hc, hsolid⟩

/-- The scheme, and what is left of the value before and behind it. -/
theorem exists_chars_eq (v : Header.Value) : ∃ lead, chars v = lead ++ scheme v ++ remainder v ∧
    Blank lead ∧ (∀ c ∈ scheme v, Text.isBlank c = false) ∧
      ∀ c ∈ (remainder v).head?, Text.isBlank c = true := by
  refine ⟨(chars v).takeWhile Text.isBlank, ?_, ?_, ?_, ?_⟩
  · rw [scheme, remainder, List.append_assoc, List.takeWhile_append_dropWhile,
      List.takeWhile_append_dropWhile]
  · intro c hc
    exact Text.blank_of_mem_takeWhile hc
  · intro c hc
    have hsolid := Text.blank_of_mem_takeWhile hc
    simpa using hsolid
  · intro c hc
    have hno := List.head?_dropWhile_not (fun c => !Text.isBlank c)
      ((chars v).dropWhile Text.isBlank)
    rw [Option.mem_def] at hc
    rw [remainder] at hc
    rw [hc] at hno
    simpa using hno

/-- There is no other way to part a value like that. -/
theorem scheme_eq_of_chars {lead solid rest : List Char} (h : chars v = lead ++ solid ++ rest)
    (hlead : Blank lead) (hsolid : ∀ c ∈ solid, Text.isBlank c = false) (hne : solid ≠ [])
    (hrest : ∀ c ∈ rest.head?, Text.isBlank c = true) :
    scheme v = solid ∧ remainder v = rest := by
  have hfirst : ∀ c ∈ (solid ++ rest).head?, Text.isBlank c = false := by
    intro c hc
    cases solid with
    | nil => exact absurd rfl hne
    | cons d ds =>
      obtain rfl := Option.some.inj hc
      exact hsolid _ List.mem_cons_self
  have hdrop : (chars v).dropWhile Text.isBlank = solid ++ rest := by
    rw [h, List.append_assoc]
    exact Text.dropWhile_append_of_first hlead hfirst
  have hpass : ∀ c ∈ solid, (!Text.isBlank c) = true := by
    intro c hc
    rw [hsolid c hc]
    rfl
  have hstop : ∀ c ∈ rest.head?, (!Text.isBlank c) = false := by
    intro c hc
    rw [hrest c hc]
    rfl
  constructor
  · rw [scheme, hdrop]
    exact Text.takeWhile_append_of_first hpass hstop
  · rw [remainder, hdrop]
    exact Text.dropWhile_append_of_first hpass hstop

/-! ## Where it is overlooked -/

/-- A value that can be read, but whose scheme is not the one that is read. -/
inductive Overlooked (v : Header.Value) : Prop
  /-- Nothing follows the scheme, and there are blanks around it. -/
  | bare (hread : v.text? ≠ none) (hblank : Blank (remainder v)) (hmore : chars v ≠ scheme v)
  /-- Something follows it behind a tab. -/
  | tabbed (hread : v.text? ≠ none) (hrest : ¬ Blank (remainder v))
    (htab : (remainder v).head? = some '\t')

theorem overlooked_iff : Overlooked v ↔ v.text? ≠ none ∧
    (Blank (remainder v) ∧ chars v ≠ scheme v ∨
      ¬ Blank (remainder v) ∧ (remainder v).head? = some '\t') := by
  constructor
  · intro h
    cases h with
    | bare hread hblank hmore => exact ⟨hread, .inl ⟨hblank, hmore⟩⟩
    | tabbed hread hrest htab => exact ⟨hread, .inr ⟨hrest, htab⟩⟩
  · intro h
    rcases h with ⟨hread, ⟨hblank, hmore⟩ | ⟨hrest, htab⟩⟩
    · exact .bare hread hblank hmore
    · exact .tabbed hread hrest htab

instance (v : Header.Value) : Decidable (Overlooked v) := decidable_of_iff _ overlooked_iff.symm

theorem Overlooked.read (h : Overlooked v) : v.text? ≠ none := (overlooked_iff.mp h).1

theorem text?_eq_chars (h : v.text? ≠ none) : v.text? = some (chars v) := by
  obtain ⟨cs, hcs⟩ := Option.ne_none_iff_exists'.mp h
  rw [hcs, chars_of_text? hcs]

/-- A scheme that is read as the Basic one is the scheme of the value. -/
theorem of_isBasic_splitScheme (h : isBasic (splitScheme (chars v)).1 = true) :
    isBasic (scheme v) = true ∧ ¬ Overlooked v
      ∧ decodePair (splitScheme (chars v)).2 = decodePair (remainder v) := by
  cases hs : Text.splitFirst ' ' (Text.trim Text.isBlank (chars v)) with
  | none =>
    -- the value is read as a whole, so it has no blanks
    have hcut : splitScheme (chars v) = (chars v, []) := by
      unfold splitScheme
      rw [hs]
    rw [hcut] at h ⊢
    have hall : chars v = [] ++ chars v ++ [] := by simp
    obtain ⟨hscheme, hrest⟩ := scheme_eq_of_chars hall nofun (not_blank_of_isBasic h)
      (ne_nil_of_isBasic h) nofun
    rw [hscheme, hrest]
    refine ⟨h, ?_, rfl⟩
    intro hover
    cases hover with
    | bare hread hblank hmore => exact hmore hscheme.symm
    | tabbed hread hbehind htab => exact hbehind (hrest ▸ nofun)
  | some parts =>
    obtain ⟨solid, behind⟩ := parts
    have hcut : splitScheme (chars v) = (solid, behind) := by
      unfold splitScheme
      rw [hs]
    rw [hcut] at h ⊢
    obtain ⟨htrim, -⟩ := Text.splitFirst_eq_some.mp hs
    obtain ⟨lead, trail, hlead, htrail, hall⟩ := Text.exists_eq_trim Text.isBlank (chars v)
    have hparts : chars v = lead ++ solid ++ ' ' :: (behind ++ trail) := by
      rw [hall, htrim]
      simp
    obtain ⟨hscheme, hrest⟩ := scheme_eq_of_chars hparts hlead (not_blank_of_isBasic h)
      (ne_nil_of_isBasic h) (by simp [space_isBlank])
    rw [hscheme, hrest]
    refine ⟨h, ?_, ?_⟩
    · intro hover
      cases hover with
      | bare hread hblank hmore =>
        -- blanks at the end would have been cut off
        have hlast : ∀ c ∈ (' ' :: behind).getLast?, Text.isBlank c = false := by
          intro c hc
          apply (Text.trimmed_trim Text.isBlank (chars v)).last
          rw [htrim, List.getLast?_append, Option.mem_def.mp hc]
          rfl
        cases hc : (' ' :: behind).getLast? with
        | none => simp at hc
        | some c =>
          have hend := hlast c hc
          rw [hrest, ← List.cons_append] at hblank
          rw [hblank c (List.mem_append_left trail (List.mem_of_getLast? hc))] at hend
          cases hend
      | tabbed hread hbehind htab =>
        rw [hrest] at htab
        exact absurd htab (by simp)
    · have hspace : Blank [' '] := by
        intro c hc
        rw [List.mem_singleton.mp hc]
        exact space_isBlank
      unfold decodePair
      rw [← List.singleton_append, ← List.append_assoc, Text.trim_blanks hspace htrail]

/-- And the scheme of the value is read, unless it is overlooked. -/
theorem isBasic_splitScheme (hread : v.text? ≠ none) (h : isBasic (scheme v) = true)
    (hseen : ¬ Overlooked v) : isBasic (splitScheme (chars v)).1 = true := by
  obtain ⟨lead, hparts, hlead, hsolid, hhead⟩ := exists_chars_eq v
  by_cases hblank : Blank (remainder v)
  · have hall : chars v = scheme v := by
      apply Decidable.byContradiction
      intro hmore
      exact hseen (.bare hread hblank hmore)
    have hno : ' ' ∉ Text.trim Text.isBlank (chars v) := by
      intro hmem
      exact space_notin_of_isBasic h (hall ▸ Text.mem_of_mem_trim hmem)
    rw [splitScheme_fst, if_neg hno, hall]
    exact h
  · cases hrest : remainder v with
    | nil => exact absurd (hrest ▸ nofun) hblank
    | cons b behind =>
      have hb : Text.isBlank b = true := hhead b (by rw [hrest]; rfl)
      simp only [Text.isBlank, Bool.or_eq_true, decide_eq_true_eq] at hb
      rcases hb with rfl | rfl
      · -- something stands behind the space, so it is not cut off
        rw [hrest] at hblank hparts
        obtain ⟨d, hd, hsolid'⟩ := exists_solid hblank
        have hmem : d ∈ behind := by
          apply List.mem_of_ne_of_mem _ hd
          rintro rfl
          rw [space_isBlank] at hsolid'
          cases hsolid'
        obtain ⟨front, back, rfl⟩ := List.append_of_mem hmem
        have htrim : Text.trim Text.isBlank (chars v)
            = scheme v ++ ' ' :: (front ++ Text.trim Text.isBlank (d :: back)) := by
          cases hs : scheme v with
          | nil => exact absurd hs (ne_nil_of_isBasic h)
          | cons c cs =>
            have hfirst : Text.isBlank c = false := hsolid c (hs ▸ List.mem_cons_self)
            have hcut := Text.trim_cons_append hfirst hsolid' (cs ++ ' ' :: front) back
            have hnone : Blank [] := nofun
            have hlead' := Text.trim_blanks hlead hnone (c :: (cs ++ ' ' :: front ++ d :: back))
            rw [hparts, hs]
            simp only [List.append_assoc, List.cons_append, List.append_nil] at hcut hlead' ⊢
            rw [hlead', hcut]
        rw [splitScheme_of_space (space_notin_of_isBasic h) htrim]
        exact h
      · exact absurd (.tabbed hread hblank (by rw [hrest]; rfl)) hseen

/-- A value counts as one of another scheme if it has one, or if its own is overlooked. -/
theorem foreign_iff : Foreign v ↔
    v.text? ≠ none ∧ (isBasic (scheme v) = true → Overlooked v) := by
  constructor
  · intro h
    obtain ⟨cs, hcs, hb⟩ := h
    obtain rfl := chars_of_text? hcs
    have hread : v.text? ≠ none := by
      rw [hcs]
      exact nofun
    refine ⟨hread, ?_⟩
    intro hscheme
    apply Classical.byContradiction
    intro hseen
    rw [isBasic_splitScheme hread hscheme hseen] at hb
    cases hb
  · intro h
    obtain ⟨hread, hover⟩ := h
    refine ⟨chars v, text?_eq_chars hread, ?_⟩
    cases hb : isBasic (splitScheme (chars v)).1 with
    | false => rfl
    | true =>
      obtain ⟨hscheme, hseen, -⟩ := of_isBasic_splitScheme hb
      exact absurd (hover hscheme) hseen

/-- A value that carries a pair has the Basic scheme, and the pair behind it. -/
theorem Spells.decodePair_remainder {user password : String} (h : Spells v user password) :
    isBasic (scheme v) = true ∧ decodePair (remainder v) = some (user, password) := by
  obtain ⟨hno, lead, solid, inner, trail, hlead, hb, hinner, htrail, hv⟩ := h
  obtain ⟨hscheme, hrest⟩ := scheme_eq_of_chars (chars_of_text? hv).symm hlead
    (not_blank_of_isBasic hb) (ne_nil_of_isBasic hb) (by simp [space_isBlank])
  rw [hscheme, hrest]
  refine ⟨hb, decodePair_eq_some_iff.mpr ⟨hno, ?_⟩⟩
  have hinner' : ∀ c ∈ ' ' :: inner, Text.isBlank c = true :=
    List.forall_mem_cons.mpr ⟨space_isBlank, hinner⟩
  have htrim := Text.trim_append hinner' (trimmed_encodePair user password) htrail
  rwa [List.cons_append, List.cons_append] at htrim

end Basic

/-! ## What becomes of a request with such a value -/

namespace Gate

variable {g : Gate} {hs : Headers} {v : Header.Value}

/-- How an attempt with the value ends. -/
structure Discerns (g : Gate) (cache : Cache) (authority : Authority) (hs : Headers)
    (v : Header.Value) : Prop where
  /-- Nobody is asked. -/
  unasked : Effect.requests (g.authenticate cache authority hs).trace = []
  /-- A value of the Basic scheme has bad credentials, unless its scheme is overlooked. -/
  basic (hb : Basic.isBasic (Basic.scheme v) = true) :
    ((g.authenticate cache authority hs).value = .error .unauthorized ↔ ¬ Basic.Overlooked v) ∧
      ((g.authenticate cache authority hs).value = .error .noCredentials ↔ Basic.Overlooked v)
  /-- One of another scheme has no credentials, unless it cannot be read. -/
  foreign (hb : Basic.isBasic (Basic.scheme v) = false) :
    ((g.authenticate cache authority hs).value = .error .noCredentials ↔
        ∀ b ∈ v.bytes, b < 128) ∧
      ((g.authenticate cache authority hs).value = .error .unauthorized ↔
        ∃ b ∈ v.bytes, 128 ≤ b)
  /-- And only without credentials the request goes on as nobody. -/
  nobody (path : String) : (g.enter cache authority .open path hs).value = .ok none ↔
    (g.authenticate cache authority hs).value = .error .noCredentials

/-- A request that presents nothing is turned away for one of two reasons. -/
theorem refused_of_presents_none (cache : Cache) (authority : Authority)
    (h : ∀ c, ¬ g.Presents hs c) :
    Effect.requests (g.authenticate cache authority hs).trace = [] ∧
      ((g.authenticate cache authority hs).value = .error .unauthorized ↔
        ¬ (g.authenticate cache authority hs).value = .error .noCredentials) := by
  cases hc : (g.classify hs).value with
  | ok c => exact absurd (classify_eq_ok_iff.mp hc) (h c)
  | error refusal =>
    refine ⟨requests_refused hc, ?_⟩
    rw [authenticate_refused hc]
    rcases error_of_classify hc with rfl | rfl
    · exact iff_of_true rfl nofun
    · exact iff_of_false nofun (absurd rfl)

section
variable (hmarker : hs.get? g.markerHeader = none) (hv : hs.get? .authorization = some v)
include hmarker hv

/-- A value whose scheme has no pair behind it, or is another one, presents nothing. -/
theorem presents_none
    (hno : Basic.isBasic (Basic.scheme v) = true → Basic.decodePair (Basic.remainder v) = none)
    (c : Credential) : ¬ g.Presents hs c := by
  intro hp
  cases c with
  | token token => exact hp.1.not_passesMarker (passesMarker_of_none hmarker)
  | password user password =>
    obtain ⟨-, w, hw, hspells⟩ := hp
    obtain rfl := Option.some.inj (hv.symm.trans hw)
    obtain ⟨hb, hpair⟩ := hspells.decodePair_remainder
    rw [hno hb] at hpair
    cases hpair

/-- The value counts as nothing if it can be read, and no Basic scheme is seen in it. -/
theorem noCredentials_iff_overlooked {cache : Cache} {authority : Authority} :
    (g.authenticate cache authority hs).value = .error .noCredentials ↔
      v.text? ≠ none ∧ (Basic.isBasic (Basic.scheme v) = true → Basic.Overlooked v) := by
  rw [authenticate_eq_noCredentials_iff, ← Basic.foreign_iff, hv]
  simp [passesMarker_of_none hmarker]

end

/-- **Schemes are told apart**, but for those that are overlooked or cannot be read. The request
has no marker, and its value has no pair if the scheme is the Basic one. -/
theorem discerns (g : Gate) (cache : Cache) (authority : Authority)
    (hmarker : hs.get? g.markerHeader = none) (hv : hs.get? .authorization = some v)
    (hno : Basic.isBasic (Basic.scheme v) = true → Basic.decodePair (Basic.remainder v) = none) :
    g.Discerns cache authority hs v := by
  obtain ⟨hunasked, hother⟩ := refused_of_presents_none cache authority
    (presents_none hmarker hv hno)
  refine ⟨hunasked, ?_, ?_, ?_⟩
  · intro hb
    have hover : (g.authenticate cache authority hs).value = .error .noCredentials ↔
        Basic.Overlooked v := by
      rw [noCredentials_iff_overlooked hmarker hv]
      constructor
      · intro h
        exact h.2 hb
      · intro h
        exact ⟨h.read, fun _ => h⟩
    rw [hother, hover]
    exact ⟨Iff.rfl, Iff.rfl⟩
  · intro hb
    have hread : (g.authenticate cache authority hs).value = .error .noCredentials ↔
        v.text? ≠ none := by
      rw [noCredentials_iff_overlooked hmarker hv, hb]
      simp
    rw [hother, hread, ne_eq, Header.Value.text?_eq_none_iff]
    constructor
    · simp
    · simp
  · intro path
    rw [enter_open_iff]
    simp

/-- A bad value of the Basic scheme, with a tab behind the scheme. -/
def tabbedBasic : Header.Value := ⟨Utf8.encode "Basic\t!!!", by decide⟩

/-- The scheme alone, with a space in front. -/
def bareBasic : Header.Value := ⟨Utf8.encode " Basic", by decide⟩

/-- A value of another scheme with a byte that cannot be read. -/
def opaqueBearer : Header.Value := ⟨Utf8.encode "Bearer " ++ [0xff], by decide⟩

/-- The first two pass for values of another scheme, and the last for a bad one of this. -/
theorem discerns_misread :
    (loopback.authenticate Cache.empty unreachable [(.authorization, tabbedBasic)]).value
        = .error .noCredentials ∧
      (loopback.authenticate Cache.empty unreachable [(.authorization, bareBasic)]).value
        = .error .noCredentials ∧
      (loopback.authenticate Cache.empty unreachable [(.authorization, opaqueBearer)]).value
        = .error .unauthorized := by
  have htabbed : Basic.Overlooked tabbedBasic := by decide
  have hbare : Basic.Overlooked bareBasic := by decide
  refine ⟨?_, ?_, ?_⟩
  · exact ((discerns loopback Cache.empty unreachable rfl rfl (by decide)).basic
      (by decide)).2.mpr htabbed
  · exact ((discerns loopback Cache.empty unreachable rfl rfl (by decide)).basic
      (by decide)).2.mpr hbare
  · exact ((discerns loopback Cache.empty unreachable rfl rfl (by decide)).foreign
      (by decide)).2.mpr ⟨0xff, by decide, by decide⟩

end Gate

end Gatehouse
