import Gatehouse.Credential.Cookie
import Gatehouse.Proofs.Cut
import Gatehouse.Proofs.HeaderText

/-!
# The grammar of cookies

A cookie is found in the first header that has a pair of its name, and there it is the first
such pair. `Carries` says what such a header looks like, with the blanks and semicolons around
the pair, and `find?_eq_some_iff` that exactly these are found.

Names and values have to be such that they can be written down (`IsName`, `IsValue`): a name with
an equals sign in it belongs to no cookie, whatever is sent.
-/

set_option autoImplicit false

namespace Gatehouse.Cookie

/-- A text that can stand before the equals sign of a pair. -/
structure IsName (name : String) : Prop where
  text : Header.IsText name.toList
  first : ∀ c ∈ name.toList.head?, Text.isBlank c = false
  nosemicolon : ';' ∉ name.toList
  noequals : '=' ∉ name.toList

/-- A text that can stand behind it. -/
structure IsValue (value : String) : Prop where
  text : Header.IsText value.toList
  last : ∀ c ∈ value.toList.getLast?, Text.isBlank c = false
  nosemicolon : ';' ∉ value.toList

theorem isName_iff {name : String} : IsName name ↔ Header.IsText name.toList ∧
    name.toList.head?.all (fun c => !Text.isBlank c) = true ∧ ';' ∉ name.toList ∧
      '=' ∉ name.toList := by
  simp only [Option.all_eq_true, Bool.not_eq_true']
  constructor
  · rintro ⟨htext, hfirst, hnosemicolon, hnoequals⟩
    exact ⟨htext, hfirst, hnosemicolon, hnoequals⟩
  · rintro ⟨htext, hfirst, hnosemicolon, hnoequals⟩
    exact ⟨htext, hfirst, hnosemicolon, hnoequals⟩

theorem isValue_iff {value : String} : IsValue value ↔ Header.IsText value.toList ∧
    value.toList.getLast?.all (fun c => !Text.isBlank c) = true ∧ ';' ∉ value.toList := by
  simp only [Option.all_eq_true, Bool.not_eq_true']
  constructor
  · rintro ⟨htext, hlast, hnosemicolon⟩
    exact ⟨htext, hlast, hnosemicolon⟩
  · rintro ⟨htext, hlast, hnosemicolon⟩
    exact ⟨htext, hlast, hnosemicolon⟩

instance (name : String) : Decidable (IsName name) := decidable_of_iff _ isName_iff.symm

instance (value : String) : Decidable (IsValue value) := decidable_of_iff _ isValue_iff.symm

/-! ## Pairs -/

/-- Only what can be written down is read. -/
theorem of_mem_pairs {cs key value : List Char} (hcs : Header.IsText cs)
    (h : (key, value) ∈ pairs cs) :
    IsName (String.ofList key) ∧ IsValue (String.ofList value) := by
  obtain ⟨piece, hpiece, hcut⟩ := List.mem_filterMap.mp h
  obtain ⟨hno, hmem⟩ := Text.notMem_of_mem_splitAll hpiece
  obtain ⟨hkey, hnokey⟩ := Text.splitFirst_eq_some.mp hcut
  have htrimmed := Text.trimmed_trim Text.isBlank piece
  have hchar : ∀ c ∈ key ++ '=' :: value, c ∈ piece := fun c hc =>
    Text.mem_of_mem_trim (hkey ▸ hc)
  rw [hkey] at htrimmed
  refine ⟨⟨?_, ?_, ?_, ?_⟩, ⟨?_, ?_, ?_⟩⟩ <;> rw [String.toList_ofList]
  · exact fun c hc => hcs c (hmem c (hchar c (List.mem_append_left _ hc)))
  · intro c hc
    apply htrimmed.first
    rw [List.head?_append, Option.mem_def.mp hc]
    rfl
  · exact fun hc => hno (hchar _ (List.mem_append_left _ hc))
  · exact hnokey
  · exact fun c hc => hcs c (hmem c (hchar c (List.mem_append_right _ (List.mem_cons_of_mem _ hc))))
  · intro c hc
    apply htrimmed.last
    rw [List.getLast?_append, List.getLast?_cons, Option.mem_def.mp hc]
    rfl
  · exact fun hc => hno (hchar _ (List.mem_append_right _ (List.mem_cons_of_mem _ hc)))

theorem pairs_append (first rest : List Char) :
    pairs (first ++ ';' :: rest) = pairs first ++ pairs rest := by
  rw [pairs, Text.splitAll_append, List.filterMap_append]
  rfl

section
variable {name value : String} (hn : IsName name) (hv : IsValue value)
include hn hv

theorem trimmed_pair : Text.Trimmed Text.isBlank (name.toList ++ '=' :: value.toList) where
  first := by
    intro c hc
    cases hname : name.toList with
    | nil =>
      rw [hname] at hc
      obtain rfl : '=' = c := Option.some.inj hc
      rfl
    | cons d ds =>
      rw [hname] at hc
      exact hn.first c (hname ▸ hc)
  last := by
    intro c hc
    rw [List.getLast?_append, List.getLast?_cons] at hc
    cases hlast : value.toList.getLast? with
    | none =>
      rw [hlast] at hc
      obtain rfl : '=' = c := Option.some.inj hc
      rfl
    | some d =>
      rw [hlast] at hc
      exact hv.last c (hlast ▸ hc)

/-- Blanks around a pair do not count. -/
theorem pairs_pair {lead trail : List Char} (hl : ∀ c ∈ lead, Text.isBlank c = true)
    (ht : ∀ c ∈ trail, Text.isBlank c = true) :
    pairs (lead ++ (name.toList ++ '=' :: value.toList) ++ trail)
      = [(name.toList, value.toList)] := by
  have hblank : Text.isBlank ';' = false := rfl
  have hno : ';' ∉ lead ++ (name.toList ++ '=' :: value.toList) ++ trail := by
    have hlead : ';' ∉ lead := fun h => by simpa [hblank] using hl _ h
    have htrail : ';' ∉ trail := fun h => by simpa [hblank] using ht _ h
    simp [hlead, htrail, hn.nosemicolon, hv.nosemicolon]
  rw [pairs, Text.splitAll_of_notMem hno, List.filterMap_cons, List.filterMap_nil,
    Text.trim_append hl (trimmed_pair hn hv) ht, Text.splitFirst_append hn.noequals]

end

/-! ## One header after the other -/

/-- What one header says about a cookie. -/
def within (v : Header.Value) (name : String) : Option String :=
  ((v.text?.toList.flatMap pairs).find? fun p => p.1 = name.toList).map fun p => String.ofList p.2

theorem find?_eq_findSome? (hs : Headers) (name : String) :
    find? hs name = (hs.getAll .cookie).findSome? fun v => within v name := by
  have hpairs : allPairs hs
      = (hs.getAll .cookie).flatMap fun v => v.text?.toList.flatMap pairs := by
    rw [allPairs]
    induction hs.getAll .cookie with
    | nil => rfl
    | cons v rest ih =>
      rw [List.flatMap_cons, ← ih]
      cases hv : v.text? <;> simp [hv]
  rw [find?, hpairs, List.find?_flatMap, List.map_findSome?]
  rfl

/-- The first header has the first say. -/
theorem find?_of_get? {hs : Headers} {v : Header.Value} (h : hs.get? .cookie = some v)
    (name : String) : ∃ rest, find? hs name = (within v name).or rest := by
  obtain ⟨others, hall⟩ : ∃ others, hs.getAll .cookie = v :: others := by
    rw [Headers.get?] at h
    exact List.head?_eq_some_iff.mp h
  refine ⟨others.findSome? fun w => within w name, ?_⟩
  rw [find?_eq_findSome?, hall, List.findSome?_cons]
  cases within v name <;> rfl

/-! ## The pair that counts -/

/-- The header has the pair, with blanks around it and no pair of its name in front. -/
structure Carries (v : Header.Value) (name value : String) : Prop where
  isName : IsName name
  isValue : IsValue value
  grammar : ∃ front lead trail back, (∀ c ∈ lead, Text.isBlank c = true)
    ∧ (∀ c ∈ trail, Text.isBlank c = true)
    ∧ (front = [] ∨ ∃ cs, front = cs ++ [';'] ∧ ∀ p ∈ pairs cs, p.1 ≠ name.toList)
    ∧ (back = [] ∨ ∃ cs, back = ';' :: cs)
    ∧ v.text?
      = some (front ++ (lead ++ (name.toList ++ '=' :: value.toList) ++ trail) ++ back)

variable {v : Header.Value} {name value : String}

/-- A pair is found in the value that carries it. -/
theorem within_of_carries (h : Carries v name value) : within v name = some value := by
  obtain ⟨front, lead, trail, back, hlead, htrail, hfront, hback, htext⟩ := h.grammar
  have hpair := pairs_pair h.isName h.isValue hlead htrail
  -- what follows is a pair more, or nothing
  have hrest : ∃ others, pairs ((lead ++ (name.toList ++ '=' :: value.toList) ++ trail) ++ back)
      = (name.toList, value.toList) :: others := by
    rcases hback with rfl | ⟨cs, rfl⟩
    · exact ⟨[], by rw [List.append_nil, hpair]⟩
    · exact ⟨pairs cs, by rw [pairs_append, hpair]; rfl⟩
  obtain ⟨others, hothers⟩ := hrest
  have hpairs : ∃ earlier, (∀ p ∈ earlier, p.1 ≠ name.toList) ∧
      pairs (front ++ (lead ++ (name.toList ++ '=' :: value.toList) ++ trail) ++ back)
        = earlier ++ (name.toList, value.toList) :: others := by
    rcases hfront with rfl | ⟨cs, rfl, hno⟩
    · exact ⟨[], nofun, by rw [List.nil_append, hothers]; rfl⟩
    · refine ⟨pairs cs, hno, ?_⟩
      rw [← hothers, ← pairs_append]
      simp
  obtain ⟨earlier, hno, heq⟩ := hpairs
  have hfind : ∀ p ∈ earlier, (decide (p.1 = name.toList)) = false := fun p hp =>
    decide_eq_false (hno p hp)
  rw [within, htext, Option.toList_some, List.flatMap_singleton, heq, List.find?_append,
    List.find?_eq_none.mpr fun p hp => by simp [hfind p hp]]
  simp

/-- What is found is carried. -/
theorem carries_of_within (h : within v name = some value) : Carries v name value := by
  obtain ⟨pair, hfind, rfl⟩ := Option.map_eq_some_iff.mp h
  have hkey : pair.1 = name.toList := by simpa using List.find?_some hfind
  cases hv : v.text? with
  | none =>
    rw [hv] at hfind
    cases hfind
  | some cs =>
    rw [hv, Option.toList_some, List.flatMap_singleton] at hfind
    have hboth := of_mem_pairs (Header.Value.text?_eq_some_iff.mp hv).1
      (List.mem_of_find?_eq_some hfind)
    rw [hkey, String.ofList_toList] at hboth
    -- the piece that the pair was read from, and where it stands
    rw [pairs, List.find?_filterMap] at hfind
    obtain ⟨piece, hpiece, hread⟩ := Option.bind_eq_some_iff.mp hfind
    obtain ⟨-, before, after, hsplit, hbefore⟩ := List.find?_eq_some_iff_append.mp hpiece
    obtain ⟨front, back, rfl, hfront, hback⟩ := Text.exists_of_splitAll_eq hsplit
    obtain ⟨lead, trail, hlead, htrail, hcut⟩ := Text.exists_eq_trim Text.isBlank piece
    rw [(Text.splitFirst_eq_some.mp hread).1, hkey] at hcut
    refine ⟨hboth.1, hboth.2, front, lead, trail, back, hlead, htrail, ?_, hback, ?_⟩
    · rcases hfront with ⟨rfl, -⟩ | ⟨ds, rfl, hds⟩
      · exact .inl rfl
      · refine .inr ⟨ds, rfl, fun p hp hname => ?_⟩
        obtain ⟨earlier, hearlier, hp⟩ := List.mem_filterMap.mp hp
        have hno := hbefore earlier (hds ▸ hearlier)
        simp [hp, hname] at hno
    · rw [hv, String.toList_ofList, ← hcut]

/-- **What a header says about a cookie** is what its first pair of the name says. -/
theorem within_eq_some_iff : within v name = some value ↔ Carries v name value :=
  ⟨carries_of_within, within_of_carries⟩

/-- The headers have the pair: it is in the first one with a pair of its name. -/
def Bears (hs : Headers) (name value : String) : Prop :=
  ∃ earlier v later, hs.getAll .cookie = earlier ++ v :: later ∧
    (∀ w ∈ earlier, ∀ other, ¬ Carries w name other) ∧ Carries v name value

/-- **Where a cookie is found.** -/
theorem find?_eq_some_iff {hs : Headers} : find? hs name = some value ↔ Bears hs name value := by
  unfold Bears
  rw [find?_eq_findSome?, List.findSome?_eq_some_iff]
  simp only [← within_eq_some_iff, Option.eq_none_iff_forall_ne_some, ne_eq]
  constructor
  · rintro ⟨earlier, v, later, hall, hv, hno⟩
    exact ⟨earlier, v, later, hall, hno, hv⟩
  · rintro ⟨earlier, v, later, hall, hno, hv⟩
    exact ⟨earlier, v, later, hall, hv, hno⟩

/-- So only what can be written down is found. -/
theorem of_find? {hs : Headers} (h : find? hs name = some value) : IsName name ∧ IsValue value := by
  obtain ⟨-, v, -, -, -, hv⟩ := find?_eq_some_iff.mp h
  exact ⟨hv.isName, hv.isValue⟩

/-- And what is written down by itself is there. -/
theorem carries_of_bytes (hn : IsName name) (hv : IsValue value)
    (h : v.bytes = Utf8.encode (name ++ "=" ++ value)) : Carries v name value := by
  refine ⟨hn, hv, [], [], [], [], nofun, nofun, .inl rfl, .inl rfl, ?_⟩
  have hequals : Header.IsText ['='] := by decide
  have htext : Header.IsText (name.toList ++ '=' :: value.toList) :=
    hn.text.append (hequals.append hv.text)
  rw [List.append_nil, List.append_nil, List.nil_append, List.nil_append,
    Header.Value.text?_eq_some_iff, h]
  refine ⟨htext, congrArg Utf8.encode ?_⟩
  apply String.toList_inj.mp
  simp

theorem bears_of_get? {hs : Headers} (h : hs.get? .cookie = some v) (hv : Carries v name value) :
    Bears hs name value := by
  obtain ⟨rest, hrest⟩ := find?_of_get? h name
  rw [← find?_eq_some_iff, hrest, within_of_carries hv]
  rfl

end Gatehouse.Cookie
