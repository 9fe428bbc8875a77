import Gatehouse.Proofs.Cookie

/-!
# Writing cookies down

The same cookies can be sent in many ways. They stand in one header or in several, there may be
blanks around each of them, and there may be pieces between them that are no cookies. This file
says that none of that matters:

> what is found under a name is the value of the first cookie of exactly that name, in the order
> in which they were written (`Lays.find?_eq`).

A value may have equals signs in it, begin with blanks, or be empty. An empty value is found as
well, and hides a later one.

Nothing else can be sent that is read at all: every header that can be read is written in this way
(`exists_eq_header`).
-/

set_option autoImplicit false

namespace Gatehouse

namespace Cookie

/-! ## What is written -/

/-- A name and a value that can be written down. -/
structure Pair where
  name : String
  value : String
  isName : IsName name
  isValue : IsValue value

/-- Spaces and tabs. -/
structure Blanks where
  chars : List Char
  blank : ∀ c ∈ chars, Text.isBlank c = true

/-- What may stand between two semicolons. -/
inductive Piece where
  | pair (lead : Blanks) (pair : Pair) (trail : Blanks)
  /-- Any other text, which may be empty. -/
  | other (text : List Char) (isText : Header.IsText text) (nosemicolon : ';' ∉ text)
    (noequals : '=' ∉ text)

namespace Piece

def text : Piece → List Char
  | .pair lead p trail => lead.chars ++ (p.name.toList ++ '=' :: p.value.toList) ++ trail.chars
  | .other text _ _ _ => text

def pair? : Piece → Option Pair
  | .pair _ p _ => some p
  | .other .. => none

end Piece

/-- The pieces of one header, with semicolons between them. -/
def line (pieces : List Piece) : List Char := [';'].intercalate (pieces.map Piece.text)

/-- The cookies of a header. -/
def linePairs (pieces : List Piece) : List Pair := pieces.filterMap Piece.pair?

theorem line_cons_cons (first second : Piece) (rest : List Piece) :
    line (first :: second :: rest) = first.text ++ ';' :: line (second :: rest) := by
  simp [line, List.intercalate_cons_cons]

/-! ## Everything written is text -/

theorem Blanks.isText (blanks : Blanks) : Header.IsText blanks.chars := by
  intro c hc
  have hblank := blanks.blank c hc
  simp only [Text.isBlank, Bool.or_eq_true, decide_eq_true_eq] at hblank
  rcases hblank with rfl | rfl <;> decide

theorem Piece.isText_text (piece : Piece) : Header.IsText piece.text := by
  cases piece with
  | pair lead p trail =>
    have hequals : Header.IsText ['='] := by decide
    exact (lead.isText.append (p.isName.text.append (hequals.append p.isValue.text))).append
      trail.isText
  | other text isText nosemicolon noequals => exact isText

theorem isText_line (pieces : List Piece) : Header.IsText (line pieces) := by
  induction pieces with
  | nil => exact nofun
  | cons first rest ih =>
    cases rest with
    | nil =>
      rw [line, List.map_singleton, List.intercalate_singleton]
      exact first.isText_text
    | cons second rest =>
      have hsemicolon : Header.IsText [';'] := by decide
      rw [line_cons_cons]
      exact first.isText_text.append (hsemicolon.append ih)

/-- The header that holds the pieces. -/
def header (pieces : List Piece) : Header.Value :=
  .ofText (String.ofList (line pieces)) (by rw [String.toList_ofList]; exact isText_line pieces)

theorem text?_header (pieces : List Piece) : (header pieces).text? = some (line pieces) := by
  rw [header, Header.Value.text?_ofText, String.toList_ofList]

/-! ## Reading it again -/

/-- The characters of a pair, as they are read. -/
def Pair.chars (p : Pair) : List Char × List Char := (p.name.toList, p.value.toList)

/-- A piece is at most one cookie. -/
theorem pairs_of_notMem {text : List Char} (h : ';' ∉ text) :
    pairs text = (Text.splitFirst '=' (Text.trim Text.isBlank text)).toList := by
  rw [pairs, Text.splitAll_of_notMem h]
  cases hcut : Text.splitFirst '=' (Text.trim Text.isBlank text) <;> simp [hcut]

/-- **One piece.** -/
theorem pairs_text (piece : Piece) : pairs piece.text = (linePairs [piece]).map Pair.chars := by
  cases piece with
  | pair lead p trail => exact pairs_pair p.isName p.isValue lead.blank trail.blank
  | other text isText nosemicolon noequals =>
    have hcut : Text.splitFirst '=' (Text.trim Text.isBlank text) = none :=
      Text.splitFirst_eq_none (mt Text.mem_of_mem_trim noequals)
    show pairs text = _
    rw [pairs_of_notMem nosemicolon, hcut]
    rfl

/-- **One header.** -/
theorem pairs_line (pieces : List Piece) :
    pairs (line pieces) = (linePairs pieces).map Pair.chars := by
  induction pieces with
  | nil => exact pairs_of_notMem List.not_mem_nil
  | cons first rest ih =>
    cases rest with
    | nil =>
      rw [line, List.map_singleton, List.intercalate_singleton]
      exact pairs_text first
    | cons second rest =>
      rw [line_cons_cons, pairs_append, pairs_text, ih, ← List.map_append, linePairs, linePairs,
        ← List.filterMap_append]
      rfl

/-- The headers lay the cookies out, in order. -/
def Lays (vs : List Header.Value) (ps : List Pair) : Prop :=
  ∃ lines : List (List Piece), vs = lines.map header ∧ ps = lines.flatMap linePairs

/-- The value of the first cookie of a name. -/
def first? (ps : List Pair) (name : String) : Option String :=
  (ps.find? fun p => p.name = name).map Pair.value

/-- The pairs that are laid out are read in that order. -/
theorem allPairs_of_lays {hs : Headers} {ps : List Pair} (h : Lays (hs.getAll .cookie) ps) :
    allPairs hs = ps.map Pair.chars := by
  obtain ⟨lines, hlines, rfl⟩ := h
  have hread : (lines.map header).filterMap Header.Value.text? = lines.map line := by
    rw [List.filterMap_map, ← List.filterMap_eq_map]
    congr 1
    funext pieces
    exact text?_header pieces
  rw [allPairs, hlines, hread, List.flatMap_map, List.map_flatMap]
  congr 1
  funext pieces
  exact pairs_line pieces

/-- **All headers.** The first cookie of a name is found, and no other. -/
theorem Lays.find?_eq {hs : Headers} {ps : List Pair} (h : Lays (hs.getAll .cookie) ps)
    (name : String) : find? hs name = first? ps name := by
  have hname : ((fun p : List Char × List Char => decide (p.1 = name.toList)) ∘ Pair.chars)
      = fun p => decide (p.name = name) := by
    funext p
    exact decide_eq_decide.mpr String.toList_inj
  rw [find?, allPairs_of_lays h, List.find?_map, hname, Option.map_map, first?]
  congr 1
  funext p
  exact String.ofList_toList

/-! ## Every header that can be read -/

theorem exists_piece {cs : List Char} (hcs : Header.IsText cs) (hno : ';' ∉ cs) :
    ∃ piece : Piece, piece.text = cs := by
  obtain ⟨lead, trail, hlead, htrail, hparts⟩ := Text.exists_eq_trim Text.isBlank cs
  cases hcut : Text.splitFirst '=' (Text.trim Text.isBlank cs) with
  | none =>
    refine ⟨.other cs hcs hno ?_, rfl⟩
    -- an equals sign is no blank, so it would be left
    intro hequals
    have hleft : '=' ∈ Text.trim Text.isBlank cs := by
      rw [hparts, List.mem_append, List.mem_append] at hequals
      rcases hequals with (hmem | hmem) | hmem
      · exact absurd (hlead _ hmem) (by decide)
      · exact hmem
      · exact absurd (htrail _ hmem) (by decide)
    obtain ⟨after, hafter⟩ := Text.splitFirst_of_mem hleft
    rw [hcut] at hafter
    cases hafter
  | some parts =>
    obtain ⟨name, value⟩ := parts
    have hpair : (name, value) ∈ pairs cs := by
      rw [pairs_of_notMem hno, hcut]
      exact List.mem_singleton_self _
    obtain ⟨hname, hvalue⟩ := of_mem_pairs hcs hpair
    refine ⟨.pair ⟨lead, hlead⟩ ⟨_, _, hname, hvalue⟩ ⟨trail, htrail⟩, ?_⟩
    rw [Piece.text, String.toList_ofList, String.toList_ofList,
      ← (Text.splitFirst_eq_some.mp hcut).1, ← hparts]

theorem exists_line {cs : List Char} (hcs : Header.IsText cs) :
    ∃ first rest, line (first :: rest) = cs := by
  by_cases hsemicolon : ';' ∈ cs
  · obtain ⟨before, after, hcut, hno⟩ := List.eq_append_cons_of_mem hsemicolon
    have hshorter : after.length < cs.length := by
      rw [hcut, List.length_append, List.length_cons]
      omega
    rw [hcut] at hcs ⊢
    have hbefore : Header.IsText before := fun c hc => hcs c (List.mem_append_left _ hc)
    have hafter : Header.IsText after := fun c hc =>
      hcs c (List.mem_append_right _ (List.mem_cons_of_mem _ hc))
    obtain ⟨first, hfirst⟩ := exists_piece hbefore hno
    obtain ⟨second, rest, hrest⟩ := exists_line hafter
    exact ⟨first, second :: rest, by rw [line_cons_cons, hfirst, hrest]⟩
  · obtain ⟨piece, hpiece⟩ := exists_piece hcs hsemicolon
    exact ⟨piece, [], by rw [line, List.map_singleton, List.intercalate_singleton, hpiece]⟩
termination_by cs.length

/-- Every value that can be read as text is laid out in some way. -/
theorem exists_eq_header {v : Header.Value} (h : v.text?.isSome = true) :
    ∃ pieces, v = header pieces := by
  obtain ⟨cs, hcs⟩ := Option.isSome_iff_exists.mp h
  obtain ⟨htext, hbytes⟩ := Header.Value.text?_eq_some_iff.mp hcs
  obtain ⟨first, rest, rfl⟩ := exists_line htext
  refine ⟨first :: rest, ?_⟩
  obtain ⟨bytes, legal⟩ := v
  obtain rfl : bytes = _ := hbytes
  rfl

/-- **Headers that can be read lay some cookies out**, whatever they are. -/
theorem exists_lays {vs : List Header.Value} (h : ∀ v ∈ vs, v.text?.isSome = true) :
    ∃ ps, Lays vs ps := by
  induction vs with
  | nil => exact ⟨[], [], rfl, rfl⟩
  | cons v vs ih =>
    obtain ⟨pieces, rfl⟩ := exists_eq_header (h v List.mem_cons_self)
    obtain ⟨ps, lines, rfl, rfl⟩ := ih fun w hw => h w (List.mem_cons_of_mem _ hw)
    exact ⟨_, pieces :: lines, rfl, rfl⟩

end Cookie

end Gatehouse
