/-!
# Cutting text at a separator

Headers, URLs and dotted names are all read by cutting: at the first separator, at every
separator, or at the blanks on both ends. Each cut is a recursion on the characters, and
its law says that the pieces put together again are the text.
-/

set_option autoImplicit false

namespace Gatehouse.Text

/-- What stands before and after the first `sep`; nothing when there is none. -/
def splitFirst {α : Type} [DecidableEq α] (sep : α) : List α → Option (List α × List α)
  | [] => none
  | c :: rest =>
    if c = sep then some ([], rest)
    else match splitFirst sep rest with
      | none => none
      | some (before, after) => some (c :: before, after)

/-- The pieces between the separators; `n` separators make `n + 1` pieces. -/
def splitAll {α : Type} [DecidableEq α] (sep : α) : List α → List (List α)
  | [] => [[]]
  | c :: rest =>
    if c = sep then [] :: splitAll sep rest
    else match splitAll sep rest with
      | [] => [[c]]
      | piece :: pieces => (c :: piece) :: pieces

/-- The text without its leading and trailing characters of a class. -/
def trim {α : Type} (blank : α → Bool) (cs : List α) : List α :=
  ((cs.dropWhile blank).reverse.dropWhile blank).reverse

/-- Space or tab, the blanks of a header line. -/
def isBlank (c : Char) : Bool := c = ' ' || c = '\t'

/-- What is put together around a separator is cut there again. -/
theorem splitFirst_append {α : Type} [DecidableEq α] {sep : α} {before : List α}
    (h : sep ∉ before) (after : List α) :
    splitFirst sep (before ++ sep :: after) = some (before, after) := by
  induction before with
  | nil => simp [splitFirst]
  | cons b bs ih =>
    simp only [List.mem_cons, not_or] at h
    simp [splitFirst, Ne.symm h.1, ih h.2]

/-- What is cut is the text, put together around its first separator. -/
theorem of_splitFirst {α : Type} [DecidableEq α] {sep : α} {cs before after : List α}
    (h : splitFirst sep cs = some (before, after)) :
    cs = before ++ sep :: after ∧ sep ∉ before := by
  induction cs generalizing before with
  | nil => simp [splitFirst] at h
  | cons c rest ih =>
    by_cases hc : c = sep
    · simp only [splitFirst, hc, if_true, Option.some.injEq, Prod.mk.injEq] at h
      obtain ⟨rfl, rfl⟩ := h
      simp [hc]
    · simp only [splitFirst, hc, if_false] at h
      cases hr : splitFirst sep rest with
      | none => simp [hr] at h
      | some p =>
        simp only [hr, Option.some.injEq, Prod.mk.injEq] at h
        obtain ⟨rfl, rfl⟩ := h
        obtain ⟨h1, h2⟩ := ih hr
        refine ⟨by rw [List.cons_append, ← h1], ?_⟩
        simp only [List.mem_cons, not_or]
        exact ⟨fun e => hc e.symm, h2⟩

/-- The cut is at the first separator, and there is no other way to cut. -/
theorem splitFirst_eq_some {α : Type} [DecidableEq α] {sep : α} {cs before after : List α} :
    splitFirst sep cs = some (before, after) ↔
      cs = before ++ sep :: after ∧ sep ∉ before :=
  ⟨of_splitFirst, fun ⟨e, h⟩ => e ▸ splitFirst_append h after⟩

/-- There is a piece even of an empty text. -/
theorem splitAll_ne_nil {α : Type} [DecidableEq α] (sep : α) (cs : List α) :
    splitAll sep cs ≠ [] := by
  cases cs with
  | nil => simp [splitAll]
  | cons c rest =>
    by_cases hc : c = sep
    · simp [splitAll, hc]
    · simp only [splitAll, hc, if_false]
      split <;> simp

end Gatehouse.Text
