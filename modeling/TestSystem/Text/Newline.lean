import Mathlib

/-!
# Line ends of two characters

Before every line feed of a text a carriage return is inserted. Since nothing else
changes, the carriage return directly before each line feed is the inserted one,
and without it the text is as it was, whether it had carriage returns or not.
-/

namespace TestSystem.Text

variable {α : Type*} [DecidableEq α] {cr lf c : α} {text text' : List α}

/-- A line feed `lf` with a carriage return `cr` before it. -/
def expand (cr lf c : α) : List α := if c = lf then [cr, lf] else [c]

/-- The whole text with its line feeds expanded. -/
def expandNewlines (cr lf : α) (text : List α) : List α := text.flatMap (expand cr lf)

/-- Leaves out the carriage return directly before each line feed. -/
def contractNewlines (cr lf : α) : List α → List α
  | [] => []
  | c :: rest =>
    if c = cr ∧ rest.head? = some lf then contractNewlines cr lf rest
    else c :: contractNewlines cr lf rest

@[simp] theorem expandNewlines_nil : expandNewlines cr lf ([] : List α) = [] := rfl

@[simp] theorem expandNewlines_cons :
    expandNewlines cr lf (c :: text) = expand cr lf c ++ expandNewlines cr lf text := rfl

theorem expand_lf : expand cr lf lf = [cr, lf] := if_pos rfl

theorem expand_of_ne (other : c ≠ lf) : expand cr lf c = [c] := if_neg other

/-- No text begins with a line feed after the expansion. -/
theorem head?_expandNewlines_ne (distinct : cr ≠ lf) (text : List α) :
    (expandNewlines cr lf text).head? ≠ some lf := by
  cases text with
  | nil => simp
  | cons c text =>
    by_cases newline : c = lf
    · subst newline
      simp [expand_lf, distinct]
    · simp [expand_of_ne newline, newline]

/-- The expansion is undone. -/
theorem contractNewlines_expandNewlines (distinct : cr ≠ lf) (text : List α) :
    contractNewlines cr lf (expandNewlines cr lf text) = text := by
  induction text with
  | nil => rfl
  | cons c text ih =>
    have first := head?_expandNewlines_ne distinct text
    by_cases newline : c = lf
    · subst newline
      rw [expandNewlines_cons, expand_lf]
      simp only [List.cons_append, List.nil_append, contractNewlines, List.head?_cons, and_self,
        if_true, first, and_false, if_false, ih]
    · -- A carriage return of the text itself is not followed by a line feed.
      rw [expandNewlines_cons, expand_of_ne newline]
      simp only [List.singleton_append, contractNewlines, first, and_false, if_false, ih]

theorem expandNewlines_inj (distinct : cr ≠ lf) :
    expandNewlines cr lf text = expandNewlines cr lf text' ↔ text = text' := by
  constructor
  · intro same
    rw [← contractNewlines_expandNewlines distinct text, same,
      contractNewlines_expandNewlines distinct]
  · rintro rfl
    rfl

end TestSystem.Text
