import Mathlib

/-!
# Sequences of calls

An operation that always returns is a function of the state before it and of the
call. A property of the single call holds at every call of a sequence, in the
state that the calls before it have left.
-/

namespace TestSystem.Transition

variable {σ α : Type*} {P Q : σ → α → Prop} {apply : σ → α → σ} {s : σ} {a : α} {as : List α}

/-- `P` holds at every call of the sequence, in the state before it. -/
def AtEvery (P : σ → α → Prop) (apply : σ → α → σ) (s : σ) (as : List α) : Prop :=
  ∀ pre a post, as = pre ++ a :: post → P (pre.foldl apply s) a

theorem atEvery_nil : AtEvery P apply s [] := by
  intro pre a post split
  simp at split

theorem atEvery_cons : AtEvery P apply s (a :: as) ↔ P s a ∧ AtEvery P apply (apply s a) as := by
  constructor
  · intro every
    refine ⟨every [] a as rfl, fun pre b post split => ?_⟩
    exact every (a :: pre) b post (by rw [split]; rfl)
  · rintro ⟨head, tail⟩ pre b post split
    -- The call in question is the first, or one of the rest.
    cases pre with
    | nil =>
      obtain ⟨rfl, rfl⟩ := List.cons.inj split
      exact head
    | cons _ pre =>
      obtain ⟨rfl, rest⟩ := List.cons.inj split
      exact tail pre b post rest

/-- The condition at every call of a concrete sequence is evaluated. -/
def decidableAtEvery [∀ s a, Decidable (P s a)] :
    ∀ (s : σ) (as : List α), Decidable (AtEvery P apply s as)
  | _, [] => isTrue atEvery_nil
  | s, a :: as =>
    have := decidableAtEvery (apply s a) as
    decidable_of_iff _ atEvery_cons.symm

instance [∀ s a, Decidable (P s a)] : Decidable (AtEvery P apply s as) := decidableAtEvery s as

/-- An invariant that every call preserves holds after the sequence. -/
theorem AtEvery.foldl {I : σ → Prop} (every : AtEvery P apply s as) (start : I s)
    (preserved : ∀ {s a}, I s → P s a → I (apply s a)) : I (as.foldl apply s) := by
  induction as generalizing s with
  | nil => exact start
  | cons a as ih =>
    obtain ⟨head, tail⟩ := atEvery_cons.mp every
    exact ih tail (preserved start head)

/-- At every call the condition and an invariant may be used. -/
theorem AtEvery.imp {I : σ → Prop} (every : AtEvery P apply s as) (start : I s)
    (preserved : ∀ {s a}, I s → P s a → I (apply s a))
    (holds : ∀ {s a}, I s → P s a → Q s a) : AtEvery Q apply s as := by
  intro pre a post split
  have before : AtEvery P apply s pre := fun pre' b post' split' =>
    every pre' b (post' ++ a :: post) (by simp [split, split'])
  exact holds (before.foldl start preserved) (every pre a post split)

end TestSystem.Transition
