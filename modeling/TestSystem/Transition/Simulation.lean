import TestSystem.Transition.Run

/-!
# Simulation

A relation between the states of two systems such that the second matches each step
of the first with a run of its own. Then it matches whole runs, and what is known of
its runs carries over.
-/

namespace TestSystem.Transition

variable {σ τ α β : Type*} {step : σ → α → Option σ} {step' : τ → β → Option τ}
  {R : σ → τ → Prop} {f : α → List β} {s t : σ} {x : τ} {as : List α}

/-- The second system goes along `f a` for each label `a` of the first. -/
theorem Run.simulate (run : Run step s as t) (start : R s x)
    (matched : ∀ s x a t, R s x → step s a = some t → ∃ y, Run step' x (f a) y ∧ R t y) :
    ∃ y, Run step' x (as.flatMap f) y ∧ R t y := by
  induction run with
  | nil => exact ⟨x, .nil, start⟩
  | snoc _ enabled ih =>
    obtain ⟨y, prior, related⟩ := ih
    obtain ⟨z, last, related'⟩ := matched _ y _ _ related enabled
    refine ⟨z, ?_, related'⟩
    rw [List.flatMap_append, List.flatMap_singleton]
    exact prior.append last

/-- The second system takes the same labels, under a condition on the state of the first
before each step. -/
theorem Run.simulate_along {C : σ → α → Prop} {step' : τ → α → Option τ} (run : Run step s as t)
    (guarded : Along C step s as) (start : R s x)
    (matched : ∀ s x a t, C s a → R s x → step s a = some t → ∃ y, step' x a = some y ∧ R t y) :
    ∃ y, Run step' x as y ∧ R t y := by
  induction run with
  | nil => exact ⟨x, .nil, start⟩
  | snoc prior enabled ih =>
    obtain ⟨before, last⟩ := (along_append_singleton prior).mp guarded
    obtain ⟨y, prior', related⟩ := ih before
    obtain ⟨z, enabled', related'⟩ := matched _ y _ _ last related enabled
    exact ⟨z, prior'.snoc enabled', related'⟩

end TestSystem.Transition
