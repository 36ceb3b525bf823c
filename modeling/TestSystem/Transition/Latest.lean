import Mathlib

/-!
# The latest event that meets a condition

A condition on an event may depend on the events before it. The latest event
that meets it splits a history into what came before and what followed, where
nothing that followed meets the condition. Reading the history event by event,
the split moves to a new event that meets the condition and otherwise only its
last part grows.
-/

namespace TestSystem.Transition

variable {ε : Type*} {P : List ε → ε → Prop} {es pre post : List ε} {a e : ε}

/-- `a` is the latest event of `es` that meets `P`, with `pre` before it and
`post` after it. -/
structure Latest (P : List ε → ε → Prop) (es pre : List ε) (a : ε) (post : List ε) : Prop where
  split : es = pre ++ a :: post
  meets : P pre a
  none_later : ∀ pre' a' post', post = pre' ++ a' :: post' → ¬ P (pre ++ a :: pre') a'

theorem not_latest_nil : ¬ Latest P [] pre a post := fun h => by simpa using h.split

/-- An event of a history that ends with `e` is `e` itself or comes before it. -/
theorem append_singleton_eq_iff :
    es ++ [e] = pre ++ a :: post ↔
      es = pre ∧ e = a ∧ post = [] ∨ ∃ post', post = post' ++ [e] ∧ es = pre ++ a :: post' := by
  constructor
  · intro split
    rcases List.eq_nil_or_concat post with rfl | ⟨post', e', rfl⟩
    · obtain ⟨rfl, last⟩ := List.append_inj' split rfl
      exact .inl ⟨rfl, List.singleton_inj.mp last, rfl⟩
    · have split' : es ++ [e] = (pre ++ a :: post') ++ [e'] := by simpa using split
      obtain ⟨rfl, last⟩ := List.append_inj' split' rfl
      obtain rfl := List.singleton_inj.mp last
      exact .inr ⟨post', by simp, rfl⟩
  · rintro (⟨rfl, rfl, rfl⟩ | ⟨post', rfl, rfl⟩)
    · rfl
    · simp

/-- A new event that meets the condition is the latest. -/
theorem latest_append_of_meets (meets : P es e) :
    Latest P (es ++ [e]) pre a post ↔ pre = es ∧ a = e ∧ post = [] := by
  constructor
  · intro h
    rcases append_singleton_eq_iff.mp h.split with ⟨rfl, rfl, rfl⟩ | ⟨post', rfl, rfl⟩
    · exact ⟨rfl, rfl, rfl⟩
    · -- An older event would not be the latest: `e` meets the condition after it.
      exact absurd meets (h.none_later post' e [] (by simp))
  · rintro ⟨rfl, rfl, rfl⟩
    exact ⟨rfl, meets, by simp⟩

/-- A new event that does not meet the condition only follows the latest. -/
theorem latest_append_of_not_meets (misses : ¬ P es e) :
    Latest P (es ++ [e]) pre a post ↔ ∃ post', post = post' ++ [e] ∧ Latest P es pre a post' := by
  constructor
  · intro h
    rcases append_singleton_eq_iff.mp h.split with ⟨rfl, rfl, rfl⟩ | ⟨post', rfl, rfl⟩
    · exact absurd h.meets misses
    · refine ⟨post', rfl, rfl, h.meets, ?_⟩
      rintro pre' a' post'' rfl
      exact h.none_later pre' a' (post'' ++ [e]) (by simp)
  · rintro ⟨post', rfl, h⟩
    refine ⟨by simp [h.split], h.meets, ?_⟩
    intro pre' a' post'' hpost
    rcases append_singleton_eq_iff.mp hpost with ⟨rfl, rfl, rfl⟩ | ⟨post₃, rfl, rfl⟩
    · rwa [← h.split]
    · exact h.none_later pre' a' post₃ rfl

end TestSystem.Transition
