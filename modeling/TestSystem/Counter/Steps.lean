import Mathlib

/-!
# The steps between instants

From a start on, a list of instants has a step to each of them. If the instants do
not fall, the steps up to an instant add up to the time since the start.
-/

namespace TestSystem.Counter

variable {instants : List ℕ} {k start t t' : ℕ}

/-- The time from the start to the first instant, and from each instant to the next. -/
def steps (start : ℕ) : List ℕ → List ℕ
  | [] => []
  | t :: instants => (t - start) :: steps t instants

theorem getElem?_steps (here : instants[k]? = some t) (next : instants[k + 1]? = some t') :
    (steps start instants)[k + 1]? = some (t' - t) := by
  induction instants generalizing start k with
  | nil => simp at here
  | cons first instants ih =>
    rw [List.getElem?_cons_succ] at next
    rw [steps, List.getElem?_cons_succ]
    cases k with
    | zero =>
      obtain rfl : first = t := by simpa using here
      cases instants with
      | nil => simp at next
      | cons second instants =>
        obtain rfl : second = t' := by simpa using next
        rfl
    | succ k =>
      rw [List.getElem?_cons_succ] at here
      exact ih here next

theorem sum_take_steps (rising : (start :: instants).IsChain (· ≤ ·))
    (here : instants[k]? = some t) : ((steps start instants).take (k + 1)).sum = t - start := by
  induction instants generalizing start k with
  | nil => simp at here
  | cons first instants ih =>
    obtain ⟨le, rising⟩ := List.isChain_cons_cons.mp rising
    rw [steps, List.take_succ_cons, List.sum_cons]
    cases k with
    | zero =>
      obtain rfl : first = t := by simpa using here
      simp
    | succ k =>
      rw [List.getElem?_cons_succ] at here
      have le' : first ≤ t := by
        have sorted := List.isChain_iff_pairwise.mp rising
        exact List.rel_of_pairwise_cons sorted (List.mem_of_getElem? here)
      rw [ih rising here]
      omega

end TestSystem.Counter
