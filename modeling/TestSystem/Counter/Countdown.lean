import Mathlib

/-!
# A counter that counts down and reloads

At each clock the counter goes down by one; from zero it goes to the reload value
instead. A flag remembers that zero was reached.
-/

namespace TestSystem.Counter

/-- A counter that reloads, with the flag that it sets on its way to zero. -/
structure Countdown where
  load : ℕ
  val : ℕ
  flag : Bool
  deriving DecidableEq

namespace Countdown

/-- One clock: at zero the counter reloads, on reaching zero it sets the flag. -/
def clock (c : Countdown) : Countdown :=
  if c.val = 0 then { c with val := c.load }
  else { c with val := c.val - 1, flag := c.flag || decide (c.val = 1) }

variable {c : Countdown} {n : ℕ}

theorem clock_of_zero (zero : c.val = 0) : c.clock = { c with val := c.load } := if_pos zero

theorem clock_of_pos (pos : 0 < c.val) :
    c.clock = { c with val := c.val - 1, flag := c.flag || decide (c.val = 1) } := if_neg pos.ne'

/-- The flag is set when zero is reached, not before. -/
theorem clock_iterate (le : n ≤ c.val) :
    clock^[n] c = { c with val := c.val - n, flag := c.flag || decide (0 < n ∧ n = c.val) } := by
  induction n generalizing c with
  | zero => simp
  | succ n ih =>
    have pos : 0 < c.val := Nat.lt_of_lt_of_le (Nat.succ_pos n) le
    have le' : n ≤ c.val - 1 := Nat.le_sub_one_of_lt le
    rw [Function.iterate_succ_apply, clock_of_pos pos, ih le']
    have reached : (decide (c.val = 1) || decide (0 < n ∧ n = c.val - 1)) =
        decide (0 < n + 1 ∧ n + 1 = c.val) := by
      rw [Bool.eq_iff_iff, Bool.or_eq_true, decide_eq_true_iff, decide_eq_true_iff,
        decide_eq_true_iff]
      omega
    simp only [Bool.or_assoc, reached, Nat.sub_sub, Nat.add_comm 1 n]

/-- A counter started at zero has loaded and gone down. -/
theorem clock_iterate_of_zero (zero : c.val = 0) (pos : 0 < n) (le : n ≤ c.load + 1) :
    clock^[n] c =
      { c with val := c.load + 1 - n, flag := c.flag || decide (1 < n ∧ n = c.load + 1) } := by
  obtain ⟨n, rfl⟩ := Nat.exists_eq_succ_of_ne_zero pos.ne'
  have le' : n ≤ ({ c with val := c.load } : Countdown).val := Nat.le_of_succ_le_succ le
  rw [Function.iterate_succ_apply, clock_of_zero zero, clock_iterate le']
  simp

end Countdown

end TestSystem.Counter
