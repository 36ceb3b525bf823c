import Mathlib

/-!
# Instants read from a wrapping counter

A counter of period `P` reports an instant `t` as `t % P`. When a later reading
is above an earlier one, their difference is the elapsed time exactly if less
than one period has passed; a longer time aliases to its remainder. When the
counter wraps in less than a period, the later reading is below the earlier one
and misses one period.
-/

namespace TestSystem.Counter

variable {P a b : ℕ}

/-- Above an earlier reading, the difference of the readings misses the elapsed
time by whole periods. -/
theorem sub_eq_mul_add (le : a ≤ b) (rises : a % P < b % P) :
    b - a = P * (b / P - a / P) + (b % P - a % P) := by
  have hdiv : a / P ≤ b / P := Nat.div_le_div_right le
  have ha := Nat.div_add_mod a P
  have hb := Nat.div_add_mod b P
  have hmul : P * (b / P - a / P) + P * (a / P) = P * (b / P) := by
    rw [← Nat.mul_add, Nat.sub_add_cancel hdiv]
  omega

/-- The difference of rising readings is the elapsed time within one period only. -/
theorem reading_sub_eq_iff (pos : 0 < P) (le : a ≤ b) (rises : a % P < b % P) :
    b % P - a % P = b - a ↔ b - a < P := by
  have hsplit := sub_eq_mul_add le rises
  have hless : b % P < P := Nat.mod_lt b pos
  constructor
  · intro same
    omega
  · intro short
    -- One whole period between the readings would already exceed the elapsed time.
    have hzero : b / P - a / P = 0 := by
      by_contra hne
      have : P * 1 ≤ P * (b / P - a / P) := Nat.mul_le_mul_left P (by omega)
      omega
    rw [hzero] at hsplit
    omega

/-- Within one turn of the counter the reading rises by the elapsed time. -/
theorem reading_of_same_turn (le : a ≤ b) (same : a / P = b / P) :
    b % P = a % P + (b - a) := by
  have ha := Nat.div_add_mod a P
  have hb := Nat.div_add_mod b P
  rw [same] at ha
  omega

/-- Over one wrap of the counter the reading falls short by a period. -/
theorem reading_of_wrap (le : a ≤ b) (short : b - a < P) (wraps : a / P ≠ b / P) :
    b % P + P = a % P + (b - a) := by
  have ha := Nat.div_add_mod a P
  have hb := Nat.div_add_mod b P
  have hnext : b / P = a / P + 1 := by
    have above : b / P ≤ (a + P) / P := Nat.div_le_div_right (by omega)
    rw [Nat.add_div_right a (by omega)] at above
    have below : a / P ≤ b / P := Nat.div_le_div_right le
    omega
  rw [hnext, Nat.mul_add] at hb
  omega

end TestSystem.Counter
