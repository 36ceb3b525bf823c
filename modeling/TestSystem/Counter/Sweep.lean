import Mathlib

/-!
# Sweeps between two ends

A sweep goes up `n` steps, down `n` steps, and up again. After `k` steps from the lower
end its height is a triangle wave of period `2 n`; it turns where the height is `0` or
`n`.
-/

namespace TestSystem.Counter

variable {n k : ℕ}

/-- A place within a period goes on by one or starts again. -/
theorem succ_mod_eq_ite {P : ℕ} (pos : 0 < P) (k : ℕ) :
    (k + 1) % P = if k % P + 1 = P then 0 else k % P + 1 := by
  have below : k % P < P := Nat.mod_lt k pos
  rw [← Nat.mod_add_mod]
  split
  case isTrue whole => rw [whole, Nat.mod_self]
  case isFalse inside => exact Nat.mod_eq_of_lt (by omega)

/-- The steps since the sweep was last at the lower end. -/
def phase (n k : ℕ) : ℕ := k % (2 * n)

/-- The height of the sweep after `k` steps. -/
def height (n k : ℕ) : ℕ := min (phase n k) (2 * n - phase n k)

/-- The next step goes up. -/
def Rising (n k : ℕ) : Prop := phase n k < n

instance : Decidable (Rising n k) := inferInstanceAs (Decidable (_ < _))

theorem phase_lt (pos : 0 < n) : phase n k < 2 * n := Nat.mod_lt k (Nat.mul_pos Nat.two_pos pos)

theorem phase_succ (pos : 0 < n) :
    phase n (k + 1) = if phase n k + 1 = 2 * n then 0 else phase n k + 1 :=
  succ_mod_eq_ite (Nat.mul_pos Nat.two_pos pos) k

theorem height_le (n k : ℕ) : height n k ≤ n := by
  unfold height
  omega

/-- After a whole sweep up and down the height is as before. -/
theorem periodic_height (n : ℕ) : Function.Periodic (height n) (2 * n) := by
  intro k
  simp [height, phase]

theorem height_succ_of_rising (rising : Rising n k) : height n (k + 1) = height n k + 1 := by
  unfold Rising at rising
  have pos : 0 < n := by omega
  have next := phase_succ (k := k) pos
  rw [if_neg (by omega)] at next
  unfold height
  omega

theorem height_succ_of_falling (pos : 0 < n) (falling : ¬ Rising n k) :
    height n (k + 1) + 1 = height n k := by
  unfold Rising at falling
  have below := phase_lt (k := k) pos
  have next := phase_succ (k := k) pos
  unfold height
  split at next <;> omega

/-- The sweep turns at its ends and nowhere else. -/
theorem rising_succ_iff (pos : 0 < n) :
    Rising n (k + 1) ↔
      (Rising n k ∧ height n (k + 1) ≠ n) ∨ (¬ Rising n k ∧ height n (k + 1) = 0) := by
  have below := phase_lt (k := k) pos
  have next := phase_succ (k := k) pos
  unfold height Rising
  split at next <;> omega

/-- The ends are met every `n` steps. -/
theorem at_end_iff (pos : 0 < n) : height n k = 0 ∨ height n k = n ↔ n ∣ k := by
  have below := phase_lt (k := k) pos
  have rest : phase n k % n = k % n := Nat.mod_mod_of_dvd k ⟨2, Nat.mul_comm 2 n⟩
  have ends : height n k = 0 ∨ height n k = n ↔ phase n k = 0 ∨ phase n k = n := by
    unfold height
    omega
  rw [ends, Nat.dvd_iff_mod_eq_zero, ← rest]
  constructor
  · rintro (zero | top)
    · rw [zero, Nat.zero_mod]
    · rw [top, Nat.mod_self]
  · intro whole
    by_cases zero : phase n k = 0
    · exact .inl zero
    · exact .inr (Nat.eq_of_dvd_of_lt_two_mul zero (Nat.dvd_of_mod_eq_zero whole) below)

end TestSystem.Counter
