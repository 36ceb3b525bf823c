import Mathlib

/-!
# The bits of a mask

A loop that tests the lowest bit of a mask and shifts it to the right, until
nothing is left, comes to the bits that are set in increasing order, and to no
others.
-/

namespace TestSystem.Mask

variable {w : ℕ} {m : BitVec w} {i : ℕ}

/-- The positions of the bits that are set, in increasing order. -/
def positions (m : BitVec w) : List ℕ := (List.range w).filter fun i => m.getLsbD i

theorem mem_positions : i ∈ positions m ↔ m.getLsbD i := by
  rw [positions, List.mem_filter, List.mem_range]
  exact and_iff_right_of_imp BitVec.lt_of_getLsbD

@[simp] theorem positions_zero : positions 0#w = [] := by
  simp [positions]

/-- The test of the lowest bit. -/
theorem and_one_ne_zero_iff : m &&& 1 ≠ 0 ↔ m.getLsbD 0 := by
  constructor
  · intro nonzero
    by_contra clear
    apply nonzero
    apply BitVec.eq_of_getLsbD_eq
    intro i _
    by_cases lowest : i = 0
    · subst lowest
      simp [clear]
    · simp [lowest]
  · intro set zero
    have wide : 0 < w := BitVec.lt_of_getLsbD set
    have bit : (m &&& 1).getLsbD 0 = true := by
      rw [BitVec.getLsbD_and, set]
      simp [wide]
    rw [zero] at bit
    simp at bit

/-- Position 0 if it is set, and then the positions of what is left after a shift. -/
theorem positions_eq_append (m : BitVec w) :
    positions m = (if m.getLsbD 0 then [0] else []) ++ (positions (m >>> 1)).map (· + 1) := by
  cases w with
  | zero => simp [positions]
  | succ n =>
    have top : (m >>> 1).getLsbD n = false := by simp
    have shifted : positions (m >>> 1) = (List.range n).filter fun i => m.getLsbD (i + 1) := by
      rw [positions, List.range_succ, List.filter_append, List.filter_singleton, top]
      simp [Nat.add_comm]
    rw [shifted, positions, List.range_succ_eq_map, List.filter_cons, List.filter_map]
    split
    · rfl
    · rfl

/-- The shift makes a mask smaller, so the loop ends. -/
theorem toNat_shiftRight_one_lt (h : m ≠ 0) : (m >>> 1).toNat < m.toNat := by
  have pos : m.toNat ≠ 0 := fun zero => h (BitVec.eq_of_toNat_eq zero)
  rw [BitVec.toNat_ushiftRight, Nat.shiftRight_eq_div_pow]
  omega

end TestSystem.Mask
