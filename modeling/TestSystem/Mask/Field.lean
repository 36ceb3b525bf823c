import Mathlib.Data.Nat.Bitwise

/-!
# Fields of a word

A mask of adjacent ones picks a field out of a word: the digits that are left when the
ones below are divided off and the ones above cut off.
-/

namespace TestSystem.Mask

/-- The field in its place within the word. -/
theorem toNat_and_field {n low width : ℕ} {mask : BitVec n}
    (ones : mask.toNat = (2 ^ width - 1) * 2 ^ low) (x : BitVec n) :
    (x &&& mask).toNat = x.toNat / 2 ^ low % 2 ^ width * 2 ^ low := by
  rw [BitVec.toNat_and, ones]
  apply Nat.eq_of_testBit_eq
  intro i
  rw [Nat.testBit_and, Nat.testBit_mul_two_pow, Nat.testBit_mul_two_pow,
    Nat.testBit_two_pow_sub_one, Nat.testBit_mod_two_pow, Nat.testBit_div_two_pow]
  by_cases inside : low ≤ i
  · rw [Nat.sub_add_cancel inside]
    simp [inside, Bool.and_comm]
  · simp [inside]

end TestSystem.Mask
