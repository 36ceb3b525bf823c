import Mathlib

/-!
# Unions of masks

The bitwise OR of a list of masks has exactly the bits that some mask of the
list has. A mask that is moved from one list to another, or between a list and
a variable, leaves the union of all of them.
-/

namespace TestSystem.Mask

variable {w : ℕ} {m : BitVec w} {ms : List (BitVec w)} {i : ℕ}

/-- The bitwise OR of all masks. -/
def union (ms : List (BitVec w)) : BitVec w := ms.foldr (· ||| ·) 0

@[simp] theorem union_nil : union ([] : List (BitVec w)) = 0 := rfl

@[simp] theorem union_cons : union (m :: ms) = m ||| union ms := rfl

@[simp] theorem union_append_singleton : union (ms ++ [m]) = union ms ||| m := by
  induction ms with
  | nil => simp
  | cons first ms ih => simp [ih, BitVec.or_assoc]

theorem getLsbD_union : (union ms).getLsbD i ↔ ∃ m ∈ ms, m.getLsbD i := by
  induction ms with
  | nil => simp
  | cons first ms ih => simp [ih]

/-- A mask whose union is part of another has its bits from there. -/
theorem exists_mem_of_union_or {ms' : List (BitVec w)} {rest : BitVec w}
    (whole : union ms' = union ms ||| rest) (member : m ∈ ms) (set : m.getLsbD i) :
    ∃ m' ∈ ms', m'.getLsbD i := by
  have inUnion : (union ms).getLsbD i := getLsbD_union.mpr ⟨m, member, set⟩
  apply getLsbD_union.mp
  rw [whole, BitVec.getLsbD_or, inUnion, Bool.true_or]

end TestSystem.Mask
