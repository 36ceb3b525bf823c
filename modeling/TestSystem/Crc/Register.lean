import Mathlib

/-!
# Cyclic redundancy checks, one bit at a time

A register of `w` bits takes in one bit of the message after another, the most
significant bit first: it is shifted to the left, and the generator, without its
leading term, is added if the bit shifted out differs from the bit of the message.

The register is linear over the field of two elements, so what is in it can be
moved into the message: a register that takes in at least `w` bits ends where the
empty register ends after the sum of the bits and its own.
-/

namespace TestSystem.Crc

variable {w n : ℕ}

/-- One bit of the message. -/
def bitStep (generator register : BitVec w) (bit : Bool) : BitVec w :=
  if register.msb ^^ bit then register <<< 1 ^^^ generator else register <<< 1

/-- The register after the bits, in order. -/
def run (generator register : BitVec w) (bits : List Bool) : BitVec w :=
  bits.foldl (bitStep generator) register

/-- The bits of a word, the most significant first. -/
def msbFirst (x : BitVec n) : List Bool := (List.range n).map x.getMsbD

variable {generator register register' : BitVec w} {bit bit' : Bool} {b b' : ℕ → Bool}

@[simp] theorem run_nil : run generator register [] = register := rfl

@[simp] theorem run_append (bits bits' : List Bool) :
    run generator register (bits ++ bits') = run generator (run generator register bits) bits' :=
  List.foldl_append

/-- The first `n` bits of a sequence. -/
theorem run_map_range_succ (b : ℕ → Bool) (n : ℕ) :
    run generator register ((List.range (n + 1)).map b) =
      bitStep generator (run generator register ((List.range n).map b)) (b n) := by
  rw [List.range_succ, List.map_append, run_append]
  rfl

/-! ## Linearity -/

theorem bitStep_xor :
    bitStep generator (register ^^^ register') (bit ^^ bit') =
      bitStep generator register bit ^^^ bitStep generator register' bit' := by
  have assoc : ((register ^^^ register').msb ^^ (bit ^^ bit')) =
      ((register.msb ^^ bit) ^^ (register'.msb ^^ bit')) := by
    rw [BitVec.msb_xor]
    cases register.msb <;> cases register'.msb <;> cases bit <;> cases bit' <;> rfl
  unfold bitStep
  rw [assoc, BitVec.shiftLeft_xor_distrib]
  cases register.msb ^^ bit with
  | false =>
    cases register'.msb ^^ bit' with
    | false => rfl
    | true => exact BitVec.xor_assoc _ _ _
  | true =>
    cases register'.msb ^^ bit' with
    | false =>
      have regroup : register <<< 1 ^^^ register' <<< 1 ^^^ generator =
          register <<< 1 ^^^ generator ^^^ register' <<< 1 := by ac_rfl
      exact regroup
    | true =>
      -- The generator is added twice and cancels.
      have regroup : register <<< 1 ^^^ generator ^^^ (register' <<< 1 ^^^ generator) =
          register <<< 1 ^^^ register' <<< 1 ^^^ (generator ^^^ generator) := by ac_rfl
      simp [regroup]

theorem run_xor (n : ℕ) :
    run generator (register ^^^ register') ((List.range n).map fun i => b i ^^ b' i) =
      run generator register ((List.range n).map b) ^^^
        run generator register' ((List.range n).map b') := by
  induction n with
  | zero => rfl
  | succ n ih => rw [run_map_range_succ, run_map_range_succ, run_map_range_succ, ih, bitStep_xor]

/-- A register that takes in its own bits is shifted out. -/
theorem run_own (n : ℕ) :
    run generator register ((List.range n).map register.getMsbD) = register <<< n := by
  induction n with
  | zero => simp
  | succ n ih =>
    have out : (register <<< n).msb = register.getMsbD n := by
      rw [BitVec.msb_eq_getMsbD_zero, BitVec.getMsbD_shiftLeft]
      simp
    -- The bit shifted out is the bit taken in, so the generator is not added.
    rw [run_map_range_succ, ih, bitStep, out, Bool.xor_self, BitVec.shiftLeft_add]
    rfl

/-- What is in the register is moved into the message. -/
theorem run_eq_run_zero (wide : w ≤ n) (b : ℕ → Bool) :
    run generator register ((List.range n).map b) =
      run generator 0 ((List.range n).map fun i => register.getMsbD i ^^ b i) := by
  have cleared : run generator register ((List.range n).map register.getMsbD) = 0#w := by
    rw [run_own, BitVec.shiftLeft_eq_zero wide]
  have sum : run generator (register ^^^ register)
      ((List.range n).map fun i => register.getMsbD i ^^ b i) =
        run generator register ((List.range n).map register.getMsbD) ^^^
          run generator register ((List.range n).map b) := run_xor n
  rw [cleared, BitVec.xor_self, BitVec.zero_xor] at sum
  exact sum.symm

end TestSystem.Crc
