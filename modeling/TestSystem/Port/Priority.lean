import TestSystem.Mask.Field
import Mathlib

/-!
# Interrupt priorities

A Cortex-M processor implements some number of the upper bits of each priority, a
lower value being more urgent, and splits them into those that decide about
preemption and a subpriority. `xPortStartScheduler` finds out how many bits there are
from what sticks in a register, and `vPortValidateInterruptPriority` checks each
interrupt that calls the kernel.

The check accepts an interrupt exactly when a critical section keeps it out and all
priorities differ in their preemption, if the configured bound has an implemented bit.
When all eight bits are implemented the bound on the split has wrapped around and says
nothing.
-/

namespace TestSystem.Port

open TestSystem.Mask

/-! ## The processor -/

/-- The bits of a priority that stick, of `b` implemented ones. -/
def implemented (b : ℕ) : BitVec 8 := 0xff#8 <<< (8 - b)

/-- What is read back of a priority that is written. -/
def readBack (b : ℕ) (v : BitVec 8) : BitVec 8 := v &&& implemented b

/-- The field `PRIGROUP` of the register `AIRCR`. -/
def prigroup (aircr : BitVec 32) : ℕ := aircr.toNat / 2 ^ 8 % 2 ^ 3

/-- The part of a priority that decides about preemption. -/
def preemption (aircr : BitVec 32) (priority : BitVec 8) : ℕ :=
  priority.toNat / 2 ^ (prigroup aircr + 1)

/-- An interrupt that `BASEPRI` keeps out. -/
def Masked (aircr : BitVec 32) (basepri priority : BitVec 8) : Prop :=
  basepri ≠ 0#8 ∧ preemption aircr basepri ≤ preemption aircr priority

/-- Different priorities differ in their preemption: there is no subpriority. -/
def AllPreempt (b : ℕ) (aircr : BitVec 32) : Prop :=
  ∀ p q, preemption aircr (readBack b p) = preemption aircr (readBack b q) →
    readBack b p = readBack b q

/-! ## The source -/

theorem shiftLeft_one_lt {v : BitVec 8} (top : v &&& 0x80#8 = 0x80#8) :
    (v <<< 1).toNat < v.toNat := by
  have table : ∀ v : BitVec 8, v &&& 0x80#8 = 0x80#8 → (v <<< 1).toNat < v.toNat := by
    decide +kernel
  exact table v top

/-- The loop that counts the bits down from `portMAX_PRIGROUP_BITS`. -/
def countPriorityBits (ucMaxPriorityValue : BitVec 8) (ulMaxPRIGROUPValue : BitVec 32) :
    BitVec 32 :=
  if _top : ucMaxPriorityValue &&& 0x80#8 = 0x80#8 then
    countPriorityBits (ucMaxPriorityValue <<< 1) (ulMaxPRIGROUPValue - 1)
  else ulMaxPRIGROUPValue
termination_by ucMaxPriorityValue.toNat
decreasing_by exact shiftLeft_one_lt _top

/-- What the scheduler has found out about the processor, with the register it wrote
to. -/
structure Probe where
  firstUserPriority : BitVec 8
  ucMaxSysCallPriority : BitVec 8
  ulMaxPRIGROUPValue : BitVec 32

/-- The block under `CONFIG_ASSERT_DEFINED` of `xPortStartScheduler`, on a processor
with `b` bits; `config` is `CONFIG_MAX_SYSCALL_INTERRUPT_PRIORITY`. -/
def probePriorities (b : ℕ) (config firstUserPriority : BitVec 8) : Probe :=
  let ulOriginalPriority := firstUserPriority
  let ucMaxPriorityValue := readBack b 0xff#8
  let ulMaxPRIGROUPValue := countPriorityBits ucMaxPriorityValue 7#32
  { firstUserPriority := readBack b ulOriginalPriority
    ucMaxSysCallPriority := config &&& ucMaxPriorityValue
    ulMaxPRIGROUPValue := (ulMaxPRIGROUPValue <<< 8) &&& 0x700#32 }

/-- Both assertions of `vPortValidateInterruptPriority` hold for the exception `ipsr`
with its priority. -/
def vPortValidateInterruptPriority (probe : Probe) (aircr : BitVec 32) (ipsr : ℕ)
    (ucCurrentPriority : BitVec 8) : Bool :=
  (ipsr < 16 || decide (probe.ucMaxSysCallPriority ≤ ucCurrentPriority)) &&
    decide (aircr &&& 0x700#32 ≤ probe.ulMaxPRIGROUPValue)

variable {b : ℕ} {aircr : BitVec 32}

/-! ## The number of bits -/

theorem countPriorityBits_implemented (small : b ≤ 8) (v : BitVec 32) :
    countPriorityBits (implemented b) v = v - BitVec.ofNat 32 b := by
  induction b generalizing v with
  | zero =>
    rw [countPriorityBits]
    simp [implemented]
  | succ b ih =>
    have shape : ∀ b < 8, implemented (b + 1) &&& 0x80#8 = 0x80#8 ∧
        implemented (b + 1) <<< 1 = implemented b := by decide
    obtain ⟨top, shifted⟩ := shape b small
    rw [countPriorityBits, dif_pos top, shifted, ih (Nat.le_of_succ_le small)]
    bv_omega

theorem readBack_ff (b : ℕ) : readBack b 0xff#8 = implemented b := by
  have ones : 0xff#8 = BitVec.allOnes 8 := by decide
  rw [readBack, ones, BitVec.allOnes_and]

/-- The bound on the split that the scheduler computes. -/
theorem ulMaxPRIGROUPValue_eq (small : b ≤ 8) (config r : BitVec 8) :
    (probePriorities b config r).ulMaxPRIGROUPValue.toNat =
      if b = 8 then 0x700 else (7 - b) * 2 ^ 8 := by
  have table : ∀ b ≤ 8, (((7#32 - BitVec.ofNat 32 b) <<< 8) &&& 0x700#32).toNat =
      if b = 8 then 0x700 else (7 - b) * 2 ^ 8 := by decide
  simp only [probePriorities, readBack_ff, countPriorityBits_implemented small]
  exact table b small

/-! ## The split -/

theorem toNat_readBack (small : b ≤ 8) (p : BitVec 8) :
    (readBack b p).toNat = p.toNat / 2 ^ (8 - b) * 2 ^ (8 - b) := by
  have table : ∀ b ≤ 8, ∀ p : BitVec 8,
      (readBack b p).toNat = p.toNat / 2 ^ (8 - b) * 2 ^ (8 - b) := by
    decide +kernel
  exact table b small p

/-- With all bits implemented every priority sticks. -/
theorem readBack_eight (p : BitVec 8) : readBack 8 p = p := by
  apply BitVec.eq_of_toNat_eq
  rw [toNat_readBack le_rfl]
  simp

theorem readBack_readBack (b : ℕ) (p : BitVec 8) : readBack b (readBack b p) = readBack b p := by
  rw [readBack, readBack, BitVec.and_assoc, BitVec.and_self]

/-- The field in its place within the register. -/
theorem toNat_and_group (aircr : BitVec 32) :
    (aircr &&& 0x700#32).toNat = prigroup aircr * 2 ^ 8 :=
  toNat_and_field (by decide : (0x700#32).toNat = (2 ^ 3 - 1) * 2 ^ 8) aircr

/-- With room below the lowest implemented bit the split is above it. -/
theorem preemption_readBack (small : b ≤ 8) (room : prigroup aircr + 1 ≤ 8 - b) (p : BitVec 8) :
    preemption aircr (readBack b p) =
      p.toNat / 2 ^ (8 - b) * 2 ^ (8 - b - (prigroup aircr + 1)) := by
  have split : 2 ^ (8 - b) =
      2 ^ (8 - b - (prigroup aircr + 1)) * 2 ^ (prigroup aircr + 1) := by
    rw [← pow_add, Nat.sub_add_cancel room]
  rw [preemption, toNat_readBack small]
  nth_rewrite 2 [split]
  rw [← Nat.mul_assoc, Nat.mul_div_cancel _ (Nat.two_pow_pos _)]

theorem preemption_le_iff (small : b ≤ 8) (room : prigroup aircr + 1 ≤ 8 - b)
    (p q : BitVec 8) :
    preemption aircr (readBack b p) ≤ preemption aircr (readBack b q) ↔
      readBack b p ≤ readBack b q := by
  rw [preemption_readBack small room, preemption_readBack small room, BitVec.le_def,
    toNat_readBack small, toNat_readBack small, Nat.mul_le_mul_right_iff (Nat.two_pow_pos _),
    Nat.mul_le_mul_right_iff (Nat.two_pow_pos _)]

theorem allPreempt_iff (pos : 1 ≤ b) (small : b ≤ 8) :
    AllPreempt b aircr ↔ prigroup aircr + 1 ≤ 8 - b := by
  constructor
  · intro all
    by_contra narrow
    -- The lowest implemented bit and nothing at all preempt alike.
    have bit : ∀ b ≤ 8, 1 ≤ b → (readBack b (BitVec.ofNat 8 (2 ^ (8 - b)))).toNat =
        2 ^ (8 - b) ∧ (readBack b 0#8).toNat = 0 := by decide
    obtain ⟨lowest, none⟩ := bit b small pos
    have wide : 2 ^ (8 - b) < 2 ^ (prigroup aircr + 1) :=
      Nat.pow_lt_pow_right (by decide) (by omega)
    have alike : preemption aircr (readBack b (BitVec.ofNat 8 (2 ^ (8 - b)))) =
        preemption aircr (readBack b 0#8) := by
      rw [preemption, preemption, lowest, none, Nat.div_eq_of_lt wide, Nat.zero_div]
    have same := congrArg BitVec.toNat (all _ _ alike)
    rw [lowest, none] at same
    exact (Nat.two_pow_pos _).ne' same
  · intro room p q same
    apply BitVec.le_antisymm
    · exact (preemption_le_iff small room p q).mp same.le
    · exact (preemption_le_iff small room q p).mp same.ge

/-! ## The check -/

theorem vPortValidateInterruptPriority_iff (small : b ≤ 8) (config r p : BitVec 8)
    (aircr : BitVec 32) (ipsr : ℕ) :
    vPortValidateInterruptPriority (probePriorities b config r) aircr ipsr p = true ↔
      (16 ≤ ipsr → readBack b config ≤ p) ∧
        prigroup aircr * 2 ^ 8 ≤ if b = 8 then 0x700 else (7 - b) * 2 ^ 8 := by
  have bound : (probePriorities b config r).ucMaxSysCallPriority = readBack b config := by
    simp only [probePriorities, readBack_ff]
    rfl
  rw [vPortValidateInterruptPriority, Bool.and_eq_true, Bool.or_eq_true, decide_eq_true_iff,
    decide_eq_true_iff, decide_eq_true_iff, bound, BitVec.le_def (x := aircr &&& 0x700#32),
    toNat_and_group, ulMaxPRIGROUPValue_eq small, ← not_le, ← imp_iff_not_or]

/-- **The check.** If a bit of the configured bound is implemented, an interrupt passes
exactly when all priorities preempt and a critical section keeps the interrupt out; if none
is, no interrupt is kept out and the priority goes unchecked. With all eight bits
implemented the split goes unchecked, although no split leaves all priorities apart. The
register that was written to find out is restored. -/
theorem validate_iff_masked (pos : 1 ≤ b) (small : b ≤ 8) (config r p : BitVec 8)
    (aircr : BitVec 32) (ipsr : ℕ) :
    (b ≤ 7 → readBack b config ≠ 0#8 →
      (vPortValidateInterruptPriority (probePriorities b config r) aircr ipsr (readBack b p) =
        true ↔
      AllPreempt b aircr ∧ (16 ≤ ipsr → Masked aircr (readBack b config) (readBack b p)))) ∧
    (b ≤ 7 → readBack b config = 0#8 →
      (vPortValidateInterruptPriority (probePriorities b config r) aircr ipsr (readBack b p) =
        true ↔ AllPreempt b aircr) ∧ ¬ Masked aircr (readBack b config) (readBack b p)) ∧
    (b = 8 → ¬ AllPreempt b aircr ∧
      (vPortValidateInterruptPriority (probePriorities b config r) aircr ipsr (readBack b p) =
        true ↔ (16 ≤ ipsr → config ≤ p))) ∧
    (probePriorities b config (readBack b r)).firstUserPriority = readBack b r := by
  have split (seven : b ≤ 7) :
      prigroup aircr * 2 ^ 8 ≤ (if b = 8 then 0x700 else (7 - b) * 2 ^ 8) ↔
        AllPreempt b aircr := by
    rw [allPreempt_iff pos small, if_neg (by omega)]
    omega
  refine ⟨fun seven used => ?_, fun seven unused => ⟨?_, ?_⟩, ?_, ?_⟩
  · rw [vPortValidateInterruptPriority_iff small, split seven, and_comm]
    -- Where all priorities preempt, comparing them is comparing what masks.
    refine and_congr_right fun all => imp_congr_right fun _ => ?_
    have room := (allPreempt_iff pos small).mp all
    rw [Masked, preemption_le_iff small room]
    exact (and_iff_right used).symm
  · rw [vPortValidateInterruptPriority_iff small, split seven, unused]
    exact and_iff_right fun _ => by simp [BitVec.le_def]
  · exact fun masked => masked.1 unused
  · rintro rfl
    constructor
    · rw [allPreempt_iff pos small]
      omega
    -- The bound is the whole field, so it excludes nothing.
    · have any : prigroup aircr * 2 ^ 8 ≤ 0x700 := by
        have field : prigroup aircr < 2 ^ 3 := Nat.mod_lt _ (Nat.two_pow_pos 3)
        omega
      rw [vPortValidateInterruptPriority_iff le_rfl, readBack_eight, readBack_eight, if_pos rfl]
      exact and_iff_left any
  · exact readBack_readBack b r

/-- Four bits as on this processor, the configured bound 0x20 and no subpriority. -/
theorem validate_iff_masked_four :
    vPortValidateInterruptPriority (probePriorities 4 0x20#8 0#8) 0x300#32 30 (readBack 4 0x10#8) =
        true ↔
      AllPreempt 4 0x300#32 ∧
        (16 ≤ 30 → Masked 0x300#32 (readBack 4 0x20#8) (readBack 4 0x10#8)) :=
  (validate_iff_masked (by decide) (by decide) 0x20#8 0#8 0x10#8 0x300#32 30).1 (by decide)
    (by decide)

end TestSystem.Port
