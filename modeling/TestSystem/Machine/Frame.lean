import TestSystem.Machine.Memory

/-!
# The frame of an exception

A processor of the ARMv7-M profile keeps eight words on the stack while it handles
an exception: `r0` to `r3`, `r12`, `lr`, the return address and the status word.
The frame starts at a multiple of eight, and bit 9 of the stacked status word says
whether four bytes were skipped to get there. What is stacked is taken back
whatever lies around it, if the frame is still in the memory and the handler has
left the other registers as they were.
-/

namespace TestSystem.Machine

/-- The registers apart from the stack pointer and the program counter. -/
inductive Reg
  | r0 | r1 | r2 | r3 | r4 | r5 | r6 | r7 | r8 | r9 | r10 | r11 | r12 | lr
  deriving DecidableEq

/-- What interrupted code goes on with. -/
@[ext]
structure Context where
  reg : Reg → Word
  pc : Word
  xpsr : Word
  sp : Word

/-- The registers that an exception stacks, the lowest address first. -/
def stacked : List Reg := [.r0, .r1, .r2, .r3, .r12, .lr]

/-- Bit 9 of a stacked status word. -/
def skipBit : Word := BitVec.twoPow 32 9

/-- The four bytes that lead from a stack pointer down to a multiple of eight. -/
def skipped (sp : Word) : Word := sp &&& BitVec.twoPow 32 2

/-- Where the frame of an exception lies, eight bytes aligned. -/
def framePointer (sp : Word) : Word := (sp &&& ~~~BitVec.twoPow 32 2) - 32

namespace Context

/-- The status word in the frame; one bit of it keeps whether a word was skipped. -/
def stackedPsr (x : Context) : Word :=
  (x.xpsr &&& ~~~skipBit) ||| if skipped x.sp = 0#32 then 0#32 else skipBit

/-- The eight words that the processor stacks. -/
def frame (x : Context) : List Word := stacked.map x.reg ++ [x.pc, x.stackedPsr]

/-- The context in the frame `words` at `a`; the registers that are not stacked are
those of the handler. -/
def unstack (reg : Reg → Word) (a : Word) (words : List Word) : Context where
  reg := setAll reg stacked words
  pc := words.getD 6 0#32
  xpsr := words.getD 7 0#32 &&& ~~~skipBit
  sp := (a + 32) ||| if words.getD 7 0#32 &&& skipBit = 0#32 then 0#32 else 4#32

/-- Bit 9 of the status word itself is reserved and never set. -/
def Plain (x : Context) : Prop := x.xpsr &&& skipBit = 0#32

end Context

variable {sp a b : Word} {x : Context} {reg : Reg → Word} {m m' : Memory}

/-! ## The place of the frame -/

theorem and_not_add_and (a b : Word) : (a &&& ~~~b) + (a &&& b) = a := by
  have apart : (a &&& ~~~b) &&& (a &&& b) = 0#32 := by
    ext i _
    simp only [BitVec.getElem_and, BitVec.getElem_not, BitVec.getElem_zero]
    cases a[i] <;> cases b[i] <;> rfl
  rw [BitVec.add_eq_or_of_and_eq_zero _ _ apart]
  ext i _
  simp only [BitVec.getElem_or, BitVec.getElem_and, BitVec.getElem_not]
  cases a[i] <;> cases b[i] <;> rfl

theorem skipped_cases (sp : Word) : skipped sp = 0#32 ∨ skipped sp = 4#32 := by
  unfold skipped
  rw [BitVec.and_twoPow]
  cases sp.getLsbD 2 with
  | false => exact Or.inl rfl
  | true => exact Or.inr rfl

theorem framePointer_eq (sp : Word) : framePointer sp = sp - skipped sp - 32 := by
  have split : (sp &&& ~~~BitVec.twoPow 32 2) + skipped sp = sp := and_not_add_and sp _
  unfold framePointer
  bv_omega

/-- The room that a frame takes below the stack pointer. -/
theorem toNat_framePointer (sp : Word) (room : 36 ≤ sp.toNat) :
    sp.toNat ≤ (framePointer sp).toNat + 36 ∧ (framePointer sp).toNat + 32 ≤ sp.toNat := by
  rw [framePointer_eq]
  cases skipped_cases sp with
  | inl none => rw [none]; bv_omega
  | inr four => rw [four]; bv_omega

theorem toNat_skipped (sp : Word) : (skipped sp).toNat = sp.toNat / 4 % 2 * 4 := by
  have four : (BitVec.twoPow 32 2).toNat = 2 ^ 2 := by decide
  rw [skipped, BitVec.toNat_and, four, Nat.and_two_pow, Nat.toNat_testBit]
  norm_num

theorem framePointer_mod_eight (aligned : Aligned sp) : (framePointer sp).toNat % 8 = 0 := by
  have skip := toNat_skipped sp
  unfold Aligned at aligned
  rw [framePointer_eq]
  bv_omega

theorem aligned_framePointer (aligned : Aligned sp) : Aligned (framePointer sp) := by
  have eight := framePointer_mod_eight aligned
  unfold Aligned
  omega

/-- The stack pointer is found again from the frame and the bytes skipped. -/
theorem framePointer_add (sp : Word) : (framePointer sp + 32) ||| skipped sp = sp := by
  have back : framePointer sp + 32 = sp &&& ~~~BitVec.twoPow 32 2 := by
    unfold framePointer
    exact BitVec.sub_add_cancel _ _
  rw [back]
  ext i _
  simp only [skipped, BitVec.getElem_or, BitVec.getElem_and, BitVec.getElem_not]
  cases sp[i] <;> cases (BitVec.twoPow 32 2)[i] <;> rfl

/-! ## Taking a frame back -/

namespace Context

theorem length_frame (x : Context) : x.frame.length = 8 := rfl

theorem stackedPsr_and_skipBit (x : Context) :
    x.stackedPsr &&& skipBit = 0#32 ↔ skipped x.sp = 0#32 := by
  have cleared : (x.xpsr &&& ~~~skipBit) &&& skipBit = 0#32 := by
    rw [BitVec.and_assoc, BitVec.and_comm (~~~skipBit), BitVec.and_not_self]
    exact BitVec.and_zero
  have set : x.stackedPsr &&& skipBit = if skipped x.sp = 0#32 then 0#32 else skipBit := by
    unfold stackedPsr
    rw [BitVec.and_or_distrib_right, cleared, BitVec.zero_or]
    split <;> simp
  rw [set]
  have bit : skipBit ≠ 0#32 := by decide
  split <;> simp [*]

theorem stackedPsr_and_not_skipBit (plain : x.Plain) : x.stackedPsr &&& ~~~skipBit = x.xpsr := by
  have kept : x.xpsr &&& ~~~skipBit = x.xpsr := by
    have split := and_not_add_and x.xpsr skipBit
    rwa [plain, BitVec.add_zero] at split
  unfold stackedPsr
  rw [kept, BitVec.and_or_distrib_right, kept]
  split
  · simp
  · rw [BitVec.and_not_self]
    exact BitVec.or_zero

/-- The registers that are not stacked are all that a frame takes from the handler. -/
theorem unstack_congr {reg' : Reg → Word} {words : List Word} (enough : 6 ≤ words.length)
    (others : ∀ r ∉ stacked, reg r = reg' r) : unstack reg a words = unstack reg' a words := by
  apply Context.ext
  · funext r
    by_cases listed : r ∈ stacked
    · exact setAll_of_mem enough listed
    · have kept (h : Reg → Word) : (unstack h a words).reg r = h r :=
        setAll_of_notMem words listed
      rw [kept, kept]
      exact others r listed
  · rfl
  · rfl
  · rfl

/-- What was stacked is taken back. -/
theorem unstack_frame (plain : x.Plain) (others : ∀ r ∉ stacked, reg r = x.reg r) :
    unstack reg (framePointer x.sp) x.frame = x := by
  have psr : x.frame.getD 7 0#32 = x.stackedPsr := rfl
  apply Context.ext
  · funext r
    have taken : (unstack reg (framePointer x.sp) x.frame).reg r =
        if r ∈ stacked then x.reg r else reg r :=
      setAll_map_append reg x.reg stacked [x.pc, x.stackedPsr] r
    rw [taken]
    split
    · rfl
    · exact others r ‹_›
  · rfl
  · exact stackedPsr_and_not_skipBit plain
  · have skip : (if x.stackedPsr &&& skipBit = 0#32 then 0#32 else 4#32) = skipped x.sp := by
      simp only [stackedPsr_and_skipBit]
      cases skipped_cases x.sp with
      | inl none => simp [none]
      | inr four => simp [four]
    simp only [unstack, psr, skip]
    exact framePointer_add x.sp

end Context

end TestSystem.Machine
