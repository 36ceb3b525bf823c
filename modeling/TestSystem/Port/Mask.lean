import TestSystem.Machine.Program

/-!
# The interrupt mask

`ulPortSetInterruptMask` and `vPortClearInterruptMask` of `src/vf610/port.c` are a few
instructions each. The macros that disable and enable the interrupts of the kernel are
calls of them.
-/

namespace TestSystem.Port

open TestSystem.Machine

/-- The instructions of `ulPortSetInterruptMask`: the old mask is the result. -/
def ulPortSetInterruptMaskCode (maxSyscall : Word) : List Instr :=
  [.mrs .r0 .basepri, .mov .r1 maxSyscall, .msr .basepri .r1, .bx .lr]

/-- The instructions of `vPortClearInterruptMask`, with the new mask in `r0`. -/
def vPortClearInterruptMaskCode : List Instr := [.msr .basepri .r0, .bx .lr]

/-- The processor after a call of `ulPortSetInterruptMask`. -/
def interruptsMasked (maxSyscall : Word) (c : Core) : Core :=
  { c with
    reg := Function.update (Function.update c.reg .r0 c.basepri) .r1 maxSyscall
    basepri := maxSyscall
    pc := c.reg .lr }

/-- `lr` holds the address after a call, and no request for an exception return. -/
def Called (c : Core) : Prop := ¬ (c.handler = true ∧ (c.reg .lr) >>> 28 = 0xf#32)

variable {c : Core} {Q : Core → Prop} {maxSyscall : Word}

theorem wp_ulPortSetInterruptMaskCode (called : Called c) :
    wp (ulPortSetInterruptMaskCode maxSyscall) Q c ↔ Q (interruptsMasked maxSyscall c) := by
  simp only [ulPortSetInterruptMaskCode, wp_mrs, wp_mov, wp_msr]
  rw [wp_bx_return (by simpa [Core.setSpecial, Called] using called)]
  simp [Core.setSpecial, Core.special, Core.set, interruptsMasked]

theorem wp_vPortClearInterruptMaskCode (called : Called c) :
    wp vPortClearInterruptMaskCode Q c ↔ Q { c with basepri := c.reg .r0, pc := c.reg .lr } := by
  simp only [vPortClearInterruptMaskCode, wp_msr]
  rw [wp_bx_return (by simpa [Core.setSpecial, Called] using called)]
  simp [Core.setSpecial]

end TestSystem.Port
