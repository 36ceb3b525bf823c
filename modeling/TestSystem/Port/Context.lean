import TestSystem.Machine.Program

/-!
# The context switch

The low level of `src/vf610/port.c`: the frame that `pxPortInitialiseStack` prepares
for a new task, and the exception handlers that start the first task and switch from
one task to another. A suspended task has sixteen words on its own stack, `r4` to
`r11` below the frame of the exception, and the first word of its control block
points to them.

The handlers are the instructions of the source. The kernel picks the next task in
`vTaskSwitchContext`, whose effect is a parameter. A handler that saves leaves the
context in the stack, and a handler that restores goes on with the context it finds
there.
-/

namespace TestSystem.Port

open TestSystem.Machine

/-- `r4-r11`: what the hardware does not save. -/
def calleeSaved : List Reg := [.r4, .r5, .r6, .r7, .r8, .r9, .r10, .r11]

/-! ## The source -/

/-- The status word of a first turn: only the Thumb bit is set. -/
def portINITIAL_XPSR : Word := 0x01000000#32

/-- The new top of the stack, and the memory with the frame below the old one. The
places of `r1` to `r12` that are skipped keep what they held. -/
def pxPortInitialiseStack (m : Memory) (pxTopOfStack pxCode pvParameters prvTaskExitError : Word) :
    Word × Memory :=
  let m := m.store (pxTopOfStack - 4) portINITIAL_XPSR
  let m := m.store (pxTopOfStack - 8) pxCode
  let m := m.store (pxTopOfStack - 12) prvTaskExitError
  let m := m.store (pxTopOfStack - 32) pvParameters
  (pxTopOfStack - 64, m)

/-- The code up to `svc 0`. -/
def prvPortStartFirstTask : List Instr :=
  [.literal .r0 0xe000ed08#32, .ldr .r0 .r0, .ldr .r0 .r0, .msr .msp .r0, .cpsie true false,
    .cpsie false true, .barrier, .barrier]

/-- The handler that starts the first task. -/
def vPortSVCHandler (pxCurrentTCB : Word) : List Instr :=
  [.literal .r3 pxCurrentTCB, .ldr .r1 .r3, .ldr .r0 .r1, .ldmia (.reg .r0) calleeSaved,
    .msr .psp .r0, .barrier, .mov .r0 0#32, .msr .basepri .r0, .orr .lr 0xd#32, .bx .lr]

/-- The handler that switches from one task to the next. -/
def xPortPendSVHandler (pxCurrentTCB maxSyscall : Word) (vTaskSwitchContext : Core → Core) :
    List Instr :=
  [.mrs .r0 .psp, .barrier, .literal .r3 pxCurrentTCB, .ldr .r2 .r3,
    .stmdb (.reg .r0) calleeSaved, .str .r0 .r2, .stmdb .sp [.r3, .lr], .mov .r0 maxSyscall,
    .msr .basepri .r0, .bl vTaskSwitchContext, .mov .r0 0#32, .msr .basepri .r0,
    .ldmia .sp [.r3, .lr], .ldr .r1 .r3, .ldr .r0 .r1, .ldmia (.reg .r0) calleeSaved,
    .msr .psp .r0, .barrier, .bx .lr]

/-! ## The context on a stack -/

/-- The context that the sixteen words from `top` on stand for. -/
def savedContext (m : Memory) (top : Word) : Context :=
  Context.unstack (setAll (fun _ => 0) calleeSaved (m.loadAll top 8)) (top + 32)
    (m.loadAll (top + 32) 8)

variable {m m' : Memory} {top sp : Word} {x : Context} {c : Core} {Q : Core → Prop}
  {pxCurrentTCB maxSyscall pxCode pvParameters prvTaskExitError : Word} {f : Core → Core}

theorem mem_calleeSaved_or_stacked (r : Reg) : r ∈ calleeSaved ∨ r ∈ stacked := by
  cases r <;> decide

theorem savedContext_congr (fits : Memory.Fits top 16)
    (same : ∀ b, ¬ Memory.Outside top 16 b → m b = m' b) :
    savedContext m top = savedContext m' top := by
  have next : (top + 32).toNat = top.toNat + 32 := by
    unfold Memory.Fits at fits
    bv_omega
  have low : m.loadAll top 8 = m'.loadAll top 8 := by
    apply Memory.loadAll_congr
    · unfold Memory.Fits at fits ⊢
      omega
    · intro b inside
      apply same
      unfold Memory.Outside at inside ⊢
      omega
  have high : m.loadAll (top + 32) 8 = m'.loadAll (top + 32) 8 := by
    apply Memory.loadAll_congr
    · unfold Memory.Fits at fits ⊢
      omega
    · intro b inside
      apply same
      unfold Memory.Outside at inside ⊢
      omega
  rw [savedContext, savedContext, low, high]

/-- The words of a context, as they are found below its stack pointer. -/
theorem savedContext_eq (plain : x.Plain)
    (low : m.loadAll top 8 = calleeSaved.map x.reg) (place : top + 32 = framePointer x.sp)
    (high : m.loadAll (framePointer x.sp) 8 = x.frame) : savedContext m top = x := by
  rw [savedContext, place, high]
  apply Context.unstack_frame plain
  intro r notStacked
  have saved : r ∈ calleeSaved := (mem_calleeSaved_or_stacked r).resolve_right notStacked
  rw [low, setAll_map, if_pos saved]

/-! ## The handlers -/

/-- The common end of both handlers: the context of the current task is loaded. -/
def loading : List Instr :=
  [.ldr .r1 .r3, .ldr .r0 .r1, .ldmia (.reg .r0) calleeSaved, .msr .psp .r0, .barrier]

/-- The registers after `loading`. -/
def loadedReg (reg : Reg → Word) (m : Memory) (tcb top : Word) : Reg → Word :=
  Function.update (setAll (Function.update (Function.update reg .r1 tcb) .r0 top) calleeSaved
    (m.loadAll top 8)) .r0 (top + 32)

theorem loadedReg_of_not_stacked {reg : Reg → Word} {tcb : Word} (r : Reg) (other : r ∉ stacked) :
    loadedReg reg m tcb top r = setAll (fun _ => 0) calleeSaved (m.loadAll top 8) r := by
  have saved : r ∈ calleeSaved := (mem_calleeSaved_or_stacked r).resolve_right other
  have ne : r ≠ .r0 := by
    rintro rfl
    simp [stacked] at other
  rw [loadedReg, Function.update_of_ne ne]
  exact setAll_of_mem le_rfl saved

theorem loadedReg_lr {reg : Reg → Word} {tcb : Word} : loadedReg reg m tcb top .lr = reg .lr := by
  have notSaved : Reg.lr ∉ calleeSaved := by decide
  rw [loadedReg, Function.update_of_ne (by decide), setAll_of_notMem _ notSaved]
  rfl

theorem wp_loading (program : List Instr) (r3 : Aligned (c.reg .r3))
    (tcb : Aligned (c.mem (c.reg .r3))) (top : Aligned (c.mem (c.mem (c.reg .r3)))) :
    wp (loading ++ program) Q c ↔
      wp program Q { c with
        reg := loadedReg c.reg c.mem (c.mem (c.reg .r3)) (c.mem (c.mem (c.reg .r3)))
        psp := c.mem (c.mem (c.reg .r3)) + 32 } := by
  simp only [loading, List.cons_append, List.nil_append, wp_ldr, wp_ldmia, wp_msr, wp_barrier]
  simp [Core.base, Core.setBase, Core.setSpecial, Core.set, r3, tcb, top, loadedReg, calleeSaved]

theorem aligned_add_32 (aligned : Aligned top) : Aligned (top + 32) := by
  unfold Aligned at aligned ⊢
  bv_omega

/-- The exception return behind `loading` goes on with the saved context. -/
theorem wp_bx_loaded (m : Memory) (tcb top : Word) (reg : Reg → Word)
    (lr : c.reg .lr = 0xfffffffd#32) (handler : c.handler = true)
    (others : ∀ r ∉ stacked, c.reg r = loadedReg reg m tcb top r) (psp : c.psp = top + 32)
    (mem : c.mem = m) (aligned : Aligned top)
    (thread : Core.exceptionNumber (savedContext m top).xpsr = 0#32) :
    wp [.bx .lr] Q c ↔ Q (c.resume (savedContext m top)) := by
  have same : Context.unstack c.reg c.psp (c.mem.loadAll c.psp 8) = savedContext m top := by
    rw [savedContext, psp, mem]
    apply Context.unstack_congr
    · exact Nat.le_add_left 6 2
    · intro r other
      rw [others r other, loadedReg_of_not_stacked r other]
  have leaves : c.leave (c.reg .lr) = some (c.resume (savedContext m top)) := by
    rw [lr, ← same]
    apply Core.leave_process
    · rw [psp]
      exact aligned_add_32 aligned
    · rw [same]
      exact thread
  have top : (c.reg .lr) >>> 28 = 0xf#32 := by rw [lr]; decide
  rw [wp_bx_leave handler top, leaves]
  simp

/-- The control block of the current task and the top of its stack can be loaded,
and what is saved there is the context of a thread. -/
structure Loadable (pxCurrentTCB : Word) (m : Memory) : Prop where
  current : Aligned pxCurrentTCB
  tcb : Aligned (m pxCurrentTCB)
  top : Aligned (m (m pxCurrentTCB))
  thread : Core.exceptionNumber (savedContext m (m (m pxCurrentTCB))).xpsr = 0#32

theorem wp_vPortSVCHandler (handler : c.handler = true) (lr : c.reg .lr = 0xfffffff9#32)
    (loadable : Loadable pxCurrentTCB c.mem) :
    wp (vPortSVCHandler pxCurrentTCB) Q c ↔
      Q (Core.resume { c with basepri := 0#32 }
        (savedContext c.mem (c.mem (c.mem pxCurrentTCB)))) := by
  have shape : vPortSVCHandler pxCurrentTCB = .literal .r3 pxCurrentTCB :: (loading ++
      [.mov .r0 0#32, .msr .basepri .r0, .orr .lr 0xd#32, .bx .lr]) := rfl
  rw [shape, wp_literal]
  rw [wp_loading _ (by simpa using loadable.current) (by simpa using loadable.tcb)
    (by simpa using loadable.top)]
  simp only [wp_mov, wp_msr, wp_orr]
  -- `orr` turns a return to the main stack into one to the process stack.
  rw [wp_bx_loaded c.mem (c.mem pxCurrentTCB) (c.mem (c.mem pxCurrentTCB))
    (Function.update c.reg .r3 pxCurrentTCB)]
  · rfl
  · have value : 0xfffffff9#32 ||| 0xd#32 = 0xfffffffd#32 := by decide
    simp [Core.setSpecial, loadedReg_lr, lr, value]
  · exact handler
  · intro r other
    have notLr : r ≠ .lr := by rintro rfl; simp [stacked] at other
    have notR0 : r ≠ .r0 := by rintro rfl; simp [stacked] at other
    simp [Core.setSpecial, Function.update_of_ne notLr, Function.update_of_ne notR0]
  · simp [Core.setSpecial]
  · rfl
  · exact loadable.top
  · exact loadable.thread

/-- The memory after the context has been saved. -/
def savedMemory (c : Core) (pxCurrentTCB : Word) : Memory :=
  ((c.mem.storeAll (c.psp - 32) (calleeSaved.map c.reg)).store
    (c.mem pxCurrentTCB) (c.psp - 32)).storeAll (c.msp - 8) [pxCurrentTCB, 0xfffffffd#32]

/-- The first half of `xPortPendSVHandler`, up to the call. -/
def saving (pxCurrentTCB maxSyscall : Word) : List Instr :=
  [.mrs .r0 .psp, .barrier, .literal .r3 pxCurrentTCB, .ldr .r2 .r3,
    .stmdb (.reg .r0) calleeSaved, .str .r0 .r2, .stmdb .sp [.r3, .lr], .mov .r0 maxSyscall,
    .msr .basepri .r0]

/-- The processor when `vTaskSwitchContext` is called. -/
def savedCore (c : Core) (pxCurrentTCB maxSyscall : Word) : Core :=
  { c with
    reg := Function.update (Function.update (Function.update (Function.update c.reg .r0 c.psp)
      .r3 pxCurrentTCB) .r2 (c.mem pxCurrentTCB)) .r0 maxSyscall
    msp := c.msp - 8
    basepri := maxSyscall
    mem := savedMemory c pxCurrentTCB }

theorem wp_saving (program : List Instr) (handler : c.handler = true)
    (lr : c.reg .lr = 0xfffffffd#32) (current : Aligned pxCurrentTCB)
    (tcb : Aligned (c.mem pxCurrentTCB)) (psp : Aligned c.psp) (msp : Aligned c.msp) :
    wp (saving pxCurrentTCB maxSyscall ++ program) Q c ↔
      wp program Q (savedCore c pxCurrentTCB maxSyscall) := by
  have below (k a : Word) (h : Aligned a) (four : k.toNat % 4 = 0) : Aligned (a - k) := by
    unfold Aligned at h ⊢
    bv_omega
  simp only [saving, List.cons_append, List.nil_append, wp_mrs, wp_barrier, wp_literal, wp_ldr,
    wp_stmdb, wp_str, wp_mov, wp_msr]
  simp [Core.base, Core.setBase, Core.setSpecial, Core.special, Core.set, Core.sp, Core.setSp,
    handler, current, tcb, calleeSaved, lr, below, psp, msp, savedMemory, savedCore]

/-- The second half of `xPortPendSVHandler`: the two words that the first half pushed
are popped, and the current task is loaded. -/
theorem wp_restoring (handler : c.handler = true) (msp : Aligned c.msp)
    (pushed : c.mem.loadAll c.msp 2 = [pxCurrentTCB, 0xfffffffd#32])
    (loadable : Loadable pxCurrentTCB c.mem) :
    wp ([.mov .r0 0#32, .msr .basepri .r0, .ldmia .sp [.r3, .lr]] ++ (loading ++ [.bx .lr])) Q c ↔
      Q (Core.resume { c with basepri := 0#32, msp := c.msp + 8 }
        (savedContext c.mem (c.mem (c.mem pxCurrentTCB)))) := by
  have popped : wp ([.mov .r0 0#32, .msr .basepri .r0, .ldmia .sp [.r3, .lr]] ++
      (loading ++ [.bx .lr])) Q c ↔
        wp (loading ++ [.bx .lr]) Q { c with
          reg := Function.update (Function.update (Function.update c.reg .r0 0#32) .r3
            pxCurrentTCB) .lr 0xfffffffd#32
          basepri := 0#32
          msp := c.msp + 8 } := by
    simp only [List.cons_append, List.nil_append, wp_mov, wp_msr, wp_ldmia]
    -- A handler pops from the main stack, whatever `CONTROL` says.
    simp [Core.base, Core.setBase, Core.setSpecial, Core.set, Core.sp, Core.setSp, handler, msp,
      pushed, setAll]
  rw [popped, wp_loading _ (by simpa using loadable.current) (by simpa using loadable.tcb)
    (by simpa using loadable.top)]
  rw [wp_bx_loaded c.mem (c.mem pxCurrentTCB) (c.mem (c.mem pxCurrentTCB))
    (Function.update (Function.update (Function.update c.reg .r0 0#32) .r3
      pxCurrentTCB) .lr 0xfffffffd#32)]
  · rfl
  · simp [loadedReg_lr]
  · exact handler
  · simp
  · simp
  · rfl
  · exact loadable.top
  · exact loadable.thread

/-- The whole handler, with what the call leaves behind as a parameter. -/
theorem wp_xPortPendSVHandler (handler : c.handler = true) (lr : c.reg .lr = 0xfffffffd#32)
    (current : Aligned pxCurrentTCB) (tcb : Aligned (c.mem pxCurrentTCB)) (psp : Aligned c.psp)
    (msp : Aligned c.msp)
    {c' : Core} (call : f (savedCore c pxCurrentTCB maxSyscall) = c')
    (handler' : c'.handler = true) (msp' : c'.msp = c.msp - 8)
    (pushed : c'.mem.loadAll (c.msp - 8) 2 = [pxCurrentTCB, 0xfffffffd#32])
    (loadable : Loadable pxCurrentTCB c'.mem) :
    wp (xPortPendSVHandler pxCurrentTCB maxSyscall f) Q c ↔
      Q (Core.resume { c' with basepri := 0#32, msp := c.msp }
        (savedContext c'.mem (c'.mem (c'.mem pxCurrentTCB)))) := by
  have shape : xPortPendSVHandler pxCurrentTCB maxSyscall f =
      saving pxCurrentTCB maxSyscall ++ .bl f ::
        ([.mov .r0 0#32, .msr .basepri .r0, .ldmia .sp [.r3, .lr]] ++
          (loading ++ [.bx .lr])) := rfl
  have aligned' : Aligned c'.msp := by
    rw [msp']
    unfold Aligned at msp ⊢
    bv_omega
  rw [shape, wp_saving _ handler lr current tcb psp msp, wp_bl, call,
    wp_restoring handler' aligned' (by rw [msp', pushed]) loadable, msp', BitVec.sub_add_cancel]

end TestSystem.Port
