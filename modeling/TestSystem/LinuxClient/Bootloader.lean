import TestSystem.Port.Mask

/-!
# The jump to the boot loader

`cpu2cpu_int0_isr` of `src/vf610/linux_client.c` leaves its interrupt with an
exception return, but from a frame of its own making, `booloaderFakeStack`: both stack
pointers are moved there first. The processor takes the frame and goes on in the boot
loader, provided that the interrupt was taken in a thread. Taken in another handler
it cannot: the processor then asks for the frame of a handler.

The frame is the small one. After a thread that used the floating-point registers the
processor takes the room for them off the stack as well, which the frame does not have.
-/

namespace TestSystem.LinuxClient

open TestSystem.Machine TestSystem.Port

/-- What the handler returns from. -/
def booloaderFakeStack : List Word :=
  [0x42424242#32, 0x42424242#32, 0x42424242#32, 0x42424242#32, 0x42424242#32, 0x1f03ec01#32,
    0x1f03ec01#32, 0x01000000#32]

/-- `{r4-r12, lr}`. -/
def pushed : List Reg := [.r4, .r5, .r6, .r7, .r8, .r9, .r10, .r11, .r12, .lr]

/-- `taskDISABLE_INTERRUPTS` is a call of `ulPortSetInterruptMask`. -/
def lcShutdown (vTaskSuspendAll : Core → Core) (maxSyscall : Word) : List Instr :=
  [.bl vTaskSuspendAll, .bl (interruptsMasked maxSyscall)]

/-- The handler with `CONFIG_FAKE_BOOTLOADER`. `irq_clear` and `vTaskSuspendAll` are given by
their effect, and `fake` is the address of the frame. -/
def cpu2cpuInt0Isr (fake : Word) (irqClear vTaskSuspendAll : Core → Core) (maxSyscall : Word) :
    List Instr :=
  [.cpsid true false, .cpsid false true, .stmdb .sp pushed, .bl irqClear] ++
    lcShutdown vTaskSuspendAll maxSyscall ++
    [.ldmia .sp pushed, .literal .r2 fake, .msr .psp .r2, .barrier, .msr .msp .r2, .barrier,
      .bx .lr]

/-- What compiled code promises where it is called: it gives the stack back and writes
neither to the words on it nor to the frame. -/
structure Keeps (fake : Word) (f : Core → Core) (c : Core) : Prop where
  msp : (f c).msp = c.msp
  handler : (f c).handler = c.handler
  primask : (f c).primask = c.primask
  stack : (f c).mem.loadAll c.msp 10 = c.mem.loadAll c.msp 10
  frame : (f c).mem.loadAll fake 8 = c.mem.loadAll fake 8

theorem Keeps.comp {fake : Word} {f g : Core → Core} {c : Core} (first : Keeps fake f c)
    (second : Keeps fake g (f c)) : Keeps fake (g ∘ f) c where
  msp := second.msp.trans first.msp
  handler := second.handler.trans first.handler
  primask := second.primask.trans first.primask
  stack := by
    have kept := second.stack
    rw [first.msp] at kept
    exact kept.trans first.stack
  frame := second.frame.trans first.frame

theorem keeps_interruptsMasked (fake maxSyscall : Word) (c : Core) :
    Keeps fake (interruptsMasked maxSyscall) c := ⟨rfl, rfl, rfl, rfl, rfl⟩

/-- What the handler calls, one after the other. -/
def shutdown (irqClear vTaskSuspendAll : Core → Core) (maxSyscall : Word) : Core → Core :=
  interruptsMasked maxSyscall ∘ vTaskSuspendAll ∘ irqClear

variable {fake maxSyscall number : Word} {irqClear vTaskSuspendAll called : Core → Core} {c : Core}
  {Q : Core → Prop} {unknown : Reg → Word} {floats : Core.Floats}

/-- The words of the frame are apart from those that the interrupt stacks. -/
structure Apart (fake : Word) (c : Core) : Prop where
  aligned : Aligned fake
  fits : Memory.Fits fake 8
  holds : c.mem.loadAll fake 8 = booloaderFakeStack
  mspAligned : Aligned c.msp
  room : 40 ≤ c.msp.toNat
  pushed : ∀ b, ¬ Memory.Outside fake 8 b → Memory.Outside (c.msp - 40#32) 10 b

/-- The processor when `irq_clear` is called. -/
def atCall (c : Core) : Core :=
  { c with
    primask := true
    faultmask := true
    msp := c.msp - 40#32
    mem := c.mem.storeAll (c.msp - 40#32) (pushed.map c.reg) }

/-- The processor when the handler leaves, after what it has `called`. -/
def atBx (fake : Word) (called : Core → Core) (c : Core) : Core :=
  { called (atCall c) with
    reg := Function.update (setAll (called (atCall c)).reg pushed (pushed.map c.reg)) .r2 fake
    msp := fake
    psp := fake }

theorem Apart.fitsStack (apart : Apart fake c) : Memory.Fits (c.msp - 40#32) 10 := by
  have room := apart.room
  have small := c.msp.isLt
  unfold Memory.Fits
  bv_omega

theorem Apart.alignedStack (apart : Apart fake c) : Aligned (c.msp - 40#32) := by
  have four := apart.mspAligned
  have room := apart.room
  unfold Aligned at four ⊢
  bv_omega

theorem wp_pushing (program : List Instr) (apart : Apart fake c) (handler : c.handler = true) :
    wp ([.cpsid true false, .cpsid false true, .stmdb .sp pushed] ++ program) Q c ↔
      wp program Q (atCall c) := by
  have aligned := apart.alignedStack
  simp only [List.cons_append, List.nil_append, wp_cpsid, wp_stmdb]
  simp [Core.base, Core.setBase, Core.sp, Core.setSp, handler, pushed, aligned, atCall]

/-- The handler from the end of what it has called on. -/
theorem wp_popping (keeps : Keeps fake called (atCall c)) (apart : Apart fake c)
    (handler : c.handler = true) :
    wp [.ldmia .sp pushed, .literal .r2 fake, .msr .psp .r2, .barrier, .msr .msp .r2, .barrier,
      .bx .lr] Q (called (atCall c)) ↔ wp [.bx .lr] Q (atBx fake called c) := by
  have msp : (called (atCall c)).msp = c.msp - 40#32 := keeps.msp
  have handler' : (called (atCall c)).handler = true := keeps.handler.trans handler
  have popped : (called (atCall c)).mem.loadAll (c.msp - 40#32) 10 = pushed.map c.reg :=
    keeps.stack.trans (Memory.loadAll_storeAll _ apart.fitsStack)
  have base : (called (atCall c)).base .sp = c.msp - 40#32 :=
    (Core.sp_of_handler handler').trans msp
  have aligned := apart.alignedStack
  have length : pushed.length = 10 := rfl
  rw [wp_ldmia, base, length, popped]
  simp only [wp_literal, wp_msr, wp_barrier, aligned, true_and]
  simp [Core.setBase, Core.setSp, Core.setSpecial, Core.set, handler', atBx]

theorem wp_cpu2cpuInt0Isr
    (keeps : Keeps fake (shutdown irqClear vTaskSuspendAll maxSyscall) (atCall c))
    (apart : Apart fake c) (handler : c.handler = true) :
    wp (cpu2cpuInt0Isr fake irqClear vTaskSuspendAll maxSyscall) Q c ↔
      wp [.bx .lr] Q (atBx fake (shutdown irqClear vTaskSuspendAll maxSyscall) c) := by
  have shape : cpu2cpuInt0Isr fake irqClear vTaskSuspendAll maxSyscall =
      [.cpsid true false, .cpsid false true, .stmdb .sp pushed] ++
        .bl irqClear :: .bl vTaskSuspendAll :: .bl (interruptsMasked maxSyscall) ::
          [.ldmia .sp pushed, .literal .r2 fake, .msr .psp .r2, .barrier, .msr .msp .r2, .barrier,
            .bx .lr] := rfl
  rw [shape, wp_pushing _ apart handler, wp_bl, wp_bl, wp_bl]
  exact wp_popping keeps apart handler

/-! ## The exception return -/

theorem Apart.frame (keeps : Keeps fake called (atCall c)) (apart : Apart fake c) :
    (atBx fake called c).mem.loadAll fake 8 = booloaderFakeStack := by
  have call : (atCall c).mem.loadAll fake 8 = c.mem.loadAll fake 8 := by
    apply Memory.loadAll_congr apart.fits
    intro b within
    exact Memory.storeAll_of_outside apart.fitsStack (apart.pushed b within)
  exact keeps.frame.trans (call.trans apart.holds)

/-- The frame as the processor takes it, with the other registers as they are and `room`
above it. -/
theorem unstack_booloaderFakeStack (fake room : Word) (reg : Reg → Word) :
    (Context.unstack reg (fake + room) booloaderFakeStack).pc = 0x1f03ec01#32 ∧
      (Context.unstack reg (fake + room) booloaderFakeStack).xpsr = 0x01000000#32 ∧
      (Context.unstack reg (fake + room) booloaderFakeStack).sp = fake + room + 32 ∧
      (Context.unstack reg (fake + room) booloaderFakeStack).reg .lr = 0x1f03ec01#32 := by
  have noSkip : 0x01000000#32 &&& skipBit = 0#32 := by decide
  refine ⟨rfl, ?_, ?_, rfl⟩
  · exact (by decide : 0x01000000#32 &&& ~~~skipBit = 0x01000000#32)
  · simp only [Context.unstack, booloaderFakeStack, List.getD_cons_succ, List.getD_cons_zero,
      noSkip, if_true]
    exact BitVec.or_zero

/-- The boot loader runs above the frame, and above the room that a floating-point context
would have had, with interrupts masked; the fault mask does not last. -/
structure InBootloader (fake maxSyscall : Word) (floats : Core.Floats) (c c' : Core) : Prop where
  pc : c'.pc = 0x1f03ec01#32
  lr : c'.reg .lr = 0x1f03ec01#32
  xpsr : c'.xpsr = 0x01000000#32
  sp : c'.sp = fake + floats.room + 32
  thread : c'.handler = false
  spsel : c'.spsel = c.spsel
  primask : c'.primask = true
  faultmask : c'.faultmask = false
  basepri : c'.basepri = maxSyscall

theorem atBx_lr (fake : Word) (called : Core → Core) {c₁ : Core}
    (entered : c.enterWith floats number unknown = some c₁) :
    (atBx fake called c₁).reg .lr = floats.returnValue c.returnValue := by
  have listed : Reg.lr ∈ pushed := by decide
  have ne : Reg.lr ≠ .r2 := by decide
  simp [atBx, ne, setAll_map, listed, (Core.handler_of_enterWith c entered).2]

/-- The return value says what was interrupted, with or without a floating-point context. -/
theorem ofReturn_returnValue (floats : Core.Floats) (c : Core) :
    Core.Target.ofReturn (floats.returnValue c.returnValue ||| 0x10#32) =
      some (if c.handler then .handler else if c.spsel then .threadProcess else .threadMain) := by
  unfold Core.returnValue
  cases floats <;> cases c.handler <;> cases c.spsel <;>
    simp [Core.Floats.returnValue, Core.Target.ofReturn]

theorem returnRoom_returnValue (floats : Core.Floats) (c : Core) :
    Core.returnRoom (floats.returnValue c.returnValue) = floats.room := by
  unfold Core.returnValue
  cases floats <;> cases c.handler <;> cases c.spsel <;>
    simp [Core.Floats.returnValue, Core.Floats.room, Core.returnRoom]

/-- The last instruction, by what was interrupted. -/
theorem leave_atBx {c₁ : Core}
    (keeps : Keeps fake (shutdown irqClear vTaskSuspendAll maxSyscall) (atCall c₁))
    (apart : Apart fake c₁) (floats : Core.Floats) (c : Core) :
    (∀ after, (atBx fake (shutdown irqClear vTaskSuspendAll maxSyscall) c₁).leave
        (floats.returnValue c.returnValue) = some after →
          InBootloader fake maxSyscall floats c after) ∧
      (((atBx fake (shutdown irqClear vTaskSuspendAll maxSyscall) c₁).leave
        (floats.returnValue c.returnValue)).isSome ↔ c.handler = false) := by
  generalize calls : shutdown irqClear vTaskSuspendAll maxSyscall = called at keeps
  have basepri : (atBx fake called c₁).basepri = maxSyscall := by rw [← calls]; rfl
  have frame := apart.frame keeps
  obtain ⟨pc, xpsr, sp, lr⟩ := unstack_booloaderFakeStack fake floats.room
    (atBx fake called c₁).reg
  have target := ofReturn_returnValue floats c
  have room := returnRoom_returnValue floats c
  rw [← frame, ← room] at pc xpsr sp lr
  have thread : Core.exceptionNumber (Context.unstack (atBx fake called c₁).reg
      (fake + Core.returnRoom (floats.returnValue c.returnValue))
      ((atBx fake called c₁).mem.loadAll fake 8)).xpsr = 0#32 := by
    rw [xpsr]
    decide
  have primask : (atBx fake called c₁).primask = true := keeps.primask
  cases handler : c.handler with
  -- The frame says that a thread was interrupted, the return value says a handler.
  | true =>
    rw [handler, if_pos rfl] at target
    simp [Core.leave_handler _ target thread]
  | false =>
    cases spsel : c.spsel with
    -- The fake frame replaces the top of the stack that the return value selects.
    | true =>
      simp only [handler, spsel, Bool.false_eq_true, if_false, if_true] at target
      rw [Core.leave_threadProcess (atBx fake called c₁) target apart.aligned thread]
      constructor
      · rintro after ⟨⟩
        exact ⟨pc, lr, xpsr, sp.trans (by rw [room]), rfl, spsel.symm, primask, rfl, basepri⟩
      · simp
    | false =>
      simp only [handler, spsel, Bool.false_eq_true, if_false] at target
      rw [Core.leave_threadMain (atBx fake called c₁) target apart.aligned thread]
      constructor
      · rintro after ⟨⟩
        exact ⟨pc, lr, xpsr, sp.trans (by rw [room]), rfl, spsel.symm, primask, rfl, basepri⟩
      · simp

/-- A task at work, with the frame at 0x1000. -/
def taskAtWork : Core where
  reg _ := 0
  pc := 0x201#32
  xpsr := 0x01000000#32
  msp := 0x3100#32
  psp := 0x2100#32
  basepri := 0
  primask := false
  faultmask := false
  handler := false
  spsel := true
  mem := Memory.storeAll (fun _ => 0) 0x1000#32 booloaderFakeStack

/-- The request is taken back in the interrupt router, at 0x40001804. -/
def clearRequest (c : Core) : Core :=
  { c.set .r3 0x40001804#32 with mem := c.mem.store 0x40001804#32 1#32 }

/-- The kernel counts how often its scheduler was stopped, at 0x1f00. -/
def countSuspension (c : Core) : Core :=
  { c.set .r3 0x1f00#32 with mem := c.mem.store 0x1f00#32 (c.mem 0x1f00#32 + 1#32) }

/-- The interrupt is taken, with the number 16. -/
theorem exists_taskInterrupted {floats : Core.Floats}
    (small : floats = .unused ∨ floats = .inUse []) :
    ∃ c₁, taskAtWork.enterWith floats 16#32 (fun _ => 0) = some c₁ ∧ c₁.msp = 0x3100#32 ∧
      Apart 0x1000#32 c₁ := by
  obtain ⟨aligned, msp, frame⟩ : Aligned (taskAtWork.frameWith floats) ∧
      (taskAtWork.enteredWith floats 16#32 (fun _ => 0)).msp = 0x3100#32 ∧
      (taskAtWork.enteredWith floats 16#32 (fun _ => 0)).mem.loadAll 0x1000#32 8 =
        booloaderFakeStack := by
    rcases small with rfl | rfl
    · exact ⟨by decide, rfl, by decide⟩
    · exact ⟨by decide, rfl, by decide⟩
  have entered : taskAtWork.enterWith floats 16#32 (fun _ => 0) =
      some (taskAtWork.enteredWith floats 16#32 fun _ => 0) := if_pos aligned
  generalize taskAtWork.enteredWith floats 16#32 (fun _ => 0) = c₁ at msp frame entered
  have low : c₁.msp - 40#32 = 0x30d8#32 := by rw [msp]; rfl
  refine ⟨c₁, entered, msp, ?_⟩
  exact
    { aligned := by decide
      fits := by unfold Memory.Fits; decide
      holds := frame
      mspAligned := by rw [msp]; decide
      room := by rw [msp]; decide
      pushed := fun b within => by
        rw [low]
        unfold Memory.Outside at within ⊢
        simp at within ⊢
        omega }

/-- A store apart from the stack and from the frame. -/
theorem keeps_store {a v : Word} (stack : Memory.Fits c.msp 10 ∧ Memory.Outside c.msp 10 a)
    (frame : Memory.Fits fake 8 ∧ Memory.Outside fake 8 a) {f : Core → Core}
    (stores : f c = { c.set .r3 a with mem := c.mem.store a v }) : Keeps fake f c := by
  have kept {b : Word} {n : ℕ} (apart : Memory.Fits b n ∧ Memory.Outside b n a) :
      (c.mem.store a v).loadAll b n = c.mem.loadAll b n := by
    apply Memory.loadAll_congr apart.1
    intro b' within
    apply Memory.store_of_ne
    rintro rfl
    exact within apart.2
  constructor <;> rw [stores]
  · rfl
  · rfl
  · rfl
  · exact kept stack
  · exact kept frame

end TestSystem.LinuxClient
