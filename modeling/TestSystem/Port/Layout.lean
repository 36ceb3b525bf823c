import TestSystem.Port.Context

/-!
# Stacks and control blocks

Where the tasks of a system keep what the context switch works on. Each word of the
memory has one owner: the stack of a task, the main stack of the exception handlers,
the two kinds of word that only the kernel writes when it switches, namely
`pxCurrentTCB` and the first word of each control block, or the rest of the program.

A saved context lies in words of its own task, so nothing that leaves these words and
the control block alone can change it. To save the running context touches nothing
else that matters.
-/

namespace TestSystem.Port

open TestSystem.Machine

/-- Who writes a word of the memory. -/
inductive Owner (T : Type*)
  | task (t : T)
  | main
  | kernel
  | other
  deriving DecidableEq

/-- Where the kernel and the stacks lie in memory. -/
structure Layout (T : Type*) where
  owner : Word → Owner T
  /-- The address of the variable. -/
  pxCurrentTCB : Word
  /-- The address of the control block, whose first word is the top of the stack. -/
  tcb : T → Word
  stackStart : T → ℕ
  stackEnd : T → ℕ
  mainStart : ℕ
  mainEnd : ℕ
  aligned_current : Aligned pxCurrentTCB
  aligned_tcb : ∀ t, Aligned (tcb t)
  owner_current : owner pxCurrentTCB = .kernel
  owner_tcb : ∀ t, owner (tcb t) = .kernel
  current_ne_tcb : ∀ t, pxCurrentTCB ≠ tcb t
  tcb_injective : Function.Injective tcb
  owner_stack : ∀ t a, stackStart t ≤ a.toNat → a.toNat < stackEnd t → owner a = .task t
  owner_main : ∀ a, mainStart ≤ a.toNat → a.toNat < mainEnd → owner a = .main

namespace Layout

variable {T : Type*} {L : Layout T} {t u : T} {x : Context} {m m' : Memory} {a b : Word}

/-- A context that the task can be interrupted in: its stack has room for sixteen
words and the four bytes that may be skipped. -/
structure Holds (L : Layout T) (t : T) (x : Context) : Prop where
  aligned : Aligned x.sp
  room : L.stackStart t + 68 ≤ x.sp.toNat
  inside : x.sp.toNat ≤ L.stackEnd t
  plain : x.Plain
  thread : Core.exceptionNumber x.xpsr = 0#32

instance (L : Layout T) (t : T) (x : Context) : Decidable (L.Holds t x) :=
  decidable_of_iff (Aligned x.sp ∧ L.stackStart t + 68 ≤ x.sp.toNat ∧
      x.sp.toNat ≤ L.stackEnd t ∧ x.xpsr &&& skipBit = 0#32 ∧
        Core.exceptionNumber x.xpsr = 0#32)
    ⟨fun h => ⟨h.1, h.2.1, h.2.2.1, h.2.2.2.1, h.2.2.2.2⟩,
      fun h => ⟨h.aligned, h.room, h.inside, h.plain, h.thread⟩⟩

/-- The suspended task `t` will go on with `x`. -/
structure Saved (L : Layout T) (m : Memory) (t : T) (x : Context) : Prop where
  context : savedContext m (m (L.tcb t)) = x
  aligned : Aligned (m (L.tcb t))
  start : L.stackStart t ≤ (m (L.tcb t)).toNat
  below : (m (L.tcb t)).toNat + 64 ≤ x.sp.toNat

/-- A saved context depends on the stack of its task and on its control block only. -/
theorem Saved.congr (saved : L.Saved m t x) (inside : x.sp.toNat ≤ L.stackEnd t)
    (tcb : m' (L.tcb t) = m (L.tcb t)) (stack : ∀ b, L.owner b = .task t → m' b = m b) :
    L.Saved m' t x := by
  have below := saved.below
  have start := saved.start
  have same : savedContext m' (m (L.tcb t)) = savedContext m (m (L.tcb t)) := by
    apply savedContext_congr
    · have small := x.sp.isLt
      unfold Memory.Fits
      omega
    · intro b within
      apply stack
      unfold Memory.Outside at within
      apply L.owner_stack <;> omega
  exact
    { context := by rw [tcb, same, saved.context]
      aligned := by rw [tcb]; exact saved.aligned
      start := by rw [tcb]; exact start
      below := by rw [tcb]; exact below }

/-- What is saved for the current task can be loaded. -/
theorem Saved.loadable (saved : L.Saved m t x) (holds : L.Holds t x)
    (current : m L.pxCurrentTCB = L.tcb t) : Loadable L.pxCurrentTCB m where
  current := L.aligned_current
  tcb := by rw [current]; exact L.aligned_tcb t
  top := by rw [current]; exact saved.aligned
  thread := by rw [current, saved.context]; exact holds.thread

theorem ne_tcb_of_task {b : Word} (own : L.owner b = .task t) (u : T) : b ≠ L.tcb u := by
  rintro rfl
  rw [L.owner_tcb] at own
  simp at own

/-! ## Saving the running task -/

variable {c : Core} {unknown : Reg → Word}

/-- The memory after the hardware and then `xPortPendSVHandler` have saved the task. -/
def suspended (L : Layout T) (c : Core) (unknown : Reg → Word) : Memory :=
  savedMemory (c.enterProcess 14#32 unknown) L.pxCurrentTCB

/-- Task `t` runs on the processor and can be interrupted. -/
structure Runs (L : Layout T) (c : Core) (t : T) : Prop where
  holds : L.Holds t ⟨c.reg, c.pc, c.xpsr, c.psp⟩
  current : c.mem L.pxCurrentTCB = L.tcb t
  mspAligned : c.msp.toNat % 8 = 0
  mspRoom : L.mainStart + 8 ≤ c.msp.toNat
  mspInside : c.msp.toNat ≤ L.mainEnd

/-- Where the saved task lies, in numbers. -/
theorem Runs.bounds (runs : L.Runs c t) :
    L.stackStart t + 32 ≤ (framePointer c.psp).toNat ∧
      (framePointer c.psp).toNat + 32 ≤ c.psp.toNat ∧ c.psp.toNat ≤ L.stackEnd t ∧
        (framePointer c.psp - 32).toNat = (framePointer c.psp).toNat - 32 ∧
          (c.msp - 8).toNat = c.msp.toNat - 8 := by
  have room : L.stackStart t + 68 ≤ c.psp.toNat := runs.holds.room
  have inside : c.psp.toNat ≤ L.stackEnd t := runs.holds.inside
  have main := runs.mspRoom
  have place := toNat_framePointer c.psp (by omega)
  refine ⟨by omega, place.2, inside, by bv_omega, by bv_omega⟩

theorem Runs.aligned (runs : L.Runs c t) :
    Aligned (framePointer c.psp) ∧ Aligned (framePointer c.psp - 32) := by
  have frame : Aligned (framePointer c.psp) := aligned_framePointer runs.holds.aligned
  have bounds := runs.bounds
  refine ⟨frame, ?_⟩
  unfold Aligned at frame ⊢
  omega

/-- What an address has to avoid so that it keeps its word: the part of the stack below
the stack pointer. -/
theorem Runs.outside_of_stack (runs : L.Runs c t) {a : Word} {n : ℕ}
    (low : L.stackStart t ≤ a.toNat) (high : a.toNat + 4 * n ≤ c.psp.toNat)
    (stack : ¬ (L.owner b = .task t ∧ b.toNat < c.psp.toNat)) : Memory.Outside a n b := by
  have inside := runs.bounds.2.2.1
  by_contra within
  unfold Memory.Outside at within
  apply stack
  refine ⟨?_, by omega⟩
  apply L.owner_stack <;> omega

theorem Runs.outside_of_main (runs : L.Runs c t)
    (main : ¬ (L.owner b = .main ∧ b.toNat < c.msp.toNat)) :
    Memory.Outside (c.msp - 8) 2 b := by
  have bounds := runs.bounds
  have room := runs.mspRoom
  have inside := runs.mspInside
  by_contra within
  unfold Memory.Outside at within
  apply main
  refine ⟨?_, by omega⟩
  apply L.owner_main <;> omega

theorem Runs.fits (runs : L.Runs c t) :
    Memory.Fits (framePointer c.psp) 8 ∧ Memory.Fits (framePointer c.psp - 32) 8 ∧
      Memory.Fits (c.msp - 8) 2 := by
  have bounds := runs.bounds
  have small := c.psp.isLt
  have small' := c.msp.isLt
  have room := runs.mspRoom
  unfold Memory.Fits
  omega

/-- The memory after the frame of the hardware. -/
def interrupted (c : Core) : Memory :=
  c.mem.storeAll (framePointer c.psp) (Context.frame ⟨c.reg, c.pc, c.xpsr, c.psp⟩)

theorem Runs.interrupted_of_ne (runs : L.Runs c t)
    (stack : ¬ (L.owner b = .task t ∧ b.toNat < c.psp.toNat)) : interrupted c b = c.mem b := by
  have bounds := runs.bounds
  exact Memory.storeAll_of_outside runs.fits.1
    (runs.outside_of_stack (by omega) (by rw [Context.length_frame]; omega) stack)

theorem Runs.suspended_eq (runs : L.Runs c t) :
    L.suspended c unknown =
      (((interrupted c).storeAll (framePointer c.psp - 32) (calleeSaved.map c.reg)).store
        (L.tcb t) (framePointer c.psp - 32)).storeAll (c.msp - 8)
          [L.pxCurrentTCB, 0xfffffffd#32] := by
  have kernel : interrupted c L.pxCurrentTCB = L.tcb t := by
    rw [runs.interrupted_of_ne (by rw [L.owner_current]; simp), runs.current]
  have same : calleeSaved.map (c.enterProcess 14#32 unknown).reg = calleeSaved.map c.reg := rfl
  unfold suspended savedMemory
  rw [same]
  have current : (c.enterProcess 14#32 unknown).mem L.pxCurrentTCB = L.tcb t := kernel
  rw [current]
  rfl

/-- The words that are written: below the stack pointers and in the control block. -/
theorem Runs.suspended_of_ne (runs : L.Runs c t)
    (stack : ¬ (L.owner b = .task t ∧ b.toNat < c.psp.toNat)) (tcb : b ≠ L.tcb t)
    (main : ¬ (L.owner b = .main ∧ b.toNat < c.msp.toNat)) : L.suspended c unknown b = c.mem b := by
  have bounds := runs.bounds
  rw [runs.suspended_eq, Memory.storeAll_of_outside runs.fits.2.2 (runs.outside_of_main main),
    Memory.store_of_ne tcb, Memory.storeAll_of_outside runs.fits.2.1
      (runs.outside_of_stack (by omega) (by simp [calleeSaved]; omega) stack),
    runs.interrupted_of_ne stack]

/-- The control block has the new top of the stack. -/
theorem Runs.suspended_tcb (runs : L.Runs c t) :
    L.suspended c unknown (L.tcb t) = framePointer c.psp - 32 := by
  have kernel : ¬ (L.owner (L.tcb t) = .main ∧ (L.tcb t).toNat < c.msp.toNat) := by
    rw [L.owner_tcb]
    simp
  rw [runs.suspended_eq,
    Memory.storeAll_of_outside runs.fits.2.2 (runs.outside_of_main kernel), Memory.store_self]

/-- On the stack of the task only the block transfers write. -/
theorem Runs.suspended_of_stack (runs : L.Runs c t) (own : L.owner b = .task t) :
    L.suspended c unknown b =
      (interrupted c).storeAll (framePointer c.psp - 32) (calleeSaved.map c.reg) b := by
  have notMain : ¬ (L.owner b = .main ∧ b.toNat < c.msp.toNat) := by rw [own]; simp
  have notTcb : b ≠ L.tcb t := ne_tcb_of_task own t
  rw [runs.suspended_eq, Memory.storeAll_of_outside runs.fits.2.2 (runs.outside_of_main notMain),
    Memory.store_of_ne notTcb]

/-- The task that was interrupted is saved. -/
theorem Runs.saved (runs : L.Runs c t) :
    L.Saved (L.suspended c unknown) t ⟨c.reg, c.pc, c.xpsr, c.psp⟩ := by
  have bounds := runs.bounds
  have fits := runs.fits
  have own (a : Word) (low : L.stackStart t ≤ a.toNat) (high : a.toNat + 32 ≤ c.psp.toNat)
      (b : Word) (within : ¬ Memory.Outside a 8 b) : L.owner b = .task t := by
    unfold Memory.Outside at within
    apply L.owner_stack <;> omega
  -- The block transfer of the handler is below the frame of the exception.
  have low : (L.suspended c unknown).loadAll (framePointer c.psp - 32) 8 =
      calleeSaved.map c.reg := by
    rw [← Memory.loadAll_storeAll (m := interrupted c) (calleeSaved.map c.reg) fits.2.1]
    apply Memory.loadAll_congr fits.2.1
    intro b within
    exact runs.suspended_of_stack (own _ (by omega) (by omega) b within)
  have high : (L.suspended c unknown).loadAll (framePointer c.psp) 8 =
      Context.frame ⟨c.reg, c.pc, c.xpsr, c.psp⟩ := by
    have frame : (interrupted c).loadAll (framePointer c.psp) 8 =
        Context.frame ⟨c.reg, c.pc, c.xpsr, c.psp⟩ := Memory.loadAll_storeAll _ fits.1
    rw [← frame]
    apply Memory.loadAll_congr fits.1
    intro b within
    rw [runs.suspended_of_stack (own _ (by omega) (by omega) b within)]
    apply Memory.storeAll_of_outside fits.2.1
    have eight : (calleeSaved.map c.reg).length = 8 := rfl
    unfold Memory.Outside at within ⊢
    omega
  exact
    { context := by
        rw [runs.suspended_tcb]
        exact savedContext_eq runs.holds.plain low (BitVec.sub_add_cancel _ _) high
      aligned := by rw [runs.suspended_tcb]; exact runs.aligned.2
      start := by rw [runs.suspended_tcb]; omega
      below := by rw [runs.suspended_tcb]; simp only; omega }

/-- The two words that the handler pops again. -/
theorem Runs.suspended_main (runs : L.Runs c t) (unknown : Reg → Word) :
    (L.suspended c unknown).loadAll (c.msp - 8) 2 = [L.pxCurrentTCB, 0xfffffffd#32] := by
  rw [runs.suspended_eq]
  exact Memory.loadAll_storeAll _ runs.fits.2.2

/-! ## A new task -/

/-- The context of a task that has not run yet. -/
structure Fresh (pxTopOfStack pxCode pvParameters prvTaskExitError : Word) (x : Context) :
    Prop where
  pc : x.pc = pxCode
  parameters : x.reg .r0 = pvParameters
  lr : x.reg .lr = prvTaskExitError
  xpsr : x.xpsr = portINITIAL_XPSR
  sp : x.sp = pxTopOfStack

variable {pxTopOfStack pxCode pvParameters prvTaskExitError : Word}

/-- The eight words that the exception return takes. -/
theorem loadAll_pxPortInitialiseStack (m : Memory) :
    (pxPortInitialiseStack m pxTopOfStack pxCode pvParameters prvTaskExitError).2.loadAll
        (pxTopOfStack - 64 + 32) 8 =
      [pvParameters, m (pxTopOfStack - 28), m (pxTopOfStack - 24), m (pxTopOfStack - 20),
        m (pxTopOfStack - 16), prvTaskExitError, pxCode, portINITIAL_XPSR] := by
  have place (k : Word) : pxTopOfStack - k + 4#32 = pxTopOfStack - (k - 4#32) := by bv_omega
  have base : pxTopOfStack - 64 + 32 = pxTopOfStack - 32#32 := by bv_omega
  -- Places below the top are told apart by their distance from it, which may wrap.
  have apart (i j : Word) : pxTopOfStack - i = pxTopOfStack - j ↔ i = j := by
    constructor
    · intro same
      bv_omega
    · rintro rfl
      rfl
  rw [base]
  simp [Memory.loadAll, place, pxPortInitialiseStack, Memory.store, apart]

/-- The frame that `pxPortInitialiseStack` leaves behind, read as a saved context. -/
theorem fresh_pxPortInitialiseStack (m : Memory) :
    Fresh pxTopOfStack pxCode pvParameters prvTaskExitError
      (savedContext (pxPortInitialiseStack m pxTopOfStack pxCode pvParameters prvTaskExitError).2
        (pxTopOfStack - 64)) := by
  have bit : portINITIAL_XPSR &&& skipBit = 0#32 := by decide
  unfold savedContext
  rw [loadAll_pxPortInitialiseStack]
  constructor
  · rfl
  · rfl
  · rfl
  · exact (by decide : portINITIAL_XPSR &&& ~~~skipBit = portINITIAL_XPSR)
  · have sum : pxTopOfStack - 64 + 32 + 32 = pxTopOfStack := by bv_omega
    simp only [Context.unstack, List.getD_cons_succ, List.getD_cons_zero, bit, if_true, sum]
    exact BitVec.or_zero

/-- The task has been created and has not run: its stack is as `pxPortInitialiseStack`
left it, and its control block has the new top of the stack. -/
structure Created (L : Layout T) (m : Memory) (t : T)
    (pxTopOfStack pxCode pvParameters prvTaskExitError : Word) : Prop where
  aligned : Aligned pxTopOfStack
  room : L.stackStart t + 68 ≤ pxTopOfStack.toNat
  inside : pxTopOfStack.toNat ≤ L.stackEnd t
  top : ∃ m₀, m (L.tcb t) =
      (pxPortInitialiseStack m₀ pxTopOfStack pxCode pvParameters prvTaskExitError).1 ∧
    ∀ b, L.owner b = .task t → m b =
      (pxPortInitialiseStack m₀ pxTopOfStack pxCode pvParameters prvTaskExitError).2 b

theorem Fresh.holds (fresh : Fresh pxTopOfStack pxCode pvParameters prvTaskExitError x)
    (created : L.Created m t pxTopOfStack pxCode pvParameters prvTaskExitError) : L.Holds t x where
  aligned := by rw [fresh.sp]; exact created.aligned
  room := by rw [fresh.sp]; exact created.room
  inside := by rw [fresh.sp]; exact created.inside
  plain := by rw [Context.Plain, fresh.xpsr]; decide
  thread := by rw [fresh.xpsr]; decide

theorem Created.saved (created : L.Created m t pxTopOfStack pxCode pvParameters prvTaskExitError) :
    ∃ x, Fresh pxTopOfStack pxCode pvParameters prvTaskExitError x ∧ L.Saved m t x := by
  obtain ⟨m₀, top, stack⟩ := created.top
  have room := created.room
  have inside := created.inside
  have small := pxTopOfStack.isLt
  have toNat : (pxTopOfStack - 64).toNat = pxTopOfStack.toNat - 64 := by bv_omega
  -- Only the words on the stack of the task matter, and they are still there.
  have same : savedContext m (pxTopOfStack - 64) =
      savedContext (pxPortInitialiseStack m₀ pxTopOfStack pxCode pvParameters
        prvTaskExitError).2 (pxTopOfStack - 64) := by
    apply savedContext_congr
    · unfold Memory.Fits
      omega
    · intro b within
      apply stack
      unfold Memory.Outside at within
      apply L.owner_stack <;> omega
  have fresh : Fresh pxTopOfStack pxCode pvParameters prvTaskExitError
      (savedContext m (pxTopOfStack - 64)) := by
    rw [same]
    exact fresh_pxPortInitialiseStack m₀
  have top' : m (L.tcb t) = pxTopOfStack - 64 := top
  refine ⟨_, fresh, ?_⟩
  exact
    { context := by rw [top']
      aligned := by
        have aligned := created.aligned
        rw [top']
        unfold Aligned at aligned ⊢
        omega
      start := by rw [top']; omega
      below := by rw [top', fresh.sp]; omega }

end Layout

end TestSystem.Port
