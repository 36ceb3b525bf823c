import TestSystem.Port.Schedule

/-!
# Every task goes on where it was

The scheduler is started on the main stack with tasks that were created and have not
run. The first task begins with the entry point and the parameter that it was created
with, so does every other when its turn comes for the first time, and from then on a
task goes on with the registers and the stack that it was suspended with, whatever
the other tasks, the interrupts and the kernel have done in between.
-/

namespace TestSystem.Port

open TestSystem.Machine TestSystem.Transition TestSystem.Port.Layout

/-- What a task is created with. -/
structure Entry where
  pxTopOfStack : Word
  pxCode : Word
  pvParameters : Word

variable {T : Type*} {L : Layout T} {maxSyscall prvTaskExitError : Word} {c c' c₁ c₂ : Core}
  {a a' : Tasks T} {first t next : T} {entry : T → Entry} {x : Context} {unknown : Reg → Word}
  {vTaskSwitchContext : Core → Core}

/-- The processor when `prvPortStartFirstTask` is called. The vector table begins with
the initial main stack pointer. -/
structure Boot (L : Layout T) (prvTaskExitError : Word) (entry : T → Entry) (first : T)
    (c : Core) : Prop where
  thread : c.handler = false
  main : c.spsel = false
  table : Aligned (c.mem 0xe000ed08#32)
  top : Aligned (c.mem (c.mem 0xe000ed08#32))
  room : L.mainStart + 44 ≤ (c.mem (c.mem 0xe000ed08#32)).toNat
  inside : (c.mem (c.mem 0xe000ed08#32)).toNat ≤ L.mainEnd
  current : c.mem L.pxCurrentTCB = L.tcb first
  created : ∀ t, L.Created c.mem t (entry t).pxTopOfStack (entry t).pxCode
    (entry t).pvParameters prvTaskExitError

/-! ## The start -/

/-- The processor at `svc 0`. -/
def atSvc (c : Core) : Core :=
  { c with
    reg := Function.update c.reg .r0 (c.mem (c.mem 0xe000ed08#32))
    msp := c.mem (c.mem 0xe000ed08#32)
    primask := false
    faultmask := false }

theorem wp_prvPortStartFirstTask {Q : Core → Prop} (table : Aligned (c.mem 0xe000ed08#32)) :
    wp prvPortStartFirstTask Q c ↔ Q (atSvc c) := by
  have vtor : Aligned 0xe000ed08#32 := by decide
  simp [prvPortStartFirstTask, Core.set, Core.setSpecial, table, vtor, atSvc]

/-- The frame of the supervisor call stays on the main stack; the tasks are untouched. -/
theorem Boot.kept (boot : Boot L prvTaskExitError entry first c) (unknown : Reg → Word)
    {b : Word} (other : L.owner b ≠ .main) :
    ((atSvc c).enterMain 11#32 unknown).mem b = c.mem b := by
  have room : L.mainStart + 44 ≤ (atSvc c).msp.toNat := boot.room
  have inside : (atSvc c).msp.toNat ≤ L.mainEnd := boot.inside
  have place := toNat_framePointer (atSvc c).msp (by omega)
  apply Memory.storeAll_of_outside
  · have small := (atSvc c).msp.isLt
    rw [Context.length_frame]
    unfold Memory.Fits
    omega
  · rw [Context.length_frame]
    by_contra within
    unfold Memory.Outside at within
    apply other
    apply L.owner_main <;> omega

theorem Boot.saved (boot : Boot L prvTaskExitError entry first c) (unknown : Reg → Word)
    (holds : L.Holds t x) (saved : L.Saved c.mem t x) :
    L.Saved ((atSvc c).enterMain 11#32 unknown).mem t x := by
  apply saved.congr holds.inside
  · exact boot.kept unknown (by rw [L.owner_tcb]; simp)
  · intro b own
    exact boot.kept unknown (by rw [own]; simp)

/-- The first task runs, with all tasks as they were created. -/
theorem Boot.start [DecidableEq T] (boot : Boot L prvTaskExitError entry first c)
    (unknown : Reg → Word) :
    ∃ c' a, startFirstTask L unknown c = some c' ∧ Represents L c' a ∧ a.running = first ∧
      (∀ t, Fresh (entry t).pxTopOfStack (entry t).pxCode (entry t).pvParameters
        prvTaskExitError (a.context t)) ∧ c'.basepri = 0#32 ∧ c'.primask = false := by
  choose x fresh saved using fun t => (boot.created t).saved
  have holds (t : T) : L.Holds t (x t) := (fresh t).holds (boot.created t)
  have room : L.mainStart + 44 ≤ (atSvc c).msp.toNat := boot.room
  have inside : (atSvc c).msp.toNat ≤ L.mainEnd := boot.inside
  have place := toNat_framePointer (atSvc c).msp (by omega)
  have kept (t : T) := boot.saved unknown (holds t) (saved t)
  have current : ((atSvc c).enterMain 11#32 unknown).mem L.pxCurrentTCB = L.tcb first :=
    (boot.kept unknown (by rw [L.owner_current]; simp)).trans boot.current
  have entered : (atSvc c).enter 11#32 unknown = some ((atSvc c).enterMain 11#32 unknown) :=
    Core.enter_main _ boot.thread boot.main (aligned_framePointer boot.top)
  -- The supervisor call is taken between the two programs.
  obtain ⟨_, first', rfl⟩ := (wp_prvPortStartFirstTask (Q := fun c' => c' = atSvc c)
    boot.table).mpr rfl
  obtain ⟨c', handled, rfl⟩ := (wp_vPortSVCHandler
    (Q := fun c' => c' = Core.resume { (atSvc c).enterMain 11#32 unknown with basepri := 0#32 }
      (x first)) (c := (atSvc c).enterMain 11#32 unknown) rfl rfl
    ((kept first).loadable (holds first) current)).mpr (by rw [current, (kept first).context])
  refine ⟨Core.resume { (atSvc c).enterMain 11#32 unknown with basepri := 0#32 } (x first),
    ⟨first, x, fun _ => c.mem⟩, ?_, ?_, rfl, fresh, rfl, rfl⟩
  · rw [startFirstTask, first', Option.bind_eq_bind, Option.bind_some, entered,
      Option.bind_some, handled]
  · exact
      { thread := rfl
        process := rfl
        mspAligned := framePointer_mod_eight boot.top
        mspRoom := by
          have msp : (atSvc c).msp.toNat ≤ (framePointer (atSvc c).msp).toNat + 36 := place.1
          exact (by omega : L.mainStart + 8 ≤ (framePointer (atSvc c).msp).toNat)
        mspInside := (by omega : (framePointer (atSvc c).msp).toNat ≤ L.mainEnd)
        current := current
        registers := rfl
        holds := holds
        saved := fun t _ => kept t
        live := fun t b own _ => boot.kept unknown (by rw [own]; simp) }

/-! ## Runs -/

section Runs

variable [DecidableEq T] {acts : List (Act T)}

/-- A task whose turn does not come keeps its registers and its stack. -/
theorem Tasks.run_of_not_picked (run : Run Tasks.step a acts a') (waits : a.running ≠ t)
    (notPicked : ∀ unknown f next, .pendSV unknown f next ∈ acts → next ≠ t) :
    a'.running ≠ t ∧ a'.context t = a.context t ∧ a'.stack t = a.stack t := by
  induction run with
  | nil => exact ⟨waits, rfl, rfl⟩
  | @snoc acts b act u prior enabled ih =>
    have before := ih fun unknown f next mem =>
      notPicked unknown f next (List.mem_append_left _ mem)
    cases act with
    | task v x basepri primask mem =>
      by_cases own : b.running = v
      · rw [Tasks.step, if_pos own] at enabled
        obtain rfl := Option.some.inj enabled
        have other : t ≠ v := fun same => before.1 (own.trans same.symm)
        exact ⟨before.1, by simpa [other] using before.2.1, by simpa [other] using before.2.2⟩
      · simp [Tasks.step, own] at enabled
    | interrupt mem =>
      obtain rfl := Option.some.inj enabled
      exact before
    | pendSV unknown f next =>
      obtain rfl := Option.some.inj enabled
      refine ⟨notPicked unknown f next ?_, before.2⟩
      exact List.mem_append_right _ (List.mem_singleton_self _)

/-- What waits is found again when its turn comes. -/
theorem Represents.turn (rep : Represents L c a) (run : Run (step L maxSyscall) c acts c₁)
    (conventional : Along (Conventional L maxSyscall) (step L maxSyscall) c acts)
    (waits : a.running ≠ t)
    (notPicked : ∀ unknown f next, .pendSV unknown f next ∈ acts → next ≠ t)
    (switches : Switches L vTaskSwitchContext t (switchPoint L maxSyscall c₁ unknown))
    (back : step L maxSyscall c₁ (.pendSV unknown vTaskSwitchContext t) = some c₂) :
    ⟨c₂.reg, c₂.pc, c₂.xpsr, c₂.psp⟩ = a.context t ∧ c₂.basepri = 0#32 ∧ c₂.primask = false ∧
      ∀ b, L.owner b = .task t → (a.context t).sp.toNat ≤ b.toNat → c₂.mem b = a.stack t b := by
  obtain ⟨a₁, run₁, rep₁⟩ := rep.run run conventional
  obtain ⟨-, context, stack⟩ := Tasks.run_of_not_picked run₁ waits notPicked
  by_cases guard : c₁.basepri = 0#32 ∧ c₁.primask = false
  · rw [rep₁.step_pendSV switches guard.1 guard.2] at back
    obtain rfl := Option.some.inj back
    have after := rep₁.after_switch switches
    refine ⟨context, rfl, ?_, ?_⟩
    · exact switches.primask_eq.trans guard.2
    · intro b own above
      rw [← stack]
      exact after.live _ b own (by rw [context]; exact above)
  · simp [step, guard] at back

/-! Two tasks with stacks of 256 bytes each, for concrete runs. -/

/-- Control blocks from 0x1000 on, stacks from 0x2000 on and the main stack from
0x3000 on. -/
def twoTasks : Layout Bool where
  owner a :=
    if a = 0x1000#32 ∨ a = 0x1004#32 ∨ a = 0x1008#32 then .kernel
    else if 0x2000 ≤ a.toNat ∧ a.toNat < 0x2100 then .task false
    else if 0x2100 ≤ a.toNat ∧ a.toNat < 0x2200 then .task true
    else if 0x3000 ≤ a.toNat ∧ a.toNat < 0x3100 then .main
    else .other
  pxCurrentTCB := 0x1000#32
  tcb t := if t then 0x1008#32 else 0x1004#32
  stackStart t := if t then 0x2100 else 0x2000
  stackEnd t := if t then 0x2200 else 0x2100
  mainStart := 0x3000
  mainEnd := 0x3100
  aligned_current := by decide
  aligned_tcb := by decide
  owner_current := by decide
  owner_tcb := by decide
  current_ne_tcb := by decide
  tcb_injective := by decide
  owner_stack t a low high := by
    have notKernel : ¬ (a = 0x1000#32 ∨ a = 0x1004#32 ∨ a = 0x1008#32) := by
      rintro (rfl | rfl | rfl) <;> cases t <;> simp at low
    cases t with
    | false => simp_all
    | true =>
      simp only [if_true] at low high
      rw [if_neg notKernel, if_neg (by omega), if_pos ⟨low, high⟩]
  owner_main a low high := by
    have notKernel : ¬ (a = 0x1000#32 ∨ a = 0x1004#32 ∨ a = 0x1008#32) := by
      rintro (rfl | rfl | rfl) <;> simp at low
    rw [if_neg notKernel, if_neg (by omega), if_neg (by omega), if_pos ⟨low, high⟩]

/-- Both tasks use the whole of their stack. -/
def twoEntries (t : Bool) : Entry where
  pxTopOfStack := if t then 0x2200#32 else 0x2100#32
  pxCode := if t then 0x501#32 else 0x401#32
  pvParameters := if t then 1#32 else 0#32

/-- The memory after the stack of one task was prepared. -/
def twoStacks (t : Bool) : Memory :=
  (pxPortInitialiseStack (fun _ => 0) (twoEntries t).pxTopOfStack (twoEntries t).pxCode
    (twoEntries t).pvParameters 0x301#32).2

/-- The processor before the scheduler is started. -/
def twoTasksCore : Core where
  reg _ := 0
  pc := 0x201#32
  xpsr := 0x01000000#32
  msp := 0x3100#32
  psp := 0
  basepri := 0
  primask := true
  faultmask := false
  handler := false
  spsel := false
  mem b :=
    if twoTasks.owner b = .task false then twoStacks false b
    else if twoTasks.owner b = .task true then twoStacks true b
    else if b = 0#32 then 0x3100#32
    else if b = 0x1000#32 then 0x1004#32
    else if b = 0x1004#32 then 0x20c0#32
    else if b = 0x1008#32 then 0x21c0#32
    else 0

theorem boot_twoTasks : Boot twoTasks 0x301#32 twoEntries false twoTasksCore where
  thread := rfl
  main := rfl
  table := by decide
  top := by decide
  room := by decide
  inside := by decide
  current := by decide
  created t :=
    { aligned := by cases t <;> decide
      room := by cases t <;> decide
      inside := by cases t <;> decide
      top := by
        refine ⟨fun _ => 0, by cases t <;> decide, fun b own => ?_⟩
        cases t with
        | false => exact if_pos own
        | true =>
          have other : twoTasks.owner b ≠ .task false := by rw [own]; decide
          exact (if_neg other).trans (if_pos own) }

variable (maxSyscall) in
/-- From the start on, the stacks, control blocks and exception frames stand for tasks
that each have their own registers and stack, begin at their entry points and take
turns; and with interrupts enabled no switch faults. -/
theorem scheduler_refines (boot : Boot L prvTaskExitError entry first c)
    (unknown : Reg → Word) :
    ∃ c₀ a₀, startFirstTask L unknown c = some c₀ ∧ a₀.running = first ∧
      (∀ t, Fresh (entry t).pxTopOfStack (entry t).pxCode (entry t).pvParameters
        prvTaskExitError (a₀.context t)) ∧
      ∀ acts c', Run (step L maxSyscall) c₀ acts c' →
        Along (Conventional L maxSyscall) (step L maxSyscall) c₀ acts →
          (∃ a', Run Tasks.step a₀ acts a' ∧ Represents L c' a') ∧
            (c'.basepri = 0#32 → c'.primask = false →
              ∀ unknown f next, Switches L f next (switchPoint L maxSyscall c' unknown) →
                (step L maxSyscall c' (.pendSV unknown f next)).isSome) := by
  obtain ⟨c₀, a₀, started, rep, running, fresh, -⟩ := boot.start unknown
  refine ⟨c₀, a₀, started, running, fresh, fun acts c' run conventional => ?_⟩
  obtain ⟨a', run', rep'⟩ := rep.run run conventional
  refine ⟨⟨a', run', rep'⟩, fun basepri primask unknown f next switches => ?_⟩
  rw [rep'.step_pendSV switches basepri primask]
  rfl

theorem scheduler_refines_twoTasks :
    ∃ c₀ a₀, startFirstTask twoTasks (fun _ => 0) twoTasksCore = some c₀ ∧
      a₀.running = false ∧ (a₀.context true).pc = 0x501#32 ∧
      ∀ acts c', Run (step twoTasks 0x20#32) c₀ acts c' →
        Along (Conventional twoTasks 0x20#32) (step twoTasks 0x20#32) c₀ acts →
          ∃ a', Run Tasks.step a₀ acts a' ∧ Represents twoTasks c' a' := by
  obtain ⟨c₀, a₀, started, running, fresh, refines⟩ :=
    scheduler_refines 0x20#32 boot_twoTasks fun _ => 0
  exact ⟨c₀, a₀, started, running, (fresh true).pc,
    fun acts c' run conventional => (refines acts c' run conventional).1⟩

/-- A task that was suspended goes on with the registers, the interrupt mask and the
stack that it had. -/
theorem resumes_where_suspended {acts₀ : List (Act T)} {c₀ c₃ : Core} {unknown' : Reg → Word}
    {vTaskSwitchContext' : Core → Core} (boot : Boot L prvTaskExitError entry first c)
    (started : startFirstTask L unknown c = some c₀)
    (reached : Run (step L maxSyscall) c₀ acts₀ c₁)
    (conventional : Along (Conventional L maxSyscall) (step L maxSyscall) c₀ acts₀)
    (current : c₁.mem L.pxCurrentTCB = L.tcb t)
    (switches : Switches L vTaskSwitchContext next (switchPoint L maxSyscall c₁ unknown))
    (out : step L maxSyscall c₁ (.pendSV unknown vTaskSwitchContext next) = some c₂)
    (leaves : next ≠ t) (between : Run (step L maxSyscall) c₂ acts c₃)
    (conventional' : Along (Conventional L maxSyscall) (step L maxSyscall) c₂ acts)
    (notPicked : ∀ unknown f next, .pendSV unknown f next ∈ acts → next ≠ t)
    (switches' : Switches L vTaskSwitchContext' t (switchPoint L maxSyscall c₃ unknown'))
    (back : step L maxSyscall c₃ (.pendSV unknown' vTaskSwitchContext' t) = some c') :
    c'.reg = c₁.reg ∧ c'.pc = c₁.pc ∧ c'.xpsr = c₁.xpsr ∧ c'.psp = c₁.psp ∧
      c'.basepri = c₁.basepri ∧ c'.primask = c₁.primask ∧
      ∀ b, L.owner b = .task t → c₁.psp.toNat ≤ b.toNat → c'.mem b = c₁.mem b := by
  obtain ⟨c₀', a₀, started', rep, -⟩ := boot.start unknown
  obtain rfl : c₀ = c₀' := Option.some.inj (started.symm.trans started')
  obtain ⟨a₁, -, rep₁⟩ := rep.run reached conventional
  have running : a₁.running = t := L.tcb_injective (rep₁.current.symm.trans current)
  by_cases guard : c₁.basepri = 0#32 ∧ c₁.primask = false
  · rw [rep₁.step_pendSV switches guard.1 guard.2] at out
    obtain rfl := Option.some.inj out
    -- Switched out with an open mask, as which it is switched in again.
    have rep₂ := rep₁.after_switch switches
    obtain ⟨context, basepri, primask, live⟩ :=
      rep₂.turn between conventional' leaves notPicked switches' back
    have own : ⟨c'.reg, c'.pc, c'.xpsr, c'.psp⟩ =
        (⟨c₁.reg, c₁.pc, c₁.xpsr, c₁.psp⟩ : Context) := by
      rw [context, rep₁.registers, running]
    obtain ⟨reg, pc, xpsr, psp⟩ := Context.mk.inj own
    refine ⟨reg, pc, xpsr, psp, basepri.trans guard.1.symm, primask.trans guard.2.symm, ?_⟩
    intro b ours above
    have sp : (a₁.context t).sp = c₁.psp := by rw [← running, rep₁.psp]
    have above' : (a₁.context t).sp.toNat ≤ b.toNat := by rw [sp]; exact above
    rw [live b ours above', ← rep₁.live t b ours above']
  · simp [step, guard] at out

/-- The first task of two gives way to the other and comes back. -/
theorem resumes_where_suspended_twoTasks :
    ∃ c₁ c₂ c', startFirstTask twoTasks (fun _ => 0) twoTasksCore = some c₁ ∧
      step twoTasks 0x20#32 c₁ (.pendSV (fun _ => 0) (storeCurrent twoTasks true) true) =
        some c₂ ∧
      step twoTasks 0x20#32 c₂ (.pendSV (fun _ => 0) (storeCurrent twoTasks false) false) =
        some c' ∧
      c'.reg = c₁.reg ∧ c'.pc = c₁.pc ∧ c'.psp = c₁.psp := by
  obtain ⟨c₁, a₁, started, rep, running, -, basepri, primask⟩ :=
    boot_twoTasks.start fun _ => 0
  have switches (t : Bool) (c : Core) := switches_storeCurrent twoTasks t
    (switchPoint twoTasks 0x20#32 c fun _ => 0)
  have out := rep.step_pendSV (switches true c₁) basepri primask
  have rep₂ := rep.after_switch (switches true c₁)
  have back := rep₂.step_pendSV (switches false _) rfl primask
  have current := rep.current
  rw [running] at current
  have quiet (c : Core) : Along (Conventional twoTasks 0x20#32) (step twoTasks 0x20#32) c [] :=
    fun past a rest t split => by simp at split
  obtain ⟨reg, pc, -, psp, -⟩ := resumes_where_suspended boot_twoTasks started .nil (quiet _)
    current (switches true _) out (by decide) .nil (quiet _) (by simp) (switches false _) back
  exact ⟨c₁, _, _, started, out, back, reg, pc, psp⟩

/-- A task whose turn comes for the first time begins at its entry point, with its
parameter and with `prvTaskExitError` as the place to return to. -/
theorem begins_at_entry {c₀ : Core} (boot : Boot L prvTaskExitError entry first c)
    (started : startFirstTask L unknown c = some c₀) (other : first ≠ t)
    (reached : Run (step L maxSyscall) c₀ acts c₁)
    (conventional : Along (Conventional L maxSyscall) (step L maxSyscall) c₀ acts)
    (notPicked : ∀ unknown f next, .pendSV unknown f next ∈ acts → next ≠ t)
    (switches : Switches L vTaskSwitchContext t (switchPoint L maxSyscall c₁ unknown))
    (turn : step L maxSyscall c₁ (.pendSV unknown vTaskSwitchContext t) = some c₂) :
    c₂.pc = (entry t).pxCode ∧ c₂.reg .r0 = (entry t).pvParameters ∧
      c₂.reg .lr = prvTaskExitError ∧ c₂.xpsr = portINITIAL_XPSR ∧
      c₂.psp = (entry t).pxTopOfStack ∧ c₂.basepri = 0#32 := by
  obtain ⟨c₀', a₀, started', rep, running, fresh, -⟩ := boot.start unknown
  obtain rfl : c₀ = c₀' := Option.some.inj (started.symm.trans started')
  obtain ⟨context, basepri, -⟩ := rep.turn reached conventional (by rw [running]; exact other)
    notPicked switches turn
  have new := fresh t
  rw [← context] at new
  exact ⟨new.pc, new.parameters, new.lr, new.xpsr, new.sp, basepri⟩

theorem begins_at_entry_twoTasks :
    ∃ c₁ c₂, startFirstTask twoTasks (fun _ => 0) twoTasksCore = some c₁ ∧
      step twoTasks 0x20#32 c₁ (.pendSV (fun _ => 0) (storeCurrent twoTasks true) true) =
        some c₂ ∧
      c₂.pc = 0x501#32 ∧ c₂.reg .r0 = 1#32 := by
  obtain ⟨c₁, a₁, started, rep, running, -, basepri, primask⟩ :=
    boot_twoTasks.start fun _ => 0
  have switches := switches_storeCurrent twoTasks true (switchPoint twoTasks 0x20#32 c₁ fun _ => 0)
  have turn := rep.step_pendSV switches basepri primask
  obtain ⟨pc, parameters, -⟩ := begins_at_entry boot_twoTasks started (by decide) .nil
    (fun past a rest t split => by simp at split) (by simp) switches turn
  exact ⟨c₁, _, started, turn, pc, parameters⟩

end Runs

end TestSystem.Port
