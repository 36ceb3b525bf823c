import TestSystem.Port.Layout
import TestSystem.Transition.Simulation

/-!
# Tasks that take turns

The system that the context switch serves. While a task runs it may change its own
registers and stack and whatever has no owner; an interrupt handler may change what
has no owner and the free part of the main stack. A task is suspended, and another
one goes on, when the `PendSV` exception is taken, which needs interrupts of the
lowest priority to be enabled.

Seen from the tasks there is no switch at all: each of them has registers and a stack
of its own, and the switch says whose turn it is. The memory with its stacks, control
blocks and exception frames simulates that, from the first task on.
-/

namespace TestSystem.Port

open TestSystem.Machine TestSystem.Transition TestSystem.Port.Layout

variable {T : Type*}

/-- What happens in the system. -/
inductive Act (T : Type*)
  /-- Task `t` runs for a while and gets to `x`. -/
  | task (t : T) (x : Context) (basepri : Word) (primask : Bool) (mem : Memory)
  /-- An interrupt is taken and has returned. -/
  | interrupt (mem : Memory)
  /-- The switch, with the effect of `vTaskSwitchContext` and the task that it picks. -/
  | pendSV (unknown : Reg → Word) (vTaskSwitchContext : Core → Core) (next : T)

section Processor

variable [DecidableEq T] (L : Layout T) (maxSyscall : Word)

/-- A task runs, or an interrupt or the switch comes between two of its instructions.
`xPortPendSVHandler` masks the interrupts that use the kernel; no interrupt is taken
while it runs, nor during the supervisor call. -/
def step (c : Core) : Act T → Option Core
  | .task t x basepri primask mem =>
    if c.mem L.pxCurrentTCB = L.tcb t ∧ L.Holds t x then
      some { c with
        reg := x.reg
        pc := x.pc
        xpsr := x.xpsr
        psp := x.sp
        basepri := basepri
        primask := primask
        mem := fun b => if L.owner b = .task t ∨ L.owner b = .other then mem b else c.mem b }
    else none
  | .interrupt mem =>
    some { c with
      mem := fun b =>
        if L.owner b = .main ∧ b.toNat < c.msp.toNat ∨ L.owner b = .other then mem b
        else c.mem b }
  | .pendSV unknown vTaskSwitchContext _ =>
    if c.basepri = 0#32 ∧ c.primask = false then do
      let c ← c.enter 14#32 unknown
      (xPortPendSVHandler L.pxCurrentTCB maxSyscall vTaskSwitchContext).foldlM Core.exec c
    else none

/-- From the call of `prvPortStartFirstTask` to the first instruction of a task. -/
def startFirstTask (unknown : Reg → Word) (c : Core) : Option Core := do
  let c ← prvPortStartFirstTask.foldlM Core.exec c
  -- `svc 0` takes exception 11.
  let c ← c.enter 11#32 unknown
  (vPortSVCHandler L.pxCurrentTCB).foldlM Core.exec c

end Processor

/-! ## Tasks on their own -/

/-- Each task has its registers and its stack, and one task has its turn. -/
structure Tasks (T : Type*) where
  running : T
  context : T → Context
  stack : T → Memory

namespace Tasks

variable [DecidableEq T]

/-- A task changes what is its own, and the switch whose turn it is. -/
def step (a : Tasks T) : Act T → Option (Tasks T)
  | .task t x _ _ mem =>
    if a.running = t then
      some { a with
        context := Function.update a.context t x
        stack := Function.update a.stack t mem }
    else none
  | .interrupt _ => some a
  | .pendSV _ _ next => some { a with running := next }

end Tasks

/-- The processor and its memory stand for the tasks. Below its stack pointer a task
has nothing that lasts. -/
structure Represents (L : Layout T) (c : Core) (a : Tasks T) : Prop where
  thread : c.handler = false
  process : c.spsel = true
  mspAligned : c.msp.toNat % 8 = 0
  mspRoom : L.mainStart + 8 ≤ c.msp.toNat
  mspInside : c.msp.toNat ≤ L.mainEnd
  current : c.mem L.pxCurrentTCB = L.tcb a.running
  registers : ⟨c.reg, c.pc, c.xpsr, c.psp⟩ = a.context a.running
  holds : ∀ t, L.Holds t (a.context t)
  saved : ∀ t, t ≠ a.running → L.Saved c.mem t (a.context t)
  live : ∀ t b, L.owner b = .task t → (a.context t).sp.toNat ≤ b.toNat → c.mem b = a.stack t b

variable {L : Layout T} {maxSyscall : Word} {c c' : Core} {a a' : Tasks T} {t : T} {x : Context}
  {unknown : Reg → Word} {vTaskSwitchContext : Core → Core} {next : T}

theorem Represents.runs (rep : Represents L c a) : L.Runs c a.running where
  holds := by rw [rep.registers]; exact rep.holds a.running
  current := rep.current
  mspAligned := rep.mspAligned
  mspRoom := rep.mspRoom
  mspInside := rep.mspInside

theorem Represents.psp (rep : Represents L c a) : (a.context a.running).sp = c.psp := by
  rw [← rep.registers]

/-! ## The switch -/

/-- Where `vTaskSwitchContext` is called. -/
def switchPoint (L : Layout T) (maxSyscall : Word) (c : Core) (unknown : Reg → Word) : Core :=
  savedCore (c.enterProcess 14#32 unknown) L.pxCurrentTCB maxSyscall

/-- Where it is called, at `c`, the function keeps to the calling convention and picks the
next task. -/
structure Switches (L : Layout T) (vTaskSwitchContext : Core → Core) (next : T) (c : Core) :
    Prop where
  calleeSaved_eq : ∀ r ∈ calleeSaved, (vTaskSwitchContext c).reg r = c.reg r
  msp_eq : (vTaskSwitchContext c).msp = c.msp
  basepri_eq : (vTaskSwitchContext c).basepri = c.basepri
  primask_eq : (vTaskSwitchContext c).primask = c.primask
  handler_eq : (vTaskSwitchContext c).handler = c.handler
  picks : (vTaskSwitchContext c).mem L.pxCurrentTCB = L.tcb next
  keeps_stacks : ∀ t b, L.owner b = .task t → (vTaskSwitchContext c).mem b = c.mem b
  keeps_tops : ∀ t, (vTaskSwitchContext c).mem (L.tcb t) = c.mem (L.tcb t)
  keeps_main : ∀ b, L.owner b = .main → c.msp.toNat ≤ b.toNat →
    (vTaskSwitchContext c).mem b = c.mem b

/-- The plainest of these functions stores the control block and returns. -/
def storeCurrent (L : Layout T) (t : T) (c : Core) : Core :=
  { c with mem := c.mem.store L.pxCurrentTCB (L.tcb t) }

theorem switches_storeCurrent (L : Layout T) (t : T) (c : Core) :
    Switches L (storeCurrent L t) t c where
  calleeSaved_eq _ _ := rfl
  msp_eq := rfl
  basepri_eq := rfl
  primask_eq := rfl
  handler_eq := rfl
  picks := Memory.store_self
  keeps_stacks u b own := by
    apply Memory.store_of_ne
    rintro rfl
    rw [L.owner_current] at own
    simp at own
  keeps_tops u := Memory.store_of_ne (L.current_ne_tcb u).symm
  keeps_main b own _ := by
    apply Memory.store_of_ne
    rintro rfl
    rw [L.owner_current] at own
    simp at own

/-- Each call of `vTaskSwitchContext` is such a call. -/
def Conventional (L : Layout T) (maxSyscall : Word) (c : Core) : Act T → Prop
  | .pendSV unknown vTaskSwitchContext next =>
    Switches L vTaskSwitchContext next (switchPoint L maxSyscall c unknown)
  | _ => True

/-- All tasks are saved when the next one is picked. -/
theorem Represents.all_saved (rep : Represents L c a) (t : T) :
    L.Saved (L.suspended c unknown) t (a.context t) := by
  have runs := rep.runs
  by_cases same : t = a.running
  -- The handler has just saved the running task, the others it leaves alone.
  · subst same
    rw [← rep.registers]
    exact runs.saved
  · apply (rep.saved t same).congr (rep.holds t).inside
    · apply runs.suspended_of_ne
      · rw [L.owner_tcb]
        simp
      · exact fun eq => same (L.tcb_injective eq)
      · rw [L.owner_tcb]
        simp
    · intro b own
      apply runs.suspended_of_ne
      · rw [own]
        simp [same]
      · exact ne_tcb_of_task own a.running
      · rw [own]
        simp

theorem Represents.live_suspended (rep : Represents L c a) (t : T) (b : Word)
    (own : L.owner b = .task t) (above : (a.context t).sp.toNat ≤ b.toNat) :
    L.suspended c unknown b = a.stack t b := by
  have runs := rep.runs
  rw [← rep.live t b own above]
  apply runs.suspended_of_ne
  · rintro ⟨own', below⟩
    have same : t = a.running := by simpa [own] using own'
    subst same
    rw [rep.psp] at above
    omega
  · exact ne_tcb_of_task own a.running
  · rw [own]
    simp

/-- After `vTaskSwitchContext` all tasks are still saved. -/
theorem Switches.keeps_saved (switches : Switches L vTaskSwitchContext next c)
    (holds : L.Holds t x) (saved : L.Saved c.mem t x) :
    L.Saved (vTaskSwitchContext c).mem t x :=
  saved.congr holds.inside (switches.keeps_tops t) fun b own => switches.keeps_stacks t b own

/-- The processor after the switch. -/
def switched (L : Layout T) (maxSyscall : Word) (c : Core) (unknown : Reg → Word)
    (vTaskSwitchContext : Core → Core) (x : Context) : Core :=
  Core.resume { vTaskSwitchContext (switchPoint L maxSyscall c unknown) with
    basepri := 0#32, msp := c.msp } x

section AtSwitch

variable (switches : Switches L vTaskSwitchContext next (switchPoint L maxSyscall c unknown))
include switches

theorem Represents.loadable (rep : Represents L c a) :
    Loadable L.pxCurrentTCB (vTaskSwitchContext (switchPoint L maxSyscall c unknown)).mem :=
  (switches.keeps_saved (rep.holds next) (rep.all_saved next)).loadable (rep.holds next)
    switches.picks

/-- What the handler pushed on the main stack survives the call. -/
theorem Represents.pushed (rep : Represents L c a) :
    (vTaskSwitchContext (switchPoint L maxSyscall c unknown)).mem.loadAll (c.msp - 8) 2 =
      [L.pxCurrentTCB, 0xfffffffd#32] := by
  have runs := rep.runs
  have bounds := runs.bounds
  have room := runs.mspRoom
  have inside := runs.mspInside
  rw [← runs.suspended_main unknown]
  apply Memory.loadAll_congr runs.fits.2.2
  intro b within
  unfold Memory.Outside at within
  apply switches.keeps_main
  · apply L.owner_main <;> omega
  · have point : (switchPoint L maxSyscall c unknown).msp = c.msp - 8 := rfl
    rw [point]
    omega

/-- The exception never faults, and the task picked goes on with its own context. -/
theorem Represents.step_pendSV [DecidableEq T] (rep : Represents L c a) (basepri : c.basepri = 0#32)
    (primask : c.primask = false) :
    step L maxSyscall c (.pendSV unknown vTaskSwitchContext next) =
      some (switched L maxSyscall c unknown vTaskSwitchContext (a.context next)) := by
  have runs := rep.runs
  have saved := switches.keeps_saved (rep.holds next) (rep.all_saved next)
  have mspAligned : Aligned c.msp := by
    have eight := runs.mspAligned
    unfold Aligned
    omega
  have kernel : (c.enterProcess 14#32 unknown).mem L.pxCurrentTCB = L.tcb a.running := by
    have kept : interrupted c L.pxCurrentTCB = c.mem L.pxCurrentTCB :=
      runs.interrupted_of_ne (by rw [L.owner_current]; simp)
    exact kept.trans runs.current
  have entered : c.enter 14#32 unknown = some (c.enterProcess 14#32 unknown) :=
    Core.enter_process c rep.thread rep.process runs.aligned.1
  -- The handler ends with the context that is saved for the task picked.
  have handled : wp (xPortPendSVHandler L.pxCurrentTCB maxSyscall vTaskSwitchContext)
      (fun c' => c' = switched L maxSyscall c unknown vTaskSwitchContext (a.context next))
      (c.enterProcess 14#32 unknown) := by
    rw [wp_xPortPendSVHandler (c := c.enterProcess 14#32 unknown) rfl rfl L.aligned_current
      (by rw [kernel]; exact L.aligned_tcb _) runs.aligned.1 mspAligned rfl switches.handler_eq
      switches.msp_eq (rep.pushed switches) (rep.loadable switches)]
    have context : savedContext (vTaskSwitchContext (switchPoint L maxSyscall c unknown)).mem
        ((vTaskSwitchContext (switchPoint L maxSyscall c unknown)).mem
          ((vTaskSwitchContext (switchPoint L maxSyscall c unknown)).mem L.pxCurrentTCB)) =
        a.context next := by
      rw [switches.picks]
      exact saved.context
    exact congrArg _ context
  obtain ⟨c', reached, rfl⟩ := handled
  rw [step, if_pos ⟨basepri, primask⟩, entered, Option.bind_eq_bind, Option.bind_some]
  exact reached

/-- After the switch the memory stands for the same tasks. -/
theorem Represents.after_switch (rep : Represents L c a) :
    Represents L (switched L maxSyscall c unknown vTaskSwitchContext (a.context next))
      { a with running := next } where
  thread := rfl
  process := rfl
  mspAligned := rep.mspAligned
  mspRoom := rep.mspRoom
  mspInside := rep.mspInside
  current := switches.picks
  registers := rfl
  holds := rep.holds
  saved t _ := switches.keeps_saved (rep.holds t) (rep.all_saved t)
  live t b own above := by
    have kept : (vTaskSwitchContext (switchPoint L maxSyscall c unknown)).mem b =
        L.suspended c unknown b := switches.keeps_stacks t b own
    exact kept.trans (rep.live_suspended t b own above)

end AtSwitch

/-! ## Between two switches -/

section Running

variable [DecidableEq T] {act : Act T} {acts : List (Act T)}

theorem Represents.step_task {basepri : Word} {primask : Bool} {mem : Memory}
    (rep : Represents L c a)
    (enabled : step L maxSyscall c (.task t x basepri primask mem) = some c') :
    ∃ a', a.step (.task t x basepri primask mem) = some a' ∧ Represents L c' a' := by
  by_cases guard : c.mem L.pxCurrentTCB = L.tcb t ∧ L.Holds t x
  · have same : a.running = t := L.tcb_injective (rep.current.symm.trans guard.1)
    subst same
    rw [step, if_pos guard] at enabled
    obtain rfl := Option.some.inj enabled
    refine ⟨_, if_pos rfl, ?_⟩
    exact
      { thread := rep.thread
        process := rep.process
        mspAligned := rep.mspAligned
        mspRoom := rep.mspRoom
        mspInside := rep.mspInside
        current := by simp [L.owner_current, rep.current]
        registers := by simp
        holds := fun u => by
          by_cases here : u = a.running
          · subst here
            simpa using guard.2
          · simpa [here] using rep.holds u
        -- The running task writes its own stack, which no other task owns.
        saved := fun u other => by
          simp only [Function.update_of_ne other]
          apply (rep.saved u other).congr (rep.holds u).inside
          · simp [L.owner_tcb]
          · intro b own
            simp [own, other]
        live := fun u b own above => by
          by_cases here : u = a.running
          · subst here
            simp [own]
          · simp only [Function.update_of_ne here] at above ⊢
            simpa [own, here] using rep.live u b own above }
  · simp [step, guard] at enabled

theorem Represents.step_interrupt {mem : Memory} (rep : Represents L c a)
    (enabled : step L maxSyscall c (.interrupt mem) = some c') : Represents L c' a := by
  obtain rfl := Option.some.inj enabled
  exact
    { thread := rep.thread
      process := rep.process
      mspAligned := rep.mspAligned
      mspRoom := rep.mspRoom
      mspInside := rep.mspInside
      current := by simp [L.owner_current, rep.current]
      registers := rep.registers
      holds := rep.holds
      saved := fun t other => by
        apply (rep.saved t other).congr (rep.holds t).inside
        · simp [L.owner_tcb]
        · intro b own
          simp [own]
      live := fun t b own above => by simpa [own] using rep.live t b own above }

/-- One step of the processor is one step of the tasks. -/
theorem Represents.simulates (rep : Represents L c a)
    (conventional : Conventional L maxSyscall c act) (enabled : step L maxSyscall c act = some c') :
    ∃ a', a.step act = some a' ∧ Represents L c' a' := by
  cases act with
  | task t x basepri primask mem => exact rep.step_task enabled
  | interrupt mem => exact ⟨a, rfl, rep.step_interrupt enabled⟩
  | pendSV unknown vTaskSwitchContext next =>
    by_cases guard : c.basepri = 0#32 ∧ c.primask = false
    · rw [rep.step_pendSV conventional guard.1 guard.2] at enabled
      obtain rfl := Option.some.inj enabled
      exact ⟨_, rfl, rep.after_switch conventional⟩
    · simp [step, guard] at enabled

theorem Represents.run (rep : Represents L c a) (run : Run (step L maxSyscall) c acts c')
    (conventional : Along (Conventional L maxSyscall) (step L maxSyscall) c acts) :
    ∃ a', Run Tasks.step a acts a' ∧ Represents L c' a' :=
  run.simulate_along conventional rep fun _ _ _ _ conventional rep enabled =>
    rep.simulates conventional enabled

end Running

end TestSystem.Port
