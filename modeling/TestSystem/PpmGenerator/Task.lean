import TestSystem.PpmGenerator.Device

/-!
# The generator and its task

`ppm_task` waits for the semaphore that the pause gives, sleeps, and restarts
the frame. The interrupt of the timer may run between any two statements of the
task, and the environment may rewrite a slot between any two steps.
-/

namespace TestSystem.PpmGenerator

/-- The statement of `ppm_task` that runs next. -/
inductive Pc
  /-- `xSemaphoreTake(ppm->sem, portMAX_DELAY)` -/
  | take
  /-- `if (ppm->state != PPM_STOPED)` -/
  | check
  /-- `vTaskDelayUntil(&lastWakeUpTime, ppm->waittime)` is called. -/
  | delay
  /-- The task sleeps for the given ticks. -/
  | sleep (ticks : UInt32)
  /-- `if (ppm->sum < 1000)` -/
  | test
  /-- `ppm->state = PPM_START` -/
  | setState
  /-- `ppm_start(ppm)` -/
  | restart
  /-- `ppm_endPause(ppm)` -/
  | endPause
  deriving DecidableEq, Repr

/-- The generator, its task, and the assertion that stopped the processor, if
one did. -/
structure Sys where
  ppm : Ppm
  pc : Pc
  fault : Option Fault
  deriving DecidableEq, Repr

/-- One step of the system. -/
inductive Label
  /-- The one-shot timer fires. -/
  | timer (ret woken : Int32)
  /-- The task runs one statement. -/
  | task (ret : Int32)
  /-- A slot is overwritten. -/
  | write (index : ℕ) (value : UInt32)
  deriving DecidableEq, Repr

/-- One statement of `ppm_task`; it is blocked on a semaphore that is not given. -/
def ppmTask (ret : Int32) (s : Sys) : Option Sys :=
  match s.pc with
  | .take =>
    if s.ppm.sem then some { s with ppm := { s.ppm with sem := false }, pc := .check } else none
  | .check => some { s with pc := if s.ppm.state ≠ .stoped then .delay else .take }
  -- `waittime` is read when the sleep begins, not when it ends.
  | .delay => some { s with pc := .sleep s.ppm.waittime }
  | .sleep ticks =>
    some { s with ppm := { s.ppm with log := s.ppm.log ++ [.delayed ticks] }, pc := .test }
  -- The pause has taken the whole milliseconds off `sum` already.
  | .test => some { s with pc := if s.ppm.sum < 1000 then .setState else .endPause }
  | .setState => some { s with ppm := { s.ppm with state := .start }, pc := .restart }
  -- The task drops the results of both calls.
  | .restart => some { s with ppm := (ppmStart ret s.ppm).1, pc := .take }
  | .endPause => some { s with ppm := (ppmEndPause ret s.ppm).1, pc := .take }

section Statements

variable {s : Sys} {ret : Int32}

theorem ppmTask_take (hpc : s.pc = .take) (given : s.ppm.sem) :
    ppmTask ret s = some { s with ppm := { s.ppm with sem := false }, pc := .check } := by
  simp [ppmTask, hpc, given]

theorem ppmTask_take_blocked (hpc : s.pc = .take) (taken : s.ppm.sem = false) :
    ppmTask ret s = none := by
  simp [ppmTask, hpc, taken]

theorem ppmTask_check (hpc : s.pc = .check) (running : s.ppm.state ≠ .stoped) :
    ppmTask ret s = some { s with pc := .delay } := by
  simp [ppmTask, hpc, running]

theorem ppmTask_delay (hpc : s.pc = .delay) :
    ppmTask ret s = some { s with pc := .sleep s.ppm.waittime } := by
  simp [ppmTask, hpc]

theorem ppmTask_sleep {ticks : UInt32} (hpc : s.pc = .sleep ticks) :
    ppmTask ret s =
      some { s with ppm := { s.ppm with log := s.ppm.log ++ [.delayed ticks] }, pc := .test } := by
  simp [ppmTask, hpc]

theorem ppmTask_test (hpc : s.pc = .test) (less : s.ppm.sum < 1000) :
    ppmTask ret s = some { s with pc := .setState } := by
  simp [ppmTask, hpc, less]

theorem ppmTask_setState (hpc : s.pc = .setState) :
    ppmTask ret s = some { s with ppm := { s.ppm with state := .start }, pc := .restart } := by
  simp [ppmTask, hpc]

theorem ppmTask_restart (hpc : s.pc = .restart) :
    ppmTask ret s = some { s with ppm := (ppmStart ret s.ppm).1, pc := .take } := by
  simp [ppmTask, hpc]

end Statements

/-- A timer that fires is disarmed before its interrupt runs. A failed
assertion disables the interrupts and loops, so nothing follows it. -/
def step (s : Sys) (label : Label) : Option Sys :=
  if s.fault.isSome then none
  else
    match label with
    | .timer ret woken =>
      if s.ppm.timer.isSome then
        match timerHandler ret woken { s.ppm with timer := none } with
        | .ok (ppm, _) => some { s with ppm := ppm }
        | .error fault => some { s with fault := some fault }
      else none
    | .task ret => ppmTask ret s
    | .write index value =>
      some { s with ppm := { s.ppm with slot := s.ppm.slot.set index value } }

/-- `timer_oneshot` succeeds in this step. -/
def Label.Accepted : Label → Prop
  | .timer ret _ => ¬ ret < 0
  | .task ret => ¬ ret < 0
  | .write _ _ => True

instance : DecidablePred Label.Accepted
  | .timer ret _ => inferInstanceAs (Decidable (¬ ret < 0))
  | .task ret => inferInstanceAs (Decidable (¬ ret < 0))
  | .write _ _ => inferInstanceAs (Decidable True)

/-- The generator as `ppm_init` hands it over: stopped, the timer not armed, the
semaphore taken, one slot for each channel. The budget and the wait time are
not initialised, and the slots may hold any values. -/
structure Created (ppm : Ppm) : Prop where
  state : ppm.state = .stoped
  timer : ppm.timer = none
  sem : ppm.sem = false
  slot : ppm.slot.length = ppm.slots.toNat
  log : ppm.log = []

/-- `ppm_start` has been called once; the task waits for the semaphore. -/
def boot (ret : Int32) (ppm : Ppm) : Sys :=
  { ppm := (ppmStart ret ppm).1, pc := .take, fault := none }

/-- The interrupt of the timer has something to do. -/
def Sys.Armed (s : Sys) : Prop := s.ppm.timer.isSome

/-- The semaphore is available. -/
def Sys.Given (s : Sys) : Prop := s.ppm.sem

/-- `ppm_task` is between its take of the semaphore and its next `ppm_start` or
`ppm_endPause`. -/
def Sys.TaskBusy (s : Sys) : Prop := s.pc ≠ .take

end TestSystem.PpmGenerator
