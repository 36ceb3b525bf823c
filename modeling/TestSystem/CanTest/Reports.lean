import TestSystem.Mask.Union
import TestSystem.Transition.Run

/-!
# The error reports of the CAN test

`src/c28x/can_test.c` collects the errors the driver reports from its interrupt
in two words. The task tests the first word after every message; in a section
with interrupts disabled it moves both words to local variables and clears
them, and prints what it took after interrupts are enabled again. The echo, the
receive and the send loop share this code.
-/

namespace TestSystem.CanTest

open TestSystem.Mask TestSystem.Transition

/-- The loop of `can_task` that is configured. -/
inductive Loop
  | echo
  | receive
  | send
  deriving DecidableEq, Repr

/-- The statement of the loop that the task executes next. -/
inductive Place
  /-- `PRINTF("waiting ...")` or `PRINTF("transmit ...")`. -/
  | announce
  /-- `xQueueReceive`, `can_recv` or `can_send`. -/
  | transfer
  /-- What is printed about the message, by the value of `ret`. -/
  | showMessage (ret : Int32)
  /-- `if (can_err)`. -/
  | test
  | dint
  | readErr
  | readErrData
  | clearErr
  | clearErrData
  | eint
  /-- The call of `print_can_error`. -/
  | printCanError
  /-- `vTaskDelayUntil` of the send loop. -/
  | delay
  deriving DecidableEq, Repr

variable {w v : ℕ}

/-- The task, the two global words and the temporaries. The words have the widths
of `can_error_t` and `can_errorData_t`. What was reported and what was passed to
`print_can_error` is recorded. -/
structure State (w v : ℕ) where
  place : Place
  interrupts : Bool
  canErr : BitVec w
  canErrData : BitVec v
  tmpCanErr : BitVec 64
  tmpCanErrData : BitVec 64
  reported : List (BitVec w × BitVec v)
  printed : List (BitVec w × BitVec v)
  deriving DecidableEq, Repr

/-- Before the first iteration of the loop. -/
def boot (w v : ℕ) : State w v where
  place := .announce
  interrupts := true
  canErr := 0
  canErrData := 0
  tmpCanErr := 0
  tmpCanErrData := 0
  reported := []
  printed := []

/-- What happens to the task and its error words. -/
inductive Label (w v : ℕ)
  /-- The task executes its next statement; a transfer returns `ret`. -/
  | task (ret : Int32)
  /-- The driver reports an error from its interrupt. -/
  | report (err : BitVec w) (data : BitVec v)
  deriving DecidableEq, Repr

/-- The callback of the driver collects what it reports. -/
def canTestError (err : BitVec w) (data : BitVec v) (s : State w v) : State w v :=
  { s with
    canErr := s.canErr ||| err
    canErrData := s.canErrData ||| data
    reported := s.reported ++ [(err, data)] }

/-- Where the loop goes on after the errors. -/
def Loop.afterErrors : Loop → Place
  | .echo => .announce
  | .receive => .announce
  | .send => .delay

/-- One statement of `can_task`. -/
def canTask (loop : Loop) (ret : Int32) (s : State w v) : State w v :=
  match s.place with
  | .announce => { s with place := .transfer }
  | .transfer => { s with place := .showMessage ret }
  | .showMessage _ => { s with place := .test }
  -- The test is outside the section, and reads `can_err` only.
  | .test => { s with place := if s.canErr ≠ 0 then .dint else loop.afterErrors }
  | .dint => { s with interrupts := false, place := .readErr }
  | .readErr => { s with tmpCanErr := s.canErr.setWidth 64, place := .readErrData }
  | .readErrData => { s with tmpCanErrData := s.canErrData.setWidth 64, place := .clearErr }
  | .clearErr => { s with canErr := 0, place := .clearErrData }
  | .clearErrData => { s with canErrData := 0, place := .eint }
  -- A report may come before the call, but it does not reach the temporaries.
  | .eint => { s with interrupts := true, place := .printCanError }
  | .printCanError =>
    { s with
      printed := s.printed ++ [(s.tmpCanErr.setWidth w, s.tmpCanErrData.setWidth v)]
      place := loop.afterErrors }
  | .delay => { s with place := .announce }

/-- The interrupt is held back while interrupts are disabled. -/
def step (loop : Loop) (s : State w v) : Label w v → Option (State w v)
  | .task ret => some (canTask loop ret s)
  | .report err data => if s.interrupts then some (canTestError err data s) else none

/-! ## What was taken -/

/-- What the next call of `print_can_error` is passed. -/
def State.arguments (s : State w v) : BitVec w × BitVec v :=
  (s.tmpCanErr.setWidth w, s.tmpCanErrData.setWidth v)

/-- The errors that were taken out of `can_err` and not passed on yet. -/
def State.takenErr (s : State w v) : BitVec w :=
  match s.place with
  | .clearErrData | .eint | .printCanError => s.arguments.1
  | _ => 0

/-- The data that was taken out of `can_err_data` and not passed on yet. -/
def State.takenErrData (s : State w v) : BitVec v :=
  match s.place with
  | .eint | .printCanError => s.arguments.2
  | _ => 0

/-- The run passed an instant inside the section with interrupts disabled at which
the two words held this pair. -/
def Passed (loop : Loop) (labels : List (Label w v)) (pair : BitVec w × BitVec v) : Prop :=
  ∃ before after t, labels = before ++ after ∧ Run (step loop) (boot w v) before t ∧
    t.place = .readErr ∧ t.interrupts = false ∧ (t.canErr, t.canErrData) = pair

variable {loop : Loop} {labels : List (Label w v)} {s t : State w v} {a : Label w v}
  {pair : BitVec w × BitVec v}

theorem Passed.snoc (passed : Passed loop labels pair) : Passed loop (labels ++ [a]) pair := by
  obtain ⟨before, after, t, rfl, run, inside, disabled, held⟩ := passed
  exact ⟨before, after ++ [a], t, by simp, run, inside, disabled, held⟩

/-! ## The invariant -/

/-- What the interrupt flag and the temporaries are at each statement. -/
def Tracked (loop : Loop) (labels : List (Label w v)) (s : State w v) : Prop :=
  match s.place with
  | .readErr => s.interrupts = false
  | .readErrData => s.interrupts = false ∧ s.arguments.1 = s.canErr ∧
      Passed loop labels (s.canErr, s.canErrData)
  | .clearErr => s.interrupts = false ∧ s.arguments = (s.canErr, s.canErrData) ∧
      Passed loop labels s.arguments
  | .clearErrData => s.interrupts = false ∧ s.canErr = 0 ∧ s.arguments.2 = s.canErrData ∧
      Passed loop labels s.arguments
  | .eint => s.interrupts = false ∧ s.canErr = 0 ∧ s.canErrData = 0 ∧
      Passed loop labels s.arguments
  | .printCanError => s.interrupts = true ∧ Passed loop labels s.arguments
  | _ => s.interrupts = true

/-- Nothing reported is lost, and each pair passed on was held at one instant. -/
structure ReportsKept (loop : Loop) (labels : List (Label w v)) (s : State w v) : Prop where
  err : union (s.reported.map Prod.fst) =
    union (s.printed.map Prod.fst) ||| (s.takenErr ||| s.canErr)
  data : union (s.reported.map Prod.snd) =
    union (s.printed.map Prod.snd) ||| (s.takenErrData ||| s.canErrData)
  snapshot : ∀ pair ∈ s.printed, Passed loop labels pair

section Statements

variable (tracked : Tracked loop labels s)
include tracked

theorem Tracked.of_clearErr (hplace : s.place = .clearErr) :
    s.interrupts = false ∧ s.arguments = (s.canErr, s.canErrData) ∧
      Passed loop labels s.arguments := by
  simpa [Tracked, hplace] using tracked

theorem Tracked.of_clearErrData (hplace : s.place = .clearErrData) :
    s.interrupts = false ∧ s.canErr = 0 ∧ s.arguments.2 = s.canErrData ∧
      Passed loop labels s.arguments := by
  simpa [Tracked, hplace] using tracked

theorem Tracked.of_printCanError (hplace : s.place = .printCanError) :
    s.interrupts = true ∧ Passed loop labels s.arguments := by
  simpa [Tracked, hplace] using tracked

end Statements

/-- A report comes outside the section only, where it adds to the words. -/
theorem tracked_report (tracked : Tracked loop labels s) (enabled : s.interrupts = true)
    (err : BitVec w) (data : BitVec v) :
    Tracked loop (labels ++ [a]) (canTestError err data s) := by
  unfold Tracked at tracked ⊢
  cases hplace : s.place with
  -- Inside the section the interrupt is held back.
  | readErr => simp [hplace, enabled] at tracked
  | readErrData => simp [hplace, enabled] at tracked
  | clearErr => simp [hplace, enabled] at tracked
  | clearErrData => simp [hplace, enabled] at tracked
  | eint => simp [hplace, enabled] at tracked
  | printCanError =>
    simp only [hplace] at tracked
    simpa [canTestError, hplace, enabled, State.arguments] using tracked.2.snoc
  | announce | transfer | showMessage | test | dint | delay =>
    simpa [canTestError, hplace] using enabled

theorem tracked_start (outside : s.place = .announce ∨ s.place = .delay ∨ s.place = .dint)
    (enabled : s.interrupts = true) : Tracked loop labels s := by
  unfold Tracked
  rcases outside with h | h | h <;> simpa [h] using enabled

/-- Each statement establishes what the next relies on. -/
theorem tracked_task (errFits : w ≤ 64) (dataFits : v ≤ 64)
    (run : Run (step loop) (boot w v) labels s) (tracked : Tracked loop labels s) (ret : Int32) :
    Tracked loop (labels ++ [a]) (canTask loop ret s) := by
  have fromErr (x : BitVec w) : (x.setWidth 64).setWidth w = x := by simp [errFits]
  have fromData (x : BitVec v) : (x.setWidth 64).setWidth v = x := by simp [dataFits]
  have leaves (s' : State w v) (place : s'.place = loop.afterErrors) (enabled : s'.interrupts) :
      Tracked loop (labels ++ [a]) s' := by
    apply tracked_start _ enabled
    cases loop <;> simp [place, Loop.afterErrors]
  cases hplace : s.place with
  | announce | transfer | showMessage | delay => simpa [Tracked, canTask, hplace] using tracked
  | dint => simp [Tracked, canTask, hplace]
  | test =>
    have enabled : s.interrupts = true := by simpa [Tracked, hplace] using tracked
    by_cases clear : s.canErr = 0#w
    · have hstep : canTask loop ret s = { s with place := loop.afterErrors } := by
        simp [canTask, hplace, clear]
      exact leaves _ (by rw [hstep]) (by rwa [hstep])
    · have hstep : canTask loop ret s = { s with place := .dint } := by
        simp [canTask, hplace, clear]
      rw [hstep]
      exact tracked_start (.inr (.inr rfl)) enabled
  | readErr =>
    have disabled : s.interrupts = false := by simpa [Tracked, hplace] using tracked
    -- This is the instant the snapshot belongs to.
    have passed : Passed loop labels (s.canErr, s.canErrData) :=
      ⟨labels, [], s, by simp, run, hplace, disabled, rfl⟩
    simpa [Tracked, canTask, hplace, State.arguments, fromErr, disabled] using passed.snoc
  | readErrData =>
    obtain ⟨disabled, taken, passed⟩ : s.interrupts = false ∧ s.arguments.1 = s.canErr ∧
      Passed loop labels (s.canErr, s.canErrData) := by simpa [Tracked, hplace] using tracked
    have taken' : s.tmpCanErr.setWidth w = s.canErr := taken
    simpa [Tracked, canTask, hplace, State.arguments, fromData, taken', disabled] using passed.snoc
  | clearErr =>
    obtain ⟨disabled, taken, passed⟩ := tracked.of_clearErr hplace
    have takenData : s.tmpCanErrData.setWidth v = s.canErrData := congrArg Prod.snd taken
    simpa [Tracked, canTask, hplace, State.arguments, takenData, disabled] using passed.snoc
  | clearErrData =>
    obtain ⟨disabled, cleared, -, passed⟩ := tracked.of_clearErrData hplace
    simpa [Tracked, canTask, hplace, State.arguments, cleared, disabled] using passed.snoc
  | eint =>
    obtain ⟨-, -, -, passed⟩ : s.interrupts = false ∧ s.canErr = 0 ∧ s.canErrData = 0 ∧
      Passed loop labels s.arguments := by simpa [Tracked, hplace] using tracked
    simpa [Tracked, canTask, hplace, State.arguments] using passed.snoc
  | printCanError =>
    obtain ⟨enabled, -⟩ := tracked.of_printCanError hplace
    exact leaves _ (by simp [canTask, hplace]) (by simpa [canTask, hplace] using enabled)

/-! ## No report is lost -/

theorem afterErrors_eq (loop : Loop) :
    loop.afterErrors = .announce ∨ loop.afterErrors = .delay := by
  cases loop <;> simp [Loop.afterErrors]

/-- A statement of the task moves errors between the words, but drops none. -/
theorem err_task (tracked : Tracked loop labels s) (ret : Int32) :
    union ((canTask loop ret s).printed.map Prod.fst) |||
        ((canTask loop ret s).takenErr ||| (canTask loop ret s).canErr) =
      union (s.printed.map Prod.fst) ||| (s.takenErr ||| s.canErr) := by
  cases hplace : s.place with
  | announce | transfer | showMessage | dint | delay | readErr | readErrData | clearErrData
  | eint =>
    -- The error word, what was taken from it and what was passed on stay.
    simp [canTask, hplace, State.takenErr, State.arguments]
  | test =>
    rcases afterErrors_eq loop with h | h <;>
      by_cases clear : s.canErr = 0#w <;> simp [canTask, hplace, State.takenErr, h, clear]
  | clearErr =>
    obtain ⟨-, taken, -⟩ := tracked.of_clearErr hplace
    have takenErr : s.tmpCanErr.setWidth w = s.canErr := congrArg Prod.fst taken
    simp [canTask, hplace, State.takenErr, State.arguments, takenErr]
  | printCanError =>
    rcases afterErrors_eq loop with h | h <;>
      simp [canTask, hplace, State.takenErr, State.arguments, h, BitVec.or_assoc]

theorem data_task (tracked : Tracked loop labels s) (ret : Int32) :
    union ((canTask loop ret s).printed.map Prod.snd) |||
        ((canTask loop ret s).takenErrData ||| (canTask loop ret s).canErrData) =
      union (s.printed.map Prod.snd) ||| (s.takenErrData ||| s.canErrData) := by
  cases hplace : s.place with
  | announce | transfer | showMessage | dint | delay | readErr | readErrData | clearErr | eint =>
    -- One statement later than for the errors: the data word is cleared after theirs.
    simp [canTask, hplace, State.takenErrData, State.arguments]
  | test =>
    rcases afterErrors_eq loop with h | h <;>
      by_cases clear : s.canErr = 0#w <;> simp [canTask, hplace, State.takenErrData, h, clear]
  | clearErrData =>
    obtain ⟨-, -, taken, -⟩ := tracked.of_clearErrData hplace
    have takenData : s.tmpCanErrData.setWidth v = s.canErrData := taken
    simp [canTask, hplace, State.takenErrData, State.arguments, takenData]
  | printCanError =>
    rcases afterErrors_eq loop with h | h <;>
      simp [canTask, hplace, State.takenErrData, State.arguments, h, BitVec.or_assoc]

theorem printed_task (loop : Loop) (s : State w v) (ret : Int32) :
    (canTask loop ret s).printed = s.printed ∨
      s.place = .printCanError ∧ (canTask loop ret s).printed = s.printed ++ [s.arguments] := by
  cases hplace : s.place <;> simp [canTask, hplace, State.arguments]

theorem reported_task (ret : Int32) : (canTask loop ret s).reported = s.reported := by
  cases hplace : s.place <;> simp [canTask, hplace]

theorem reportsKept_task (kept : ReportsKept loop labels s) (tracked : Tracked loop labels s)
    (ret : Int32) : ReportsKept loop (labels ++ [a]) (canTask loop ret s) where
  err := by rw [err_task tracked, reported_task, kept.err]
  data := by rw [data_task tracked, reported_task, kept.data]
  snapshot := by
    intro pair member
    rcases printed_task loop s ret with same | ⟨hplace, more⟩
    · rw [same] at member
      exact (kept.snapshot pair member).snoc
    · rw [more] at member
      rcases List.mem_append.mp member with old | new
      · exact (kept.snapshot pair old).snoc
      · obtain rfl := List.mem_singleton.mp new
        exact (tracked.of_printCanError hplace).2.snoc

theorem reportsKept_report (kept : ReportsKept loop labels s) (err : BitVec w) (data : BitVec v) :
    ReportsKept loop (labels ++ [a]) (canTestError err data s) where
  err := by
    have sameTaken : (canTestError err data s).takenErr = s.takenErr := rfl
    rw [sameTaken]
    simp only [canTestError, List.map_append, List.map_cons, List.map_nil,
      union_append_singleton, kept.err, BitVec.or_assoc]
  data := by
    have sameTaken : (canTestError err data s).takenErrData = s.takenErrData := rfl
    rw [sameTaken]
    simp only [canTestError, List.map_append, List.map_cons, List.map_nil,
      union_append_singleton, kept.data, BitVec.or_assoc]
  snapshot pair member := (kept.snapshot pair member).snoc

/-- Every reachable state of every loop keeps the reports. -/
theorem tracked_and_reportsKept (errFits : w ≤ 64) (dataFits : v ≤ 64)
    (run : Run (step loop) (boot w v) labels s) :
    Tracked loop labels s ∧ ReportsKept loop labels s := by
  induction run with
  | nil => exact ⟨rfl, by simp [boot, State.takenErr], by simp [boot, State.takenErrData],
      by simp [boot]⟩
  | @snoc labels s a t run enabled ih =>
    obtain ⟨tracked, kept⟩ := ih
    cases a with
    | task ret =>
      obtain rfl := Option.some.inj enabled
      exact ⟨tracked_task errFits dataFits run tracked ret, reportsKept_task kept tracked ret⟩
    | report err data =>
      obtain ⟨outside, rfl⟩ : s.interrupts = true ∧ canTestError err data s = t := by
        simpa [step] using enabled
      exact ⟨tracked_report tracked outside err data, reportsKept_report kept err data⟩

/-- **No error report is lost.** In every reachable state of each loop the errors
reported are those passed to `print_can_error`, those taken out of `can_err` and
about to be passed, and those pending, and likewise for the data. No bit is passed
that was not reported, and each pair passed was held at one instant. -/
theorem reports_kept (errFits : w ≤ 64) (dataFits : v ≤ 64)
    (run : Run (step loop) (boot w v) labels s) :
    (union (s.reported.map Prod.fst) =
      union (s.printed.map Prod.fst) ||| (s.takenErr ||| s.canErr)) ∧
    (union (s.reported.map Prod.snd) =
      union (s.printed.map Prod.snd) ||| (s.takenErrData ||| s.canErrData)) ∧
    (∀ pair ∈ s.printed,
      (∀ i, pair.1.getLsbD i → ∃ report ∈ s.reported, report.1.getLsbD i) ∧
      (∀ i, pair.2.getLsbD i → ∃ report ∈ s.reported, report.2.getLsbD i) ∧
      Passed loop labels pair) := by
  obtain ⟨-, err, data, snapshot⟩ := tracked_and_reportsKept errFits dataFits run
  refine ⟨err, data, fun pair member => ⟨?_, ?_, snapshot pair member⟩⟩
  · intro i set
    obtain ⟨mask, held, set⟩ := exists_mem_of_union_or err (List.mem_map_of_mem member) set
    obtain ⟨report, reported, rfl⟩ := List.mem_map.mp held
    exact ⟨report, reported, set⟩
  · intro i set
    obtain ⟨mask, held, set⟩ := exists_mem_of_union_or data (List.mem_map_of_mem member) set
    obtain ⟨report, reported, rfl⟩ := List.mem_map.mp held
    exact ⟨report, reported, set⟩

/-- The send loop prints one report; another follows while it prints. -/
def sendLabels : List (Label 32 64) :=
  [.task 0, .report 2 8, .task 0, .task 0, .task 0, .task 0, .task 0, .task 0, .task 0, .task 0,
    .task 0, .report 1 4, .task 0]

/-- The task has taken one report and not yet called `print_can_error`; a second one came. -/
def sendState : State 32 64 where
  place := .delay
  interrupts := true
  canErr := 1
  canErrData := 4
  tmpCanErr := 2
  tmpCanErrData := 8
  reported := [(2, 8), (1, 4)]
  printed := [(2, 8)]

theorem reports_kept_send :
    Run (step .send) (boot 32 64) sendLabels sendState ∧
      union (sendState.reported.map Prod.fst) =
        union (sendState.printed.map Prod.fst) ||| (sendState.takenErr ||| sendState.canErr) := by
  have run : Run (step .send) (boot 32 64) sendLabels sendState := run_iff_foldlM.mpr (by decide)
  exact ⟨run, (reports_kept (by decide) (by decide) run).1⟩

/-- Between the section and the call of `print_can_error` the errors are neither
passed nor pending. -/
theorem not_passed_or_pending :
    ∃ (labels : List (Label 32 64)) (s : State 32 64), Run (step .echo) (boot 32 64) labels s ∧
      union (s.reported.map Prod.fst) ≠ union (s.printed.map Prod.fst) ||| s.canErr := by
  refine ⟨[.task 0, .report 2 8, .task 0, .task 0, .task 0, .task 0, .task 0, .task 0, .task 0,
    .task 0, .task 0], { sendState with
      place := .printCanError, canErr := 0, canErrData := 0, reported := [(2, 8)], printed := [] },
    run_iff_foldlM.mpr (by decide), by decide⟩

end TestSystem.CanTest
