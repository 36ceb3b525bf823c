import TestSystem.SpeedTest.Interrupts
import TestSystem.SpeedTest.WakeUps

/-!
# The rows of the result table

`END` stores the row `iteration` of `values` and only then tests whether there are
more passes. The test is strict and comes before the increment, so that the rows
`ITERATION` and `ITERATION + 1`, which the table does not have, are stored as well
before the statistics are entered.

A pass takes as many statements as the one before it, except the first, which
alone executes `SEMAPHORE`. So the number of statements that the task has executed
says how many rows it has stored.
-/

namespace TestSystem.SpeedTest

open TestSystem.Transition

/-- The row of `values` that a step stores; the loops of `END` store its entries. -/
def writtenRow (s : State) : Label → Option ℕ
  | .task _ => if s.place = .convert then some s.iteration else none
  | _ => none

/-- The rows that a run stores, oldest first. -/
def rows (iterations : ℕ) (labels : List Label) : List ℕ :=
  observed writtenRow (step iterations) speedtestInit labels

/-- The test that comes next enters the block of the statistics. -/
def State.EntersStatistics (iterations : ℕ) (s : State) : Prop :=
  s.place = .testIteration ∧ s.iteration > iterations

/-- The results of the run stay in the table of `ITERATION` rows. -/
structure InTable (iterations : ℕ) (labels : List Label) : Prop where
  inside : ∀ row ∈ rows iterations labels, row < iterations
  /-- The statistics find every row of the table, stored once. -/
  complete : ∀ past rest t, labels = past ++ rest → Run (step iterations) speedtestInit past t →
    t.EntersStatistics iterations → (rows iterations past).Perm (List.range iterations)

/-- The step is one of the task. -/
def isTask : Label → Bool
  | .task _ => true
  | _ => false

/-- The statements that the task executes. -/
def statements (labels : List Label) : ℕ := labels.countP isTask

/-! ## The statements of a pass -/

/-- The value of the enumerator. -/
def Tests.index : Tests → ℕ
  | .semaphore => 0
  | .event => 1
  | .notification => 2
  | .taskSuspend => 3
  | .end => 4
  | .undefined => 5

/-- The statements before this one in a pass that begins with `SEMAPHORE`. Each
test has nine. -/
def State.clock (s : State) : ℕ :=
  match s.place with
  | .dispatch => 9 * s.acutalTest.index
  | .setDutyCycle => 9 * s.acutalTest.index + 1
  | .delay => 9 * s.acutalTest.index + 2
  | .enableInterrupt => 9 * s.acutalTest.index + 3
  | .wait => 9 * s.acutalTest.index + 4
  | .suspended => 9 * s.acutalTest.index + 5
  -- `vTaskSuspend` is a statement of its own and has no return value to check.
  | .stamp _ => 9 * s.acutalTest.index + if s.acutalTest = .taskSuspend then 5 else 4
  | .check _ => 9 * s.acutalTest.index + 5
  | .disableInterrupt => 9 * s.acutalTest.index + 6
  | .clearDutyCycle => 9 * s.acutalTest.index + 7
  | .advance => 9 * s.acutalTest.index + 8
  | .convert => 37
  | .testIteration => 38
  | .nextIteration => 39
  | .asserted _ => 0

/-- The rows that have been stored, by the statement that comes next. -/
def State.stored (s : State) : ℕ :=
  match s.place with
  | .testIteration | .nextIteration | .asserted .value | .asserted .endTest => s.iteration + 1
  | _ => s.iteration

/-- The bounds on the statements that a task with so many rows has executed. -/
def Within (n stored : ℕ) : Prop := (stored = 0 ∨ 32 * stored + 6 ≤ n) ∧ n < 32 * stored + 38

/-- After `n` statements the task is in the pass and at the statement that the
count says. -/
def Timed (n : ℕ) (s : State) : Prop :=
  match s.place with
  | .asserted _ => Within n s.stored
  | _ => n = 32 * s.iteration + s.clock ∧ (s.iteration = 0 ∨ 8 ≤ s.clock)

variable {iterations n c : ℕ} {labels : List Label} {s t : State} {a : Label} {test : Tests}
  {time : UInt32}

/-! ## The count of the statements -/

theorem Tests.index_le_of_mem (member : test ∈ measured) : test.index ≤ 3 := by
  cases test with
  | «end» | undefined => simp [measured] at member
  | semaphore | event | notification | taskSuspend => decide

theorem Tests.index_next (member : test ∈ measured) : test.next.index = test.index + 1 := by
  cases test with
  | «end» | undefined => simp [measured] at member
  | semaphore | event | notification | taskSuspend => rfl

theorem timed_statement (bracketed : Bracketed iterations labels s) (timed : Timed n s)
    (statement : Statement iterations time s t) : Timed (n + 1) t := by
  unfold Bracketed at bracketed
  unfold Timed at timed
  cases statement with
  | test hplace member =>
    simp only [hplace, State.clock] at timed
    simp only [Timed, State.clock]
    omega
  | endCase hplace test =>
    simp only [hplace, State.clock, test, Tests.index] at timed
    simp only [Timed, State.clock]
    omega
  | defaultCase hplace undefined =>
    simp only [hplace] at bracketed
    exact absurd undefined bracketed.2
  | setDutyCycle hplace | delay hplace | enableInterrupt hplace | suspend hplace
  | checkPass hplace | disableInterrupt hplace | clearDutyCycle hplace | convert hplace
  | morePasses hplace =>
    simp only [hplace, State.clock] at timed
    simp only [Timed, State.clock]
    omega
  | stampWait hplace test | stampSuspend hplace test =>
    simp only [hplace, State.clock, test, if_true, if_false] at timed
    simp only [Timed, State.clock, State.write, test, Tests.index] at timed ⊢
    omega
  | checkFail hplace =>
    simp only [hplace] at bracketed
    have last : s.acutalTest.index ≤ 3 := Tests.index_le_of_mem bracketed.1
    simp only [hplace, State.clock] at timed
    simp only [Timed, Within, State.stored]
    omega
  | valueZero hplace | endTest hplace =>
    simp only [hplace, State.clock] at timed
    simp only [Timed, Within, State.stored]
    omega
  | nextIteration hplace =>
    simp only [hplace, State.clock] at timed
    simp only [Timed, State.clock, Tests.index]
    omega
  | advance hplace =>
    simp only [hplace] at bracketed
    have next : s.acutalTest.next.index = s.acutalTest.index + 1 := Tests.index_next bracketed.2
    simp only [hplace, State.clock] at timed
    simp only [Timed, State.clock, next]
    omega

/-- An edge is no statement and leaves the count as it is. -/
theorem timed_edge (inTest : s.place.inTest) (member : s.acutalTest ∈ measured)
    (timed : Timed n s) : Timed n (interruptHandler time s) := by
  have iteration : (interruptHandler time s).iteration = s.iteration :=
    interruptHandler_iteration time s
  obtain ⟨-, test, -⟩ := interruptHandler_keeps time s
  unfold Timed at timed
  rcases interruptHandler_place time s with same | failed | ⟨hplace, resumed⟩
  · cases hplace : s.place with
    | wait | suspended | stamp ret | check ret | disableInterrupt =>
      rw [hplace] at same
      simp only [hplace, State.clock] at timed
      simpa only [Timed, State.clock, same, test, iteration] using timed
    | _ => simp [hplace, Place.inTest] at inTest
  · have stillInTest := interruptHandler_inTest inTest member time
    rw [failed] at stillInTest
    cases stillInTest
  · -- Only `TASK_SUSPEND` is resumed, where the suspension is a statement already.
    have suspend : s.acutalTest = .taskSuspend := by
      by_contra notSuspend
      have waits : s.acutalTest.Waits := Tests.waits_of_mem member notSuspend
      obtain ⟨-, place, -⟩ := interruptHandler_waits waits time
      rw [resumed, hplace] at place
      cases place
    simp only [hplace, State.clock] at timed
    simpa only [Timed, State.clock, resumed, test, iteration, suspend, if_true] using timed

theorem statements_append_singleton :
    statements (labels ++ [a]) = statements labels + if isTask a then 1 else 0 := by
  simp [statements, List.countP_singleton]

theorem timed_of_run (run : Run (step iterations) speedtestInit labels s) :
    Timed (statements labels) s := by
  induction run with
  | nil => exact ⟨rfl, .inl rfl⟩
  | @snoc labels s a t prior enabled ih =>
    have bracketed := bracketed_of_run prior
    rw [statements_append_singleton]
    cases a with
    | task time => exact timed_statement bracketed ih (statement_of_step_task enabled)
    | wake =>
      obtain ⟨⟨hplace, notSuspend⟩, number, -, rfl⟩ := consumed_of_step_wake enabled
      simp only [Timed, hplace, State.clock] at ih
      simpa [Timed, State.clock, State.consume, notSuspend, isTask] using ih
    | timeout =>
      obtain ⟨⟨hplace, notSuspend⟩, rfl⟩ := stamp_of_step_timeout enabled
      simp only [Timed, hplace, State.clock] at ih
      simpa [Timed, State.clock, notSuspend, isTask] using ih
    | edge time =>
      obtain ⟨running, delivered, rfl⟩ := delivered_of_step_edge enabled
      have inTest := bracketed.inTest running delivered
      obtain ⟨member, -⟩ := (bracketed_of_inTest inTest).mp bracketed
      exact timed_edge inTest member ih

/-- The statement of a pass tells whether the pass has stored its row. -/
theorem Timed.within (timed : Timed n s) (bracketed : Bracketed iterations labels s) :
    Within n s.stored := by
  unfold Bracketed at bracketed
  unfold Timed at timed
  cases hplace : s.place with
  | asserted assertion => simpa only [hplace] using timed
  | dispatch =>
    have last : s.acutalTest.index ≤ 4 := by
      simp only [hplace] at bracketed
      cases htest : s.acutalTest with
      | undefined => exact absurd htest bracketed.2
      | _ => decide
    simp only [hplace, State.clock] at timed
    simp only [Within, State.stored, hplace]
    omega
  | setDutyCycle | delay | enableInterrupt | clearDutyCycle | advance =>
    simp only [hplace] at bracketed
    have last : s.acutalTest.index ≤ 3 := Tests.index_le_of_mem bracketed.2
    simp only [hplace, State.clock] at timed
    simp only [Within, State.stored, hplace]
    omega
  | wait | suspended | check ret | disableInterrupt =>
    simp only [hplace] at bracketed
    have last : s.acutalTest.index ≤ 3 := Tests.index_le_of_mem bracketed.1
    simp only [hplace, State.clock] at timed
    simp only [Within, State.stored, hplace]
    omega
  | stamp ret =>
    simp only [hplace] at bracketed
    have last : s.acutalTest.index ≤ 3 := Tests.index_le_of_mem bracketed.1
    have offset : (if s.acutalTest = .taskSuspend then 5 else 4) ≤ 5 := by split <;> decide
    simp only [hplace, State.clock] at timed
    simp only [Within, State.stored, hplace]
    omega
  | convert | testIteration | nextIteration =>
    simp only [hplace, State.clock] at timed
    simp only [Within, State.stored, hplace]
    omega

theorem within_of_run (run : Run (step iterations) speedtestInit labels s) :
    Within (statements labels) s.stored :=
  (timed_of_run run).within (bracketed_of_run run)

/-! ## The rows that are stored -/

/-- A step stores the next row or none. -/
theorem stored_statement (statement : Statement iterations time s t) :
    List.range t.stored = List.range s.stored ++ (writtenRow s (.task time)).toList := by
  cases statement with
  | convert hplace =>
    simp only [State.stored, writtenRow, hplace, if_true, Option.toList_some]
    exact List.range_succ
  | stampWait hplace | stampSuspend hplace =>
    simp [State.stored, writtenRow, State.write, hplace]
  | test hplace | endCase hplace | defaultCase hplace | setDutyCycle hplace | delay hplace
  | enableInterrupt hplace | suspend hplace | checkPass hplace | checkFail hplace
  | disableInterrupt hplace | clearDutyCycle hplace | valueZero hplace | endTest hplace
  | morePasses hplace | nextIteration hplace | advance hplace =>
    simp [State.stored, writtenRow, hplace]

/-- Within a test the rows are those of the passes before. -/
theorem stored_of_inTest (inTest : s.place.inTest) : s.stored = s.iteration := by
  cases hplace : s.place with
  | wait | suspended | stamp | check | disableInterrupt => simp [State.stored, hplace]
  | _ => simp [hplace, Place.inTest] at inTest

theorem stored_step (run : Run (step iterations) speedtestInit labels s)
    (enabled : step iterations s a = some t) :
    List.range t.stored = List.range s.stored ++ (writtenRow s a).toList := by
  cases a with
  | task time => exact stored_statement (statement_of_step_task enabled)
  | wake =>
    obtain ⟨⟨hplace, -⟩, number, -, rfl⟩ := consumed_of_step_wake enabled
    simp [State.stored, writtenRow, State.consume, hplace]
  | timeout =>
    obtain ⟨⟨hplace, -⟩, rfl⟩ := stamp_of_step_timeout enabled
    simp [State.stored, writtenRow, hplace]
  | edge time =>
    obtain ⟨running, delivered, rfl⟩ := delivered_of_step_edge enabled
    have bracketed := bracketed_of_run run
    have inTest := bracketed.inTest running delivered
    obtain ⟨member, -⟩ := (bracketed_of_inTest inTest).mp bracketed
    rw [stored_of_inTest (interruptHandler_inTest inTest member time), stored_of_inTest inTest,
      interruptHandler_iteration]
    simp [writtenRow]

/-- The rows are stored in order, each once. -/
theorem rows_eq_range (run : Run (step iterations) speedtestInit labels s) :
    rows iterations labels = List.range s.stored := by
  induction run with
  | nil => rfl
  | snoc prior enabled ih =>
    rw [stored_step prior enabled, ← ih]
    exact observed_append_singleton prior

/-- A run that stays in the table has stored no more rows than the table has. -/
theorem InTable.stored_le (inTable : InTable iterations labels)
    (run : Run (step iterations) speedtestInit labels s) : s.stored ≤ iterations := by
  by_contra full
  have past : iterations ∈ rows iterations labels := by
    rw [rows_eq_range run, List.mem_range]
    omega
  exact absurd (inTable.inside iterations past) (lt_irrefl iterations)

/-- No pass is begun after the pass that stores the row `ITERATION + 1`. -/
theorem iteration_le_of_run (run : Run (step iterations) speedtestInit labels s) :
    s.iteration ≤ iterations + 1 ∧ (s.place = .nextIteration → s.iteration ≤ iterations) := by
  induction run with
  | nil => exact ⟨Nat.zero_le _, fun place => by cases place⟩
  | @snoc labels s a t prior enabled ih =>
    cases a with
    | task time =>
      cases statement_of_step_task enabled with
      | morePasses hplace notEntered => exact ⟨ih.1, fun _ => not_lt.mp notEntered⟩
      | nextIteration hplace => exact ⟨Nat.succ_le_succ (ih.2 hplace), by simp⟩
      | _ => exact ⟨ih.1, by simp⟩
    | wake =>
      obtain ⟨-, number, -, rfl⟩ := consumed_of_step_wake enabled
      exact ⟨ih.1, by simp [State.consume]⟩
    | timeout =>
      obtain ⟨-, rfl⟩ := stamp_of_step_timeout enabled
      exact ⟨ih.1, by simp⟩
    | edge time =>
      obtain ⟨-, -, rfl⟩ := delivered_of_step_edge enabled
      rw [interruptHandler_iteration]
      refine ⟨ih.1, fun place => ih.2 ?_⟩
      rcases interruptHandler_place time s with same | failed | ⟨-, resumed⟩
      · rw [← same, place]
      · simp [failed] at place
      · simp [resumed] at place

/-- The statistics are entered with two rows past the end of the table. -/
theorem rows_of_entersStatistics (run : Run (step iterations) speedtestInit labels s)
    (enters : s.EntersStatistics iterations) :
    rows iterations labels = List.range (iterations + 2) := by
  obtain ⟨hplace, entered⟩ := enters
  have last : s.iteration ≤ iterations + 1 := (iteration_le_of_run run).1
  have stored : s.stored = iterations + 2 := by
    simp only [State.stored, hplace]
    omega
  rw [rows_eq_range run, stored]

/-! ## Passes with one edge in each test -/

/-- The task is at `place` of the test in the pass `count`, and no token is left. -/
structure At (place : Place) (test : Tests) (count : ℕ) (s : State) : Prop where
  place : s.place = place
  test : s.acutalTest = test
  iteration : s.iteration = count
  free : Free s

/-- `TASK_SUSPEND`, where the edge resumes the task. -/
def suspendTest (edge wakeUp : UInt32) : List Label :=
  tasks 5 ++ [Label.edge edge, .task wakeUp] ++ tasks 3

/-- The tests from `EVENT` on, up to the statement that stores the row. -/
def laterTests : List Label :=
  oneTest 200 230 ++ oneTest 300 330 ++ suspendTest 400 430 ++ tasks 2

/-- One edge in each test, in the first pass and in as many passes after it. -/
def passes : ℕ → List Label
  | 0 => oneTest 100 130 ++ laterTests
  | n + 1 => passes n ++ (tasks 3 ++ laterTests)

theorem At.stored (here : At .testIteration test c s) : s.stored = c + 1 := by
  simp [State.stored, here.place, here.iteration]

theorem At.startTest (here : At .dispatch test c s) (member : test ∈ measured) :
    ∃ t, Run (step iterations) s (tasks 4) t ∧ At .wait test c t ∧ t.interruptEnabled = true := by
  obtain ⟨hplace, htest, iteration, free⟩ := here
  refine ⟨{ s with
    log := s.log ++ [.started s.acutalTest]
    interruptEnabled := true
    place := .wait }, run_iff_foldlM.mpr ?_, ⟨rfl, htest, iteration, free⟩, rfl⟩
  cases test with
  | «end» | undefined => simp [measured] at member
  | semaphore | event | notification | taskSuspend =>
    simp [tasks, List.replicate, step, speedtestTask, hplace, htest]

theorem At.stopTest (here : At .disableInterrupt test c s) :
    ∃ t, Run (step iterations) s (tasks 3) t ∧ At .dispatch test.next c t := by
  obtain ⟨hplace, htest, iteration, free⟩ := here
  refine ⟨{ s with
    interruptEnabled := false
    log := s.log ++ [.stopped s.acutalTest]
    acutalTest := s.acutalTest.next
    place := .dispatch }, run_iff_foldlM.mpr ?_, ⟨rfl, by rw [← htest], iteration, free⟩⟩
  simp [tasks, List.replicate, step, speedtestTask, hplace]

/-- The edge leaves its token and the wait takes it. -/
theorem At.wake (here : At .wait test c s) (waits : test.Waits)
    (enabled : s.interruptEnabled = true) (edge wakeUp : UInt32) :
    ∃ t, Run (step iterations) s [.edge edge, .wake, .task wakeUp, .task 0] t ∧
      At .disableInterrupt test c t := by
  obtain ⟨hplace, rfl, iteration, free⟩ := here
  obtain ⟨test, place, -, token⟩ := interruptHandler_waits waits edge
  have notSuspend : s.acutalTest ≠ .taskSuspend := waits.ne_taskSuspend
  have struck : step iterations s (.edge edge) = some (interruptHandler edge s) := by
    simp [step, hplace, enabled]
  let woken := (interruptHandler edge s).consume (s.interrupts + 1)
  have wake : step iterations (interruptHandler edge s) .wake = some woken := by
    simp [step, State.Waits, place, hplace, test, notSuspend, token, free s.acutalTest, woken]
  refine ⟨{ woken.write s.acutalTest 2 wakeUp with place := .disableInterrupt },
    run_iff_foldlM.mpr ?_, ⟨rfl, test, (interruptHandler_iteration _ _).trans iteration, ?_⟩⟩
  · simp only [List.foldlM_cons, struck, wake, Option.bind_eq_bind, Option.bind_some]
    simp [step, speedtestTask, woken, State.consume, State.write, test, notSuspend]
  · intro other
    by_cases same : other = s.acutalTest <;>
      simp [woken, State.write, State.consume, test, token, same, free other]

/-- The edge resumes the task, which has no token to take. -/
theorem At.resume (here : At .wait .taskSuspend c s) (enabled : s.interruptEnabled = true)
    (edge wakeUp : UInt32) :
    ∃ t, Run (step iterations) s [.task 0, .edge edge, .task wakeUp] t ∧
      At .disableInterrupt .taskSuspend c t := by
  obtain ⟨hplace, htest, iteration, free⟩ := here
  let suspended : State := { s with place := .suspended }
  let resumed := interruptHandler edge suspended
  have suspend : step iterations s (.task 0) = some suspended := by
    simp [step, speedtestTask, hplace, htest, suspended]
  have struck : step iterations suspended (.edge edge) = some resumed := by
    simp [step, enabled, suspended, resumed]
  obtain ⟨test, token, place⟩ :
      resumed.acutalTest = .taskSuspend ∧ resumed.token = s.token ∧ resumed.place = .stamp true :=
    interruptHandler_taskSuspend (s := suspended) htest edge
  refine ⟨{ resumed.write .taskSuspend 2 wakeUp with place := .disableInterrupt },
    run_iff_foldlM.mpr ?_, ⟨rfl, test, (interruptHandler_iteration _ _).trans iteration, ?_⟩⟩
  · simp only [List.foldlM_cons, suspend, struck, Option.bind_eq_bind, Option.bind_some]
    simp [step, speedtestTask, place, test]
  · intro other
    simpa [State.write, token] using free other

theorem At.oneTest (here : At .dispatch test c s) (waits : test.Waits) (edge wakeUp : UInt32) :
    ∃ t, Run (step iterations) s (oneTest edge wakeUp) t ∧ At .dispatch test.next c t := by
  obtain ⟨u, start, waiting, enabled⟩ := here.startTest waits.mem_measured
  obtain ⟨v, wake, woken⟩ := waiting.wake waits enabled edge wakeUp
  obtain ⟨t, stop, done⟩ := woken.stopTest
  exact ⟨t, (start.append wake).append stop, done⟩

theorem At.suspendTest (here : At .dispatch .taskSuspend c s) (edge wakeUp : UInt32) :
    ∃ t, Run (step iterations) s (suspendTest edge wakeUp) t ∧ At .dispatch .end c t := by
  obtain ⟨u, start, waiting, enabled⟩ := here.startTest (by simp [measured])
  obtain ⟨v, resume, resumed⟩ := waiting.resume enabled edge wakeUp
  obtain ⟨t, stop, done⟩ := resumed.stopTest
  exact ⟨t, (start.append resume).append stop, done⟩

/-- `END` stores the row of the pass. -/
theorem At.endCase (here : At .dispatch .end c s) :
    ∃ t, Run (step iterations) s (tasks 2) t ∧ At .testIteration .end c t := by
  obtain ⟨hplace, htest, iteration, free⟩ := here
  refine ⟨{ s with
    values := fun k test column =>
      if k = s.iteration ∧ k < iterations then counterToUS (s.counterValue test column)
      else s.values k test column
    log := s.log ++ [.converted]
    place := .testIteration }, run_iff_foldlM.mpr ?_, ⟨rfl, htest, iteration, free⟩⟩
  simp [tasks, List.replicate, step, speedtestTask, hplace, htest]

/-- Up to the row `ITERATION` the test lets another pass begin. -/
theorem At.nextPass (here : At .testIteration test c s) (few : c ≤ iterations) :
    ∃ t, Run (step iterations) s (tasks 3) t ∧ At .dispatch .event (c + 1) t := by
  obtain ⟨hplace, htest, rfl, free⟩ := here
  refine ⟨{ s with
    iteration := s.iteration + 1
    acutalTest := .event
    place := .dispatch }, run_iff_foldlM.mpr ?_, ⟨rfl, rfl, rfl, free⟩⟩
  have notEntered : ¬ iterations < s.iteration := by omega
  simp [tasks, List.replicate, step, speedtestTask, hplace, notEntered, Tests.next]

theorem At.laterTests (here : At .dispatch .event c s) :
    ∃ t, Run (step iterations) s laterTests t ∧ At .testIteration .end c t := by
  obtain ⟨u, event, next⟩ := here.oneTest trivial 200 230
  obtain ⟨v, notification, next⟩ := next.oneTest trivial 300 330
  obtain ⟨w, suspend, next⟩ := next.suspendTest 400 430
  obtain ⟨t, endCase, stored⟩ := next.endCase
  exact ⟨t, ((event.append notification).append suspend).append endCase, stored⟩

/-- As many passes as the test lets begin, the last up to the row that it stores. -/
theorem run_passes (few : n ≤ iterations + 1) :
    ∃ s, Run (step iterations) speedtestInit (passes n) s ∧ At .testIteration .end n s := by
  induction n with
  | zero =>
    have start : At .dispatch .semaphore 0 speedtestInit := ⟨rfl, rfl, rfl, fun _ => rfl⟩
    obtain ⟨s, semaphore, next⟩ := start.oneTest trivial 100 130
    obtain ⟨t, later, stored⟩ := next.laterTests
    exact ⟨t, semaphore.append later, stored⟩
  | succ n ih =>
    have room : n ≤ iterations := Nat.le_of_succ_le_succ few
    obtain ⟨s, run, stored⟩ := ih (Nat.le_of_succ_le few)
    obtain ⟨t, between, next⟩ := stored.nextPass room
    obtain ⟨u, later, stored⟩ := next.laterTests
    exact ⟨u, run.append (between.append later), stored⟩

/-- For every size of the table, the pass after its last row leaves it. -/
theorem not_inTable_passes (iterations : ℕ) : ¬ InTable iterations (passes iterations) := by
  obtain ⟨s, run, here⟩ := run_passes (Nat.le_succ iterations)
  intro inTable
  have room : s.stored ≤ iterations := inTable.stored_le run
  rw [here.stored] at room
  exact absurd room (Nat.not_succ_le_self iterations)

/-! ## How long a run stays in the table -/

/-- A prefix of a run executes no more statements. -/
theorem statements_le_append (past rest : List Label) :
    statements past ≤ statements (past ++ rest) := by
  simp [statements]

/-- The table has room for the rows of the run as long as the statement that stores
the row `ITERATION` is not executed. -/
theorem stored_le_iff (run : Run (step iterations) speedtestInit labels s) :
    s.stored ≤ iterations ↔ statements labels < 32 * iterations + 38 := by
  obtain ⟨lower, upper⟩ := within_of_run run
  omega

/-- So short a run never enters the statistics. -/
theorem inTable_of_stored_le (run : Run (step iterations) speedtestInit labels s)
    (room : s.stored ≤ iterations) : InTable iterations labels := by
  refine ⟨?_, ?_⟩
  · intro row member
    rw [rows_eq_range run, List.mem_range] at member
    exact member.trans_le room
  · rintro past rest t rfl reached ⟨hplace, entered⟩
    have few : statements (past ++ rest) < 32 * iterations + 38 := (stored_le_iff run).mp room
    have fewer : statements past ≤ statements (past ++ rest) := statements_le_append past rest
    have before : t.stored ≤ iterations := (stored_le_iff reached).mpr (fewer.trans_lt few)
    simp only [State.stored, hplace] at before
    omega

/-- **Rows past the table.** A run stays in the table if and only if it ends before
the statement that stores the row `ITERATION`. A run that enters the statistics has stored
both rows past the end, and there is such a run. -/
theorem inTable_iff (run : Run (step iterations) speedtestInit labels s) :
    (InTable iterations labels ↔ statements labels < 32 * iterations + 38) ∧
      (s.EntersStatistics iterations → rows iterations labels = List.range (iterations + 2)) ∧
      ∃ t, Run (step iterations) speedtestInit (passes (iterations + 1)) t ∧
        t.EntersStatistics iterations := by
  refine ⟨⟨fun inTable => ?_, fun few => ?_⟩, rows_of_entersStatistics run, ?_⟩
  · exact (stored_le_iff run).mp (inTable.stored_le run)
  · exact inTable_of_stored_le run ((stored_le_iff run).mpr few)
  · obtain ⟨t, whole, here⟩ := run_passes (le_refl (iterations + 1))
    exact ⟨t, whole, here.place, by rw [here.iteration]; exact Nat.lt_succ_self iterations⟩

/-- The first pass stores its row in the table. -/
theorem inTable_firstPass :
    ∃ s, Run (step 1000) speedtestInit (passes 0) s ∧ InTable 1000 (passes 0) := by
  obtain ⟨s, run, -⟩ := run_passes (Nat.zero_le 1001)
  exact ⟨s, run, (inTable_iff run).1.mpr (by decide)⟩

/-- With 1000 rows, the pass after 1000 passes stores the row 1000. -/
theorem not_inTable_thousand :
    ∃ s, Run (step 1000) speedtestInit (passes 1000) s ∧
      rows 1000 (passes 1000) = List.range 1001 ∧ ¬ InTable 1000 (passes 1000) := by
  obtain ⟨s, run, here⟩ := run_passes (Nat.le_succ 1000)
  exact ⟨s, run, by rw [rows_eq_range run, here.stored], not_inTable_passes 1000⟩

end TestSystem.SpeedTest
