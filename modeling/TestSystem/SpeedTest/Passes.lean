import TestSystem.SpeedTest.Task
import TestSystem.Transition.Segment

/-!
# What a pass executes and writes

A pass ends with the case `END`, which converts the table. `END` sets
`acutalTest` to `SEMAPHORE`, and the statement after the switch advances it at
once, so that only the first pass executes this test. No statement writes the
first column of the table, so that the statistics fail at their assertion.
-/

namespace TestSystem.SpeedTest

open TestSystem.Transition

/-- The event is the conversion at the end of a pass. -/
def isConverted : Event → Bool
  | .converted => true
  | _ => false

/-- The test that an event starts. -/
def startOf : Event → Option Tests
  | .started test => some test
  | _ => none

/-- The tests started in a stretch of the log, in order. -/
def starts (events : List Event) : List Tests := events.filterMap startOf

/-- A pass executed each test once and wrote every entry of the table. -/
structure PassComplete (pass : List Event) : Prop where
  executed : ∀ test ∈ measured, pass.count (.started test) = 1
  fresh : ∀ test ∈ measured, ∀ column < 3, ∃ time, .wrote test column time ∈ pass

/-- The tests before a test. -/
def Tests.before : Tests → List Tests
  | .semaphore => []
  | .event => [.semaphore]
  | .notification => [.semaphore, .event]
  | .taskSuspend => [.semaphore, .event, .notification]
  | .end | .undefined => measured

/-- Of these tests, a pass executes all but `SEMAPHORE` unless it is the first. -/
def inPass (log : List Event) (tests : List Tests) : List Tests :=
  if .converted ∈ log then tests.filter (· ≠ .semaphore) else tests

/-- The part of the loop a statement belongs to. -/
inductive Phase
  | choosing
  | starting
  | testing
  | advancing
  | converting
  | converted
  | stopped
  deriving DecidableEq

/-- The part of the loop that a place lies in. -/
def Place.phase : Place → Phase
  | .dispatch => .choosing
  | .setDutyCycle => .starting
  | .delay | .enableInterrupt | .wait | .suspended | .stamp _ | .check _ | .disableInterrupt
  | .clearDutyCycle => .testing
  | .convert => .converting
  | .testIteration | .nextIteration => .converted
  | .advance => .advancing
  | .asserted _ => .stopped

/-- Which tests the running pass has started, by the part of the loop. -/
def Position (s : State) : Prop :=
  match s.place.phase with
  | .choosing => s.acutalTest ≠ .undefined ∧ (.converted ∈ s.log → s.acutalTest ≠ .semaphore) ∧
      starts (since isConverted s.log) = inPass s.log s.acutalTest.before
  | .starting => s.acutalTest ∈ measured ∧ (.converted ∈ s.log → s.acutalTest ≠ .semaphore) ∧
      starts (since isConverted s.log) = inPass s.log s.acutalTest.before
  | .testing | .advancing => s.acutalTest ∈ measured ∧
      starts (since isConverted s.log) = inPass s.log (s.acutalTest.before ++ [s.acutalTest])
  | .converting => s.acutalTest = .end ∧ starts (since isConverted s.log) = inPass s.log measured
  | .converted => .converted ∈ s.log ∧ starts (since isConverted s.log) = []
  | .stopped => True

/-- Every pass that has reached `END` started the tests of a pass. -/
def PassesStarted (log : List Event) : Prop :=
  ∀ pre post, log = pre ++ .converted :: post →
    starts (since isConverted pre) = inPass pre measured

/-- The first column was never written. -/
structure FirstColumnUnwritten (iterations : ℕ) (s : State) : Prop where
  log : ∀ test time, .wrote test 0 time ∉ s.log
  counterValue : ∀ test, s.counterValue test 0 = 0
  values : ∀ k test, s.values k test 0 = 0
  statistics : 0 < iterations → s.place ≠ .asserted .endTest

variable {iterations : ℕ} {labels : List Label} {s t : State} {new : List Event}

/-! ## Starts -/

/-- The event neither starts a test nor ends a pass. -/
def isQuiet (e : Event) : Bool := (startOf e).isNone && !isConverted e

theorem mem_converted_append (quiet : ∀ e ∈ new, isQuiet e) (log : List Event) :
    .converted ∈ log ++ new ↔ .converted ∈ log := by
  have none : .converted ∉ new := fun member => absurd (quiet _ member) (by decide)
  simp [none]

theorem starts_append (quiet : ∀ e ∈ new, isQuiet e) (log : List Event) :
    starts (since isConverted (log ++ new)) = starts (since isConverted log) := by
  have unmarked : ∀ e ∈ new, isConverted e = false := fun e member => by
    simpa [isQuiet] using (Bool.and_eq_true_iff.mp (quiet e member)).2
  have noStart : new.filterMap startOf = [] := List.filterMap_eq_nil_iff.mpr fun e member => by
    simpa using (Bool.and_eq_true_iff.mp (quiet e member)).1
  rw [since_append_unmarked unmarked, starts, List.filterMap_append, noStart, List.append_nil,
    starts]

/-- Within a part of the loop, quiet events leave the position. -/
theorem Position.of_quiet (position : Position s) (phase : t.place.phase = s.place.phase)
    (test : t.acutalTest = s.acutalTest) (log : t.log = s.log ++ new)
    (quiet : ∀ e ∈ new, isQuiet e) : Position t := by
  have later := mem_converted_append quiet s.log
  have same (tests : List Tests) : inPass (s.log ++ new) tests = inPass s.log tests := by
    simp [inPass, later]
  simpa only [Position, phase, test, log, later, same, starts_append quiet] using position

theorem Position.of_log (position : Position s) (phase : t.place.phase = s.place.phase)
    (test : t.acutalTest = s.acutalTest) (log : t.log = s.log) : Position t :=
  position.of_quiet phase test (log.trans (List.append_nil s.log).symm) (by simp)

theorem PassesStarted.of_unmarked {log : List Event} (passes : PassesStarted log)
    (unmarked : ∀ e ∈ new, isConverted e = false) : PassesStarted (log ++ new) := by
  intro pre post split
  obtain ⟨post', split⟩ := split_of_append_unmarked unmarked rfl split
  exact passes pre post' split

/-! ## Steps -/

theorem position_edge (position : Position s) (time : UInt32) :
    Position (interruptHandler time s) := by
  obtain ⟨log, test, -⟩ := interruptHandler_keeps time s
  have quiet : ∀ e ∈ [.interrupt (s.interrupts + 1), .wrote s.acutalTest 1 time], isQuiet e := by
    simp [isQuiet, startOf, isConverted]
  rcases interruptHandler_place time s with same | stopped | ⟨suspended, resumed⟩
  · exact position.of_quiet (by rw [same]) test log quiet
  · simp [Position, stopped, Place.phase]
  · exact position.of_quiet (by rw [suspended, resumed]; rfl) test log quiet

theorem inPass_append_singleton {log : List Event} {tests : List Tests} {test : Tests}
    (later : .converted ∈ log → test ≠ .semaphore) :
    inPass log (tests ++ [test]) = inPass log tests ++ [test] := by
  by_cases member : .converted ∈ log
  · simp [inPass, member, later member]
  · simp [inPass, member]

theorem Tests.before_next {test : Tests} (member : test ∈ measured) :
    test.next ≠ .undefined ∧ test.next ≠ .semaphore ∧ test.next.before = test.before ++ [test] := by
  cases test with
  | «end» | undefined => simp [measured] at member
  | semaphore | event | notification | taskSuspend => decide

/-- A statement between two tests, or around the table, moves the pass on. -/
theorem position_statement {time : UInt32} (position : Position s)
    (statement : Statement iterations time s t) : Position t := by
  have here := position
  unfold Position at here
  cases statement with
  | test hplace member =>
    simp only [hplace, Place.phase] at here
    obtain ⟨-, later, started⟩ := here
    exact ⟨member, later, started⟩
  | endCase hplace test =>
    simp only [hplace, Place.phase] at here
    obtain ⟨-, -, started⟩ := here
    rw [test] at started
    exact ⟨test, started⟩
  | defaultCase | checkFail | valueZero | endTest => trivial
  | setDutyCycle hplace =>
    simp only [hplace, Place.phase] at here
    obtain ⟨member, later, started⟩ := here
    refine ⟨member, ?_⟩
    have same (tests : List Tests) :
        inPass (s.log ++ [.started s.acutalTest]) tests = inPass s.log tests := by simp [inPass]
    have unmarked : ∀ e ∈ [Event.started s.acutalTest], isConverted e = false := by
      simp [isConverted]
    dsimp only
    rw [since_append_unmarked unmarked, same, inPass_append_singleton later, ← started]
    simp [starts, startOf]
  | delay hplace | enableInterrupt hplace | suspend hplace | checkPass hplace | morePasses hplace =>
    exact position.of_log (by simp [hplace, Place.phase]) rfl rfl
  | stampWait hplace | stampSuspend hplace =>
    have quiet : ∀ e ∈ [Event.wrote s.acutalTest 2 time], isQuiet e := by
      simp [isQuiet, startOf, isConverted]
    exact position.of_quiet (by simp [hplace, Place.phase]) rfl rfl quiet
  | disableInterrupt hplace =>
    have quiet : ∀ e ∈ [Event.stopped s.acutalTest], isQuiet e := by
      simp [isQuiet, startOf, isConverted]
    exact position.of_quiet (by simp [hplace, Place.phase]) rfl rfl quiet
  | clearDutyCycle hplace =>
    simp only [hplace, Place.phase] at here
    exact here
  | convert =>
    -- The mark that ends the pass: the next one has started no test.
    refine ⟨by simp, ?_⟩
    dsimp only
    rw [since_append_mark rfl]
    rfl
  | nextIteration hplace =>
    simp only [hplace, Place.phase] at here
    obtain ⟨member, started⟩ := here
    refine ⟨by simp [measured], started.trans ?_⟩
    simp [inPass, member, Tests.before]
  | advance hplace =>
    simp only [hplace, Place.phase] at here
    obtain ⟨member, started⟩ := here
    -- `acutalTest++` also follows the reset in `END`, so no later pass gets to `SEMAPHORE`.
    obtain ⟨defined, notFirst, before⟩ := Tests.before_next member
    refine ⟨defined, fun _ => notFirst, ?_⟩
    dsimp only
    rw [before, started]

theorem position_step {a : Label} (position : Position s)
    (enabled : step iterations s a = some t) : Position t := by
  cases a with
  | task time => exact position_statement position (statement_of_step_task enabled)
  | wake =>
    obtain ⟨blocked, number, -, rfl⟩ := consumed_of_step_wake enabled
    have quiet : ∀ e ∈ [Event.awoke number], isQuiet e := by simp [isQuiet, startOf, isConverted]
    exact position.of_quiet (by simp [State.consume, blocked.1, Place.phase]) rfl rfl quiet
  | timeout =>
    obtain ⟨⟨hplace, -⟩, rfl⟩ := stamp_of_step_timeout enabled
    exact position.of_log (by simp [hplace, Place.phase]) rfl rfl
  | edge time =>
    obtain ⟨-, -, rfl⟩ := delivered_of_step_edge enabled
    exact position_edge position time

/-- What one step does to the log and the tables: it converts the table, or it
ends no pass and leaves the first column and the results. -/
inductive Effect (iterations : ℕ) (s t : State) : Prop
  | converts (place : s.place = .convert) (stays : t.place = .testIteration)
      (log : t.log = s.log ++ [.converted]) (table : t.counterValue = s.counterValue)
      (values : ∀ k test column, t.values k test column = s.values k test column ∨
        t.values k test column = counterToUS (s.counterValue test column))
  | keeps (new : List Event) (log : t.log = s.log ++ new)
      (unmarked : ∀ e ∈ new, isConverted e = false)
      (unwritten : ∀ test time, .wrote test 0 time ∉ new)
      (table : ∀ test, t.counterValue test 0 = s.counterValue test 0)
      (values : t.values = s.values)
      (complete : t.place = .asserted .endTest → (statistics iterations s.values).isSome)

theorem Effect.of_place {place : Place} (unfinished : place ≠ .asserted .endTest) :
    Effect iterations s { s with place } :=
  .keeps [] (by simp) (by simp) (by simp) (by simp) rfl (fun finished => absurd finished unfinished)

theorem effect_statement {time : UInt32} (statement : Statement iterations time s t) :
    Effect iterations s t := by
  cases statement with
  | test | endCase | defaultCase | delay | suspend | checkPass | checkFail | clearDutyCycle
  | valueZero | morePasses => exact .of_place (by simp)
  | setDutyCycle =>
    exact .keeps [.started s.acutalTest] rfl (by simp [isConverted]) (by simp) (fun _ => rfl) rfl
      (by simp)
  | stampWait | stampSuspend =>
    exact .keeps [.wrote s.acutalTest 2 time] rfl (by simp [isConverted]) (by simp)
      (by simp [State.write]) rfl (by simp)
  | disableInterrupt =>
    exact .keeps [.stopped s.acutalTest] rfl (by simp [isConverted]) (by simp) (fun _ => rfl) rfl
      (by simp)
  | enableInterrupt | nextIteration | advance =>
    exact .keeps [] (by simp) (by simp) (by simp) (fun _ => rfl) rfl (by simp)
  | convert hplace =>
    refine .converts hplace rfl rfl rfl ?_
    intro k test column
    by_cases row : k = s.iteration ∧ k < iterations
    · exact .inr (if_pos row)
    · exact .inl (if_neg row)
  | endTest _ _ complete =>
    exact .keeps [] (by simp) (by simp) (by simp) (by simp) rfl (by simp [complete])

theorem effect_step {a : Label} (enabled : step iterations s a = some t) :
    Effect iterations s t := by
  cases a with
  | task time => exact effect_statement (statement_of_step_task enabled)
  | wake =>
    obtain ⟨-, number, -, rfl⟩ := consumed_of_step_wake enabled
    exact .keeps [.awoke number] rfl (by simp [isConverted]) (by simp) (fun _ => rfl) rfl
      (by simp [State.consume])
  | timeout =>
    obtain ⟨-, rfl⟩ := stamp_of_step_timeout enabled
    exact .of_place (by simp)
  | edge time =>
    obtain ⟨running, -, rfl⟩ := delivered_of_step_edge enabled
    obtain ⟨log, -, values, table⟩ := interruptHandler_keeps time s
    refine .keeps _ log (by simp [isConverted]) (by simp) ?_ values ?_
    · simp [table, State.write]
    · intro finished
      rcases interruptHandler_place time s with same | stopped | ⟨-, resumed⟩
      · exact absurd (same.symm.trans finished) (running .endTest)
      · simp [stopped] at finished
      · simp [resumed] at finished

/-! ## Runs -/

theorem counterToUS_zero : counterToUS 0 = 0 := by
  simp [counterToUS]

/-- A row with a zero fails the assertion of the statistics. -/
theorem tally_eq_none {summary : Tests → ℕ → Summary} {row : Tests → ℕ → ℚ}
    (zero : row .semaphore 0 = 0) : tally summary row = none := by
  apply if_neg
  intro nonzero
  exact nonzero .semaphore (by simp [measured]) 0 (by simp) zero

theorem statistics_eq_none {values : ℕ → Tests → ℕ → ℚ} (some_row : 0 < iterations)
    (zero : values 0 .semaphore 0 = 0) : statistics iterations values = none := by
  obtain ⟨rows, rfl⟩ := Nat.exists_eq_succ_of_ne_zero some_row.ne'
  simp [statistics, List.range_succ_eq_map, tally_eq_none zero]

theorem firstColumnUnwritten_step {a : Label} (unwritten : FirstColumnUnwritten iterations s)
    (enabled : step iterations s a = some t) : FirstColumnUnwritten iterations t := by
  obtain ⟨log, counterValue, values, -⟩ := unwritten
  cases effect_step enabled with
  | converts place stays log' table values' =>
    refine ⟨?_, ?_, ?_, by simp [stays]⟩
    · simpa [log'] using log
    · simpa [table] using counterValue
    · intro k test
      rcases values' k test 0 with same | converted
      · rw [same, values]
      · rw [converted, counterValue, counterToUS_zero]
  | keeps new log' unmarked unwritten table values' complete =>
    refine ⟨?_, ?_, ?_, ?_⟩
    · intro test time member
      rw [log'] at member
      rcases List.mem_append.mp member with old | added
      · exact log test time old
      · exact unwritten test time added
    · intro test
      rw [table, counterValue]
    · rwa [values']
    · intro some_row finished
      have whole := complete finished
      rw [statistics_eq_none some_row (values 0 .semaphore)] at whole
      cases whole

theorem passesStarted_step {a : Label} (passes : PassesStarted s.log) (position : Position s)
    (enabled : step iterations s a = some t) : PassesStarted t.log := by
  cases effect_step enabled with
  | keeps new log unmarked =>
    rw [log]
    exact passes.of_unmarked unmarked
  | converts place stays log =>
    rw [log]
    intro pre post split
    rcases append_singleton_eq_iff.mp split with ⟨rfl, -, -⟩ | ⟨post, -, earlier⟩
    · obtain ⟨-, started⟩ : s.acutalTest = .end ∧
        starts (since isConverted s.log) = inPass s.log measured := by
          simpa only [Position, place, Place.phase] using position
      exact started
    · exact passes pre post earlier

theorem kept_of_run (run : Run (step iterations) speedtestInit labels s) :
    Position s ∧ PassesStarted s.log ∧ FirstColumnUnwritten iterations s := by
  induction run with
  | nil =>
    refine ⟨?_, ?_, ?_⟩
    · exact ⟨by decide, by decide, rfl⟩
    · intro pre post split
      simp [speedtestInit] at split
    · exact ⟨by simp [speedtestInit], fun _ => rfl, fun _ _ => rfl, by simp [speedtestInit]⟩
  | snoc _ enabled ih =>
    obtain ⟨position, passes, unwritten⟩ := ih
    exact ⟨position_step position enabled, passesStarted_step passes position enabled,
      firstColumnUnwritten_step unwritten enabled⟩

/-- A pass whose log lacks the first column is not complete. -/
theorem FirstColumnUnwritten.not_passComplete {pass : List Event}
    (unwritten : FirstColumnUnwritten iterations s) (part : ∀ e ∈ pass, e ∈ s.log) :
    ¬ PassComplete pass := by
  intro complete
  obtain ⟨time, wrote⟩ := complete.fresh .semaphore (by simp [measured]) 0 (by decide)
  exact unwritten.log .semaphore time (part _ wrote)

/-- **No pass is complete.** The first pass executes the four tests, every later
one leaves out `SEMAPHORE`, and no pass ever writes the first column. Statistics
that are entered fail at the assertion of their values. After a store past the table this
supposes that the store has changed no variable of the test. -/
theorem no_pass_complete (run : Run (step iterations) speedtestInit labels s) :
    (∀ pre post, s.log = pre ++ .converted :: post → ¬ PassComplete (since isConverted pre)) ∧
    (∀ pre post, s.log = pre ++ .converted :: post → starts (since isConverted pre) =
      if .converted ∈ pre then [.event, .notification, .taskSuspend]
      else [.semaphore, .event, .notification, .taskSuspend]) ∧
    (∀ test time, .wrote test 0 time ∉ s.log) ∧
    (0 < iterations → s.place ≠ .asserted .endTest) := by
  obtain ⟨-, passes, unwritten⟩ := kept_of_run run
  refine ⟨?_, ?_, unwritten.log, unwritten.statistics⟩
  · intro pre post split
    apply unwritten.not_passComplete
    intro e member
    rw [split]
    exact List.mem_append_left _ (mem_of_mem_since member)
  · intro pre post split
    rw [passes pre post split]
    by_cases later : .converted ∈ pre <;> simp [inPass, later, measured]

/-- The first pass, with one edge in each test, up to the conversion. -/
def firstPass : List Label :=
  [.task 0, .task 0, .task 0, .task 0, .edge 100, .wake, .task 130, .task 0, .task 0, .task 0,
    .task 0, .task 0, .task 0, .task 0, .task 0, .edge 200, .wake, .task 230, .task 0, .task 0,
    .task 0, .task 0, .task 0, .task 0, .task 0, .task 0, .edge 300, .wake, .task 330, .task 0,
    .task 0, .task 0, .task 0, .task 0, .task 0, .task 0, .task 0, .task 0, .edge 400, .task 430,
    .task 0, .task 0, .task 0, .task 0, .task 0]

theorem no_pass_complete_firstPass :
    ∃ s, Run (step 1000) speedtestInit firstPass s ∧ s.place = .testIteration ∧
      ∀ test time, .wrote test 0 time ∉ s.log := by
  obtain ⟨s, run, converted⟩ := exists_run_of_check (step 1000) speedtestInit firstPass
    (fun s => s.place = .testIteration) (by decide)
  exact ⟨s, run, by simpa using converted, (no_pass_complete run).2.2.1⟩

/-- The first pass reaches `END` without an entry in the first column. -/
theorem not_passComplete_firstPass :
    ∃ s pre, Run (step 1000) speedtestInit firstPass s ∧ s.log = pre ++ [.converted] ∧
      ¬ PassComplete (since isConverted pre) := by
  obtain ⟨s, run, holds⟩ := exists_run_of_check (step 1000) speedtestInit firstPass
    (fun s => s.log = s.log.dropLast ++ [.converted]) (by decide)
  have split : s.log = s.log.dropLast ++ [.converted] := by simpa using holds
  refine ⟨s, s.log.dropLast, run, split, ?_⟩
  apply (kept_of_run run).2.2.not_passComplete
  exact fun e member => List.dropLast_subset _ (mem_of_mem_since member)

end TestSystem.SpeedTest
