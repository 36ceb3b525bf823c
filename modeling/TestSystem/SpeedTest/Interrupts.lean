import TestSystem.SpeedTest.Task
import TestSystem.Transition.Latest

/-!
# When the interrupt of the pin runs

`startTest` enables the interrupt and `stopTest` disables it again before the
test is advanced. So the interrupt runs within the test whose `startTest`
enabled it and nowhere else, and its time goes to the row of this test.
-/

namespace TestSystem.SpeedTest

open TestSystem.Transition

/-- The label is the statement of `startTest` that enables the interrupt. -/
def Enables (iterations : ℕ) (past : List Label) (a : Label) : Prop :=
  ∃ time s, a = .task time ∧ Run (step iterations) speedtestInit past s ∧
    s.place = .enableInterrupt

/-- The latest `startTest` that enabled the interrupt is that of this test. -/
def EnabledFor (iterations : ℕ) (labels : List Label) (test : Tests) : Prop :=
  ∃ pre a post s, Latest (Enables iterations) labels pre a post ∧
    Run (step iterations) speedtestInit pre s ∧ s.acutalTest = test

/-- Whether the interrupt is enabled and for which test, by the statement that
comes next. -/
def Bracketed (iterations : ℕ) (labels : List Label) (s : State) : Prop :=
  match s.place with
  | .dispatch => s.interruptEnabled = false ∧ s.acutalTest ≠ .undefined
  | .setDutyCycle | .delay | .enableInterrupt | .clearDutyCycle | .advance =>
    s.interruptEnabled = false ∧ s.acutalTest ∈ measured
  | .wait | .suspended | .stamp _ | .check _ | .disableInterrupt =>
    s.acutalTest ∈ measured ∧ EnabledFor iterations labels s.acutalTest
  | .convert | .testIteration | .nextIteration => s.interruptEnabled = false
  | .asserted assertion => assertion ≠ .interrupt ∧ assertion ≠ .notDefined

variable {iterations : ℕ} {labels : List Label} {s t : State} {a : Label} {test : Tests}

/-! ## Which test enabled the interrupt -/

theorem enabledFor_append_of_enables {time : UInt32}
    (run : Run (step iterations) speedtestInit labels s) (place : s.place = .enableInterrupt) :
    EnabledFor iterations (labels ++ [.task time]) s.acutalTest := by
  have enables : Enables iterations labels (.task time) := ⟨time, s, rfl, run, place⟩
  exact ⟨labels, .task time, [], s, (latest_append_of_meets enables).mpr ⟨rfl, rfl, rfl⟩, run, rfl⟩

/-- Any other step leaves the test that enabled the interrupt. -/
theorem EnabledFor.append (enabledFor : EnabledFor iterations labels test)
    (run : Run (step iterations) speedtestInit labels s) (elsewhere : s.place ≠ .enableInterrupt) :
    EnabledFor iterations (labels ++ [a]) test := by
  obtain ⟨pre, b, post, u, latest, reached, htest⟩ := enabledFor
  have misses : ¬ Enables iterations labels a := by
    rintro ⟨-, s', -, run', place⟩
    exact elsewhere (run.unique run' ▸ place)
  exact ⟨pre, b, post ++ [a], u, (latest_append_of_not_meets misses).mpr ⟨post, rfl, latest⟩,
    reached, htest⟩

/-! ## Steps -/

theorem Tests.next_ne_undefined (member : test ∈ measured) : test.next ≠ .undefined := by
  cases test with
  | «end» | undefined => simp [measured] at member
  | semaphore | event | notification | taskSuspend => decide

theorem bracketed_statement {time : UInt32} (run : Run (step iterations) speedtestInit labels s)
    (bracketed : Bracketed iterations labels s) (statement : Statement iterations time s t) :
    Bracketed iterations (labels ++ [.task time]) t := by
  have here := bracketed
  unfold Bracketed at here
  cases statement with
  | test hplace member =>
    simp only [hplace] at here
    exact ⟨here.1, member⟩
  | endCase hplace =>
    simp only [hplace] at here
    exact here.1
  | defaultCase hplace undefined =>
    simp only [hplace] at here
    exact absurd undefined here.2
  | setDutyCycle hplace | delay hplace | clearDutyCycle hplace =>
    simp only [hplace] at here
    exact here
  | enableInterrupt hplace =>
    simp only [hplace] at here
    have enabledFor : EnabledFor iterations (labels ++ [.task time]) s.acutalTest :=
      enabledFor_append_of_enables run hplace
    exact ⟨here.2, enabledFor⟩
  | suspend hplace | stampWait hplace | stampSuspend hplace | checkPass hplace =>
    simp only [hplace] at here
    exact ⟨here.1, here.2.append run (by simp [hplace])⟩
  | disableInterrupt hplace =>
    simp only [hplace] at here
    exact ⟨rfl, here.1⟩
  | convert hplace | morePasses hplace =>
    simp only [hplace] at here
    exact here
  | nextIteration hplace =>
    -- `END` has set the test to `SEMAPHORE`, which is advanced once more.
    simp only [hplace] at here
    exact ⟨here, by simp [measured]⟩
  | advance hplace =>
    simp only [hplace] at here
    exact ⟨here.1, Tests.next_ne_undefined here.2⟩
  | checkFail | valueZero | endTest => exact ⟨by simp, by simp⟩

/-- The statements from the end of `startTest` up to the beginning of `stopTest`. -/
def Place.inTest : Place → Bool
  | .wait | .suspended | .stamp _ | .check _ | .disableInterrupt => true
  | _ => false

theorem bracketed_of_inTest (inTest : s.place.inTest) :
    Bracketed iterations labels s ↔
      s.acutalTest ∈ measured ∧ EnabledFor iterations labels s.acutalTest := by
  unfold Bracketed
  cases hplace : s.place with
  | wait | suspended | stamp | check | disableInterrupt => rfl
  | _ => simp [hplace, Place.inTest] at inTest

/-- An enabled interrupt finds the task in a test. -/
theorem Bracketed.inTest (bracketed : Bracketed iterations labels s)
    (running : ∀ assertion, s.place ≠ .asserted assertion) (enabled : s.interruptEnabled = true) :
    s.place.inTest := by
  unfold Bracketed at bracketed
  cases hplace : s.place with
  | wait | suspended | stamp | check | disableInterrupt => rfl
  | asserted assertion => exact absurd hplace (running assertion)
  | _ => simp [hplace, enabled] at bracketed

/-- In a test the handler leaves the task in the test. -/
theorem interruptHandler_inTest (inTest : s.place.inTest) (member : s.acutalTest ∈ measured)
    (time : UInt32) : (interruptHandler time s).place.inTest := by
  by_cases suspend : s.acutalTest = .taskSuspend
  · obtain ⟨-, -, place⟩ := interruptHandler_taskSuspend suspend time
    rw [place]
    split
    · rfl
    · exact inTest
  · have waits : s.acutalTest.Waits := Tests.waits_of_mem member suspend
    obtain ⟨-, place, -⟩ := interruptHandler_waits waits time
    rwa [place]

theorem bracketed_edge {time : UInt32} (run : Run (step iterations) speedtestInit labels s)
    (bracketed : Bracketed iterations labels s)
    (running : ∀ assertion, s.place ≠ .asserted assertion) (enabled : s.interruptEnabled = true) :
    Bracketed iterations (labels ++ [a]) (interruptHandler time s) := by
  have inTest := bracketed.inTest running enabled
  obtain ⟨member, enabledFor⟩ := (bracketed_of_inTest inTest).mp bracketed
  obtain ⟨-, test, -⟩ := interruptHandler_keeps time s
  rw [bracketed_of_inTest (interruptHandler_inTest inTest member time), test]
  -- An edge is no statement of the task, and the test stays the one that is enabled.
  have elsewhere : s.place ≠ .enableInterrupt := by
    intro place
    simp [place, Place.inTest] at inTest
  exact ⟨member, enabledFor.append run elsewhere⟩

theorem bracketed_step (run : Run (step iterations) speedtestInit labels s)
    (bracketed : Bracketed iterations labels s) (enabled : step iterations s a = some t) :
    Bracketed iterations (labels ++ [a]) t := by
  cases a with
  | task time => exact bracketed_statement run bracketed (statement_of_step_task enabled)
  | wake =>
    obtain ⟨⟨hplace, -⟩, number, -, rfl⟩ := consumed_of_step_wake enabled
    obtain ⟨member, enabledFor⟩ :=
      (bracketed_of_inTest (by rw [hplace]; rfl)).mp bracketed
    exact ⟨member, enabledFor.append run (by simp [hplace])⟩
  | timeout =>
    obtain ⟨⟨hplace, -⟩, rfl⟩ := stamp_of_step_timeout enabled
    obtain ⟨member, enabledFor⟩ :=
      (bracketed_of_inTest (by rw [hplace]; rfl)).mp bracketed
    exact ⟨member, enabledFor.append run (by simp [hplace])⟩
  | edge time =>
    obtain ⟨running, delivered, rfl⟩ := delivered_of_step_edge enabled
    exact bracketed_edge run bracketed running delivered

/-! ## Runs -/

theorem bracketed_of_run (run : Run (step iterations) speedtestInit labels s) :
    Bracketed iterations labels s := by
  induction run with
  | nil => exact ⟨rfl, by decide⟩
  | snoc prior enabled ih => exact bracketed_step prior ih enabled

/-- **The interrupt runs within tests only.** In every reachable state an edge
that is delivered finds one of the four tests, the one whose `startTest` enabled
the interrupt, and its time goes to the row of this test and to no other entry.
Neither the interrupt nor the task comes to an undefined test. After a store past the
table this supposes that the store has changed no variable of the test. -/
theorem interrupt_in_test (run : Run (step iterations) speedtestInit labels s) :
    (∀ time t, step iterations s (.edge time) = some t →
      s.acutalTest ∈ measured ∧ EnabledFor iterations labels s.acutalTest ∧
        ∀ test column, t.counterValue test column =
          if test = s.acutalTest ∧ column = 1 then time else s.counterValue test column) ∧
    s.place ≠ .asserted .interrupt ∧ s.place ≠ .asserted .notDefined ∧
    (s.place = .dispatch → s.acutalTest ≠ .undefined) := by
  have bracketed := bracketed_of_run run
  refine ⟨?_, ?_, ?_, ?_⟩
  · intro time t enabled
    obtain ⟨running, delivered, rfl⟩ := delivered_of_step_edge enabled
    have inTest := bracketed.inTest running delivered
    obtain ⟨member, enabledFor⟩ := (bracketed_of_inTest inTest).mp bracketed
    obtain ⟨-, -, -, table⟩ := interruptHandler_keeps time s
    refine ⟨member, enabledFor, ?_⟩
    intro test column
    rw [table]
    rfl
  · intro place
    simp [Bracketed, place] at bracketed
  · intro place
    simp [Bracketed, place] at bracketed
  · intro place
    rw [Bracketed, place] at bracketed
    exact bracketed.2

/-- The first test with two edges before the wake-up. -/
theorem interrupt_in_test_semaphore :
    ∃ s t, Run (step 1000) speedtestInit (List.replicate 4 (.task 0) ++ [.edge 100]) s ∧
      step 1000 s (.edge 110) = some t ∧ s.acutalTest = .semaphore ∧
      EnabledFor 1000 (List.replicate 4 (.task 0) ++ [.edge 100]) .semaphore ∧
      t.counterValue .semaphore 1 = 110 := by
  obtain ⟨s, run, holds⟩ := exists_run_of_check (step 1000) speedtestInit
    (List.replicate 4 (.task 0) ++ [.edge 100])
    (fun s => s.acutalTest = .semaphore ∧ (step 1000 s (.edge 110)).isSome) (by decide +kernel)
  obtain ⟨htest, hsome⟩ : s.acutalTest = .semaphore ∧ (step 1000 s (.edge 110)).isSome := by
    simpa using holds
  obtain ⟨t, enabled⟩ := Option.isSome_iff_exists.mp hsome
  obtain ⟨-, enabledFor, table⟩ := (interrupt_in_test run).1 110 t enabled
  rw [htest] at enabledFor table
  exact ⟨s, t, run, enabled, htest, enabledFor, table .semaphore 1⟩

end TestSystem.SpeedTest
