import TestSystem.Transition.Run

/-!
# The speed test

`src/vf610/speedtest.c` measures how long a task takes to wake up from an
interrupt. Each test enables the interrupt of a pin, waits, and notes the time of
the interrupt and the time of the wake-up in a table. After the last test the
table is converted to microseconds, and after enough passes the statistics are
computed. The task is a sequence of statements between which an edge may come.
-/

namespace TestSystem.SpeedTest

/-- `enum tests`; `undefined` stands for every value past `END`. -/
inductive Tests
  | semaphore
  | event
  | notification
  | taskSuspend
  | «end»
  | undefined
  deriving DecidableEq, Repr

/-- `acutalTest++`. -/
def Tests.next : Tests → Tests
  | .semaphore => .event
  | .event => .notification
  | .notification => .taskSuspend
  | .taskSuspend => .end
  | .end => .undefined
  | .undefined => .undefined

/-- The tests before `END`, which have a row in the tables. -/
def measured : List Tests := [.semaphore, .event, .notification, .taskSuspend]

/-- Why the task has stopped in a `CONFIG_ASSERT`. -/
inductive Assertion
  /-- The interrupt came outside of a test. -/
  | interrupt
  /-- The wait has timed out. -/
  | wait
  /-- A value of the statistics is zero. -/
  | value
  /-- The statistics are complete. -/
  | endTest
  /-- The test is not defined. -/
  | notDefined
  deriving DecidableEq, Repr

/-- The statement of `speedtest_task` that comes next. -/
inductive Place
  /-- `switch(acutalTest)`. -/
  | dispatch
  /-- The three statements of `startTest`. -/
  | setDutyCycle
  | delay
  | enableInterrupt
  /-- `xSemaphoreTake`, `xEventGroupWaitBits`, `xTaskNotifyWait` or `vTaskSuspend`. -/
  | wait
  /-- In `vTaskSuspend`. -/
  | suspended
  /-- `counterValue[acutalTest][2] = GETTIME()`. -/
  | stamp (ret : Bool)
  /-- `CONFIG_ASSERT` of the return value. -/
  | check (ret : Bool)
  /-- The two statements of `stopTest`. -/
  | disableInterrupt
  | clearDutyCycle
  /-- The case `END`. -/
  | convert
  | testIteration
  | nextIteration
  /-- `acutalTest++`. -/
  | advance
  | asserted (assertion : Assertion)
  deriving DecidableEq, Repr

/-- What the log records. Interrupts are numbered. -/
inductive Event
  | started (test : Tests)
  | interrupt (number : ℕ)
  /-- An entry of `counterValue` is written. -/
  | wrote (test : Tests) (column : ℕ) (time : UInt32)
  /-- The wait has consumed the token that an interrupt left. -/
  | awoke (number : ℕ)
  | stopped (test : Tests)
  /-- The case `END` converts the table. -/
  | converted
  deriving DecidableEq, Repr

/-- One entry of `value`, `max` and `min`; `none` is the infinity that an extremum
starts with. -/
structure Summary where
  value : ℚ
  max : Option ℚ
  min : Option ℚ
  deriving DecidableEq, Repr

/-- The globals and the task. `token` holds what a give, a bit or a notification
leaves behind, with the number of the interrupt; `values` is exact where the
source computes in `float`. -/
structure State where
  acutalTest : Tests
  counterValue : Tests → ℕ → UInt32
  token : Tests → Option ℕ
  values : ℕ → Tests → ℕ → ℚ
  iteration : ℕ
  summary : Option (Tests → ℕ → Summary)
  interruptEnabled : Bool
  place : Place
  interrupts : ℕ
  log : List Event

/-- After `speedtest_init`: the semaphore is given and taken once. -/
def speedtestInit : State where
  acutalTest := .semaphore
  counterValue := fun _ _ => 0
  token := fun _ => none
  values := fun _ _ _ => 0
  iteration := 0
  summary := none
  interruptEnabled := false
  place := .dispatch
  interrupts := 0
  log := []

/-! ## The interrupt -/

/-- `counterValue[test][column] = GETTIME()`. -/
def State.write (test : Tests) (column : ℕ) (time : UInt32) (s : State) : State :=
  { s with
    counterValue := fun t c => if t = test ∧ c = column then time else s.counterValue t c
    log := s.log ++ [.wrote test column time] }

/-- A token persists until it is consumed; a second one is not counted. -/
def State.post (test : Tests) (s : State) : State :=
  { s with
    token := fun t => if t = test then (s.token t).or (some s.interrupts) else s.token t }

/-- A token for the task that waits for the semaphore. -/
def xSemaphoreGiveFromISR : State → State := State.post .semaphore

/-- A token for the task that waits for the event group. -/
def xEventGroupSetBitsFromISR : State → State := State.post .event

/-- A token for the task that waits for a notification. -/
def xTaskNotifyFromISR : State → State := State.post .notification

/-- Resuming a task that is not suspended changes nothing. -/
def xTaskResumeFromISR (s : State) : State :=
  if s.place = .suspended then { s with place := .stamp true } else s

/-- The interrupt stores the time and wakes the task as the current test asks for. -/
def interruptHandler (time : UInt32) (s : State) : State :=
  let s := { s with
    interrupts := s.interrupts + 1
    log := s.log ++ [Event.interrupt (s.interrupts + 1)] }
  let s := s.write s.acutalTest 1 time
  match s.acutalTest with
  | .semaphore => xSemaphoreGiveFromISR s
  | .event => xEventGroupSetBitsFromISR s
  | .notification => xTaskNotifyFromISR s
  | .taskSuspend => xTaskResumeFromISR s
  | .end => { s with place := .asserted .interrupt }
  | .undefined => { s with place := .asserted .interrupt }

/-! ## The results -/

/-- `PRESCALER` as the divider that it stands for. -/
def prescaler : ℚ := 4

/-- `BASETIME`. -/
def baseTime : ℚ := 1000

/-- `ADJUST`. -/
def adjust : ℚ := 203

/-- `counterToUS`, in exact arithmetic. -/
def counterToUS (value : UInt32) : ℚ :=
  let v := (value.toNat : ℚ)
  let i := 166.736842 / 2
  let diff := baseTime + adjust
  let us := v * prescaler / i
  us * baseTime / diff

/-- The loops over one row of `values` in the statistics, which assert that no
entry is zero. -/
def tally (summary : Tests → ℕ → Summary) (row : Tests → ℕ → ℚ) :
    Option (Tests → ℕ → Summary) :=
  if ∀ test ∈ measured, ∀ column ∈ List.range 3, row test column ≠ 0 then
    some fun test column =>
      let entry := summary test column
      let value := row test column
      { value := entry.value + value
        max := some (entry.max.elim value (max value))
        min := some (entry.min.elim value (min value)) }
  else none

/-- The statistics over `ITERATION` rows. -/
def statistics (iterations : ℕ) (values : ℕ → Tests → ℕ → ℚ) :
    Option (Tests → ℕ → Summary) := do
  let summary ← (List.range iterations).foldlM (fun summary k => tally summary (values k))
    fun _ _ => ⟨0, none, none⟩
  return fun test column =>
    { summary test column with value := (summary test column).value / iterations }

/-! ## The task -/

/-- One statement of `speedtest_task` that does not block, where `ITERATION` is
the number of rows of `values`. -/
def speedtestTask (iterations : ℕ) (time : UInt32) (s : State) : Option State :=
  match s.place with
  | .dispatch =>
    match s.acutalTest with
    | .semaphore | .event | .notification | .taskSuspend => some { s with place := .setDutyCycle }
    | .end => some { s with place := .convert }
    | .undefined => some { s with place := .asserted .notDefined }
  | .setDutyCycle =>
    some { s with log := s.log ++ [.started s.acutalTest], place := .delay }
  | .delay => some { s with place := .enableInterrupt }
  | .enableInterrupt => some { s with interruptEnabled := true, place := .wait }
  | .wait => if s.acutalTest = .taskSuspend then some { s with place := .suspended } else none
  | .suspended => none
  | .stamp ret =>
    some { s.write s.acutalTest 2 time with
      place := if s.acutalTest = .taskSuspend then .disableInterrupt else .check ret }
  | .check ret => some { s with place := if ret then .disableInterrupt else .asserted .wait }
  | .disableInterrupt =>
    some { s with
      interruptEnabled := false
      log := s.log ++ [.stopped s.acutalTest]
      place := .clearDutyCycle }
  | .clearDutyCycle => some { s with place := .advance }
  | .convert =>
    some { s with
      -- C does not say what a store past the table does. Here it does nothing, so what is
      -- said of later passes is said of a store that hits no variable of the test.
      values := fun k test column =>
        if k = s.iteration ∧ k < iterations then counterToUS (s.counterValue test column)
        else s.values k test column
      log := s.log ++ [.converted]
      place := .testIteration }
  | .testIteration =>
    if s.iteration > iterations then
      match statistics iterations s.values with
      | none => some { s with place := .asserted .value }
      | some summary => some { s with summary := some summary, place := .asserted .endTest }
    else some { s with place := .nextIteration }
  | .nextIteration =>
    some { s with iteration := s.iteration + 1, acutalTest := .semaphore, place := .advance }
  | .advance => some { s with acutalTest := s.acutalTest.next, place := .dispatch }
  | .asserted _ => none

/-- The task, its wait and the interrupt act in any order. -/
inductive Label
  /-- The task executes a statement; `time` is what `GETTIME()` would read. -/
  | task (time : UInt32)
  /-- The wait succeeds, or gives up after `WAITTIME`. -/
  | wake
  | timeout
  /-- A rising edge. -/
  | edge (time : UInt32)
  deriving DecidableEq, Repr

/-- A wait consumes the token of its test. -/
def State.consume (number : ℕ) (s : State) : State :=
  { s with
    token := fun t => if t = s.acutalTest then none else s.token t
    log := s.log ++ [.awoke number]
    place := .stamp true }

/-- The task blocks in one of the three waits. -/
def State.Waits (s : State) : Prop := s.place = .wait ∧ s.acutalTest ≠ .taskSuspend

instance (s : State) : Decidable s.Waits := inferInstanceAs (Decidable (_ ∧ _))

/-- An edge is delivered while the interrupt of the pin is enabled. A failed
assertion disables all interrupts. -/
def step (iterations : ℕ) (s : State) : Label → Option State
  | .task time => speedtestTask iterations time s
  | .wake => if s.Waits then (s.token s.acutalTest).map fun number => s.consume number else none
  | .timeout =>
    if s.Waits ∧ s.token s.acutalTest = none then some { s with place := .stamp false } else none
  | .edge time =>
    match s.place with
    | .asserted _ => none
    | _ => if s.interruptEnabled then some (interruptHandler time s) else none

/-! ## What the interrupt does -/

/-- The test waits for a token. -/
def Tests.Waits : Tests → Prop
  | .semaphore | .event | .notification => True
  | _ => False

variable {iterations : ℕ} {s t : State} {time : UInt32}

theorem Tests.Waits.ne_taskSuspend {test : Tests} (waits : test.Waits) :
    test ≠ .taskSuspend := by
  rintro rfl
  exact waits

theorem Tests.Waits.mem_measured {test : Tests} (waits : test.Waits) : test ∈ measured := by
  cases test with
  | semaphore | event | notification => decide
  | taskSuspend | «end» | undefined => exact waits.elim

/-- Of the four tests only `TASK_SUSPEND` needs no token. -/
theorem Tests.waits_of_mem {test : Tests} (member : test ∈ measured)
    (notSuspend : test ≠ .taskSuspend) : test.Waits := by
  cases test with
  | semaphore | event | notification => trivial
  | taskSuspend => exact absurd rfl notSuspend
  | «end» | undefined => simp [measured] at member

/-- In every test the handler writes one entry of the table. -/
theorem interruptHandler_keeps (time : UInt32) (s : State) :
    (interruptHandler time s).log =
        s.log ++ [.interrupt (s.interrupts + 1), .wrote s.acutalTest 1 time] ∧
      (interruptHandler time s).acutalTest = s.acutalTest ∧
      (interruptHandler time s).values = s.values ∧
      (interruptHandler time s).counterValue = (s.write s.acutalTest 1 time).counterValue := by
  cases h : s.acutalTest with
  | taskSuspend =>
    by_cases suspended : s.place = .suspended <;>
      simp [interruptHandler, h, State.write, xTaskResumeFromISR, suspended]
  | _ =>
    simp [interruptHandler, h, State.write, xSemaphoreGiveFromISR, xEventGroupSetBitsFromISR,
      xTaskNotifyFromISR, State.post]

/-- The handler counts no pass. -/
theorem interruptHandler_iteration (time : UInt32) (s : State) :
    (interruptHandler time s).iteration = s.iteration := by
  cases h : s.acutalTest with
  | taskSuspend =>
    by_cases suspended : s.place = .suspended <;>
      simp [interruptHandler, h, State.write, xTaskResumeFromISR, suspended]
  | _ =>
    simp [interruptHandler, h, State.write, xSemaphoreGiveFromISR, xEventGroupSetBitsFromISR,
      xTaskNotifyFromISR, State.post]

/-- In a test that waits, the handler notes the time and posts the token. -/
theorem interruptHandler_waits (waits : s.acutalTest.Waits) (time : UInt32) :
    (interruptHandler time s).acutalTest = s.acutalTest ∧
      (interruptHandler time s).place = s.place ∧
      (interruptHandler time s).counterValue s.acutalTest 1 = time ∧
      ∀ test, (interruptHandler time s).token test =
        if test = s.acutalTest then (s.token test).or (some (s.interrupts + 1))
        else s.token test := by
  cases h : s.acutalTest with
  | semaphore | event | notification =>
    simp [interruptHandler, State.write, h, xSemaphoreGiveFromISR, xEventGroupSetBitsFromISR,
      xTaskNotifyFromISR, State.post]
  | taskSuspend | «end» | undefined =>
    rw [h] at waits
    exact waits.elim

theorem interruptHandler_taskSuspend (test : s.acutalTest = .taskSuspend) (time : UInt32) :
    (interruptHandler time s).acutalTest = .taskSuspend ∧
      (interruptHandler time s).token = s.token ∧
      (interruptHandler time s).place =
        if s.place = .suspended then .stamp true else s.place := by
  by_cases suspended : s.place = .suspended <;>
    simp [interruptHandler, test, State.write, xTaskResumeFromISR, suspended]

/-- Outside the four tests the handler stops the system. -/
theorem interruptHandler_asserted (undefined : ¬ s.acutalTest.Waits)
    (test : s.acutalTest ≠ .taskSuspend) (time : UInt32) :
    (interruptHandler time s).place = .asserted .interrupt := by
  cases h : s.acutalTest with
  | «end» | undefined => simp [interruptHandler, h, State.write]
  | taskSuspend => exact absurd h test
  | semaphore | event | notification => simp [h, Tests.Waits] at undefined

/-- The handler leaves the task where it is, unless it resumes it or stops the
system. -/
theorem interruptHandler_place (time : UInt32) (s : State) :
    (interruptHandler time s).place = s.place ∨
      (interruptHandler time s).place = .asserted .interrupt ∨
      s.place = .suspended ∧ (interruptHandler time s).place = .stamp true := by
  by_cases waits : s.acutalTest.Waits
  · exact .inl (interruptHandler_waits waits time).2.1
  · by_cases suspend : s.acutalTest = .taskSuspend
    · obtain ⟨-, -, place⟩ := interruptHandler_taskSuspend suspend time
      by_cases suspended : s.place = .suspended
      · exact .inr (.inr ⟨suspended, by rw [place, if_pos suspended]⟩)
      · exact .inl (by rw [place, if_neg suspended])
    · exact .inr (.inl (interruptHandler_asserted waits suspend time))

/-! ## What a step does -/

/-- What the statement that comes next does, case by case. -/
inductive Statement (iterations : ℕ) (time : UInt32) (s : State) : State → Prop
  | test (place : s.place = .dispatch) (member : s.acutalTest ∈ measured) :
      Statement iterations time s { s with place := .setDutyCycle }
  | endCase (place : s.place = .dispatch) (test : s.acutalTest = .end) :
      Statement iterations time s { s with place := .convert }
  | defaultCase (place : s.place = .dispatch) (test : s.acutalTest = .undefined) :
      Statement iterations time s { s with place := .asserted .notDefined }
  | setDutyCycle (place : s.place = .setDutyCycle) :
      Statement iterations time s
        { s with log := s.log ++ [.started s.acutalTest], place := .delay }
  | delay (place : s.place = .delay) :
      Statement iterations time s { s with place := .enableInterrupt }
  | enableInterrupt (place : s.place = .enableInterrupt) :
      Statement iterations time s { s with interruptEnabled := true, place := .wait }
  | suspend (place : s.place = .wait) (test : s.acutalTest = .taskSuspend) :
      Statement iterations time s { s with place := .suspended }
  | stampWait {ret : Bool} (place : s.place = .stamp ret) (test : s.acutalTest ≠ .taskSuspend) :
      Statement iterations time s { s.write s.acutalTest 2 time with place := .check ret }
  | stampSuspend {ret : Bool} (place : s.place = .stamp ret) (test : s.acutalTest = .taskSuspend) :
      Statement iterations time s { s.write s.acutalTest 2 time with place := .disableInterrupt }
  | checkPass (place : s.place = .check true) :
      Statement iterations time s { s with place := .disableInterrupt }
  | checkFail (place : s.place = .check false) :
      Statement iterations time s { s with place := .asserted .wait }
  | disableInterrupt (place : s.place = .disableInterrupt) :
      Statement iterations time s
        { s with
          interruptEnabled := false
          log := s.log ++ [.stopped s.acutalTest]
          place := .clearDutyCycle }
  | clearDutyCycle (place : s.place = .clearDutyCycle) :
      Statement iterations time s { s with place := .advance }
  | convert (place : s.place = .convert) :
      Statement iterations time s
        { s with
          values := fun k test column =>
            if k = s.iteration ∧ k < iterations then counterToUS (s.counterValue test column)
            else s.values k test column
          log := s.log ++ [.converted]
          place := .testIteration }
  | valueZero (place : s.place = .testIteration) (entered : s.iteration > iterations)
      (incomplete : statistics iterations s.values = none) :
      Statement iterations time s { s with place := .asserted .value }
  | endTest {summary : Tests → ℕ → Summary} (place : s.place = .testIteration)
      (entered : s.iteration > iterations)
      (complete : statistics iterations s.values = some summary) :
      Statement iterations time s { s with summary := some summary, place := .asserted .endTest }
  | morePasses (place : s.place = .testIteration) (notEntered : ¬ s.iteration > iterations) :
      Statement iterations time s { s with place := .nextIteration }
  | nextIteration (place : s.place = .nextIteration) :
      Statement iterations time s
        { s with iteration := s.iteration + 1, acutalTest := .semaphore, place := .advance }
  | advance (place : s.place = .advance) :
      Statement iterations time s { s with acutalTest := s.acutalTest.next, place := .dispatch }

theorem statement_of_step_task (enabled : step iterations s (.task time) = some t) :
    Statement iterations time s t := by
  change speedtestTask iterations time s = some t at enabled
  cases hplace : s.place with
  | dispatch =>
    cases htest : s.acutalTest with
    | semaphore | event | notification | taskSuspend =>
      obtain rfl : { s with place := .setDutyCycle } = t := by
        simpa [speedtestTask, hplace, htest] using enabled
      exact .test hplace (by simp [htest, measured])
    | «end» =>
      obtain rfl : { s with place := .convert } = t := by
        simpa [speedtestTask, hplace, htest] using enabled
      exact .endCase hplace htest
    | undefined =>
      obtain rfl : { s with place := .asserted .notDefined } = t := by
        simpa [speedtestTask, hplace, htest] using enabled
      exact .defaultCase hplace htest
  | setDutyCycle =>
    obtain rfl := by simpa [speedtestTask, hplace] using enabled
    exact .setDutyCycle hplace
  | delay =>
    obtain rfl := by simpa [speedtestTask, hplace] using enabled
    exact .delay hplace
  | enableInterrupt =>
    obtain rfl := by simpa [speedtestTask, hplace] using enabled
    exact .enableInterrupt hplace
  | wait =>
    -- The other waits are not statements of the task: they succeed or time out.
    obtain ⟨test, rfl⟩ : s.acutalTest = .taskSuspend ∧ { s with place := .suspended } = t := by
      simpa [speedtestTask, hplace] using enabled
    exact .suspend hplace test
  | stamp ret =>
    by_cases test : s.acutalTest = .taskSuspend
    · obtain rfl : { s.write s.acutalTest 2 time with place := .disableInterrupt } = t := by
        simpa [speedtestTask, hplace, test] using enabled
      exact .stampSuspend hplace test
    · obtain rfl : { s.write s.acutalTest 2 time with place := .check ret } = t := by
        simpa [speedtestTask, hplace, test] using enabled
      exact .stampWait hplace test
  | check ret =>
    cases ret with
    | true =>
      obtain rfl := by simpa [speedtestTask, hplace] using enabled
      exact .checkPass hplace
    | false =>
      obtain rfl := by simpa [speedtestTask, hplace] using enabled
      exact .checkFail hplace
  | disableInterrupt =>
    obtain rfl := by simpa [speedtestTask, hplace] using enabled
    exact .disableInterrupt hplace
  | clearDutyCycle =>
    obtain rfl := by simpa [speedtestTask, hplace] using enabled
    exact .clearDutyCycle hplace
  | convert =>
    obtain rfl := by simpa [speedtestTask, hplace] using enabled
    exact .convert hplace
  | testIteration =>
    by_cases entered : s.iteration > iterations
    · cases complete : statistics iterations s.values with
      | none =>
        obtain rfl := by simpa [speedtestTask, hplace, entered, complete] using enabled
        exact .valueZero hplace entered complete
      | some summary =>
        obtain rfl := by simpa [speedtestTask, hplace, entered, complete] using enabled
        exact .endTest hplace entered complete
    · obtain rfl := by simpa [speedtestTask, hplace, entered] using enabled
      exact .morePasses hplace entered
  | nextIteration =>
    obtain rfl := by simpa [speedtestTask, hplace] using enabled
    exact .nextIteration hplace
  | advance =>
    obtain rfl := by simpa [speedtestTask, hplace] using enabled
    exact .advance hplace
  | suspended => simp [speedtestTask, hplace] at enabled
  | asserted assertion => simp [speedtestTask, hplace] at enabled

/-- A wait succeeds with the token of its test. -/
theorem consumed_of_step_wake (enabled : step iterations s .wake = some t) :
    s.Waits ∧ ∃ number, s.token s.acutalTest = some number ∧ s.consume number = t := by
  simpa [step, Option.map_eq_some_iff] using enabled

theorem stamp_of_step_timeout (enabled : step iterations s .timeout = some t) :
    s.Waits ∧ { s with place := .stamp false } = t := by
  obtain ⟨⟨blocked, -⟩, rfl⟩ : (s.Waits ∧ s.token s.acutalTest = none) ∧
    { s with place := .stamp false } = t := by simpa [step] using enabled
  exact ⟨blocked, rfl⟩

theorem delivered_of_step_edge (enabled : step iterations s (.edge time) = some t) :
    (∀ assertion, s.place ≠ .asserted assertion) ∧ s.interruptEnabled = true ∧
      interruptHandler time s = t := by
  cases hplace : s.place with
  | asserted => simp [step, hplace] at enabled
  | _ => simpa [step, hplace] using enabled

end TestSystem.SpeedTest
