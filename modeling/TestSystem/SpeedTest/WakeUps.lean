import TestSystem.SpeedTest.Task
import TestSystem.Transition.Segment

/-!
# Which interrupt wakes the task

A token that the interrupt leaves behind is consumed by the next wait of the
same test. If no second edge follows the first within a test, every wake-up
belongs to an interrupt of the running test. An edge after the wake-up and
before `stopTest` leaves a token for the same test of the next pass.
-/

namespace TestSystem.SpeedTest

open TestSystem.Transition

/-- The event starts a test. -/
def isStarted : Event → Bool
  | .started _ => true
  | _ => false

/-- The event is an interrupt. -/
def isInterrupt : Event → Bool
  | .interrupt _ => true
  | _ => false

/-- What happened since the last `startTest`. -/
def State.window (s : State) : List Event := since isStarted s.log

/-- A wait that has just succeeded was woken by an interrupt since `startTest`;
when the test has stopped, its two times are those of one interrupt and of the
wake-up that consumed its token. -/
structure WakesOwn (s : State) : Prop where
  wake : s.place = .stamp true → s.acutalTest ≠ .taskSuspend →
    ∃ number, .interrupt number ∈ s.window ∧ .awoke number ∈ s.window
  pair : s.place = .clearDutyCycle → s.acutalTest ≠ .taskSuspend →
    ∃ number time time', s.window = [.interrupt number, .wrote s.acutalTest 1 time,
        .awoke number, .wrote s.acutalTest 2 time', .stopped s.acutalTest] ∧
      s.counterValue s.acutalTest 1 = time ∧ s.counterValue s.acutalTest 2 = time'

/-- No edge follows another within a test that waits for a token, unless the wait
has timed out. -/
def FirstEdge (s : State) : Label → Prop
  | .edge _ => s.acutalTest = .taskSuspend ∨ s.place = .stamp false ∨ s.place = .check false ∨
      ∀ e ∈ s.window, isInterrupt e = false
  | _ => True

instance : ∀ s a, Decidable (FirstEdge s a)
  | _, .edge _ => inferInstanceAs (Decidable (_ ∨ _ ∨ _ ∨ _))
  | _, .task _ => isTrue trivial
  | _, .wake => isTrue trivial
  | _, .timeout => isTrue trivial

/-! ## The stages of a test -/

/-- No token waits to be consumed. -/
def Free (s : State) : Prop := ∀ test, s.token test = none

/-- Between two tests. -/
structure Calm (s : State) : Prop where
  disabled : s.interruptEnabled = false
  free : Free s

/-- A test runs and no interrupt has come. -/
structure Quiet (s : State) : Prop where
  free : Free s
  window : s.window = []

/-- The interrupt has come and the task has not yet woken up. -/
structure Hit (s : State) (number : ℕ) (time : UInt32) : Prop where
  waits : s.acutalTest.Waits
  token : ∀ test, s.token test = if test = s.acutalTest then some number else none
  window : s.window = [.interrupt number, .wrote s.acutalTest 1 time]
  first : s.counterValue s.acutalTest 1 = time

/-- The task has woken up and not yet read the time. -/
structure Woken (s : State) (number : ℕ) (time : UInt32) : Prop where
  waits : s.acutalTest.Waits
  free : Free s
  window : s.window = [.interrupt number, .wrote s.acutalTest 1 time, .awoke number]
  first : s.counterValue s.acutalTest 1 = time

/-- Both times are in the table. -/
structure Stamped (s : State) (number : ℕ) (time time' : UInt32) : Prop where
  waits : s.acutalTest.Waits
  free : Free s
  window : s.window = [.interrupt number, .wrote s.acutalTest 1 time, .awoke number,
    .wrote s.acutalTest 2 time']
  first : s.counterValue s.acutalTest 1 = time
  second : s.counterValue s.acutalTest 2 = time'

/-- How far the running test is, by the statement that comes next. -/
def Tracked (s : State) : Prop :=
  match s.place with
  | .delay | .enableInterrupt => s.interruptEnabled = false ∧ Quiet s
  | .wait => s.acutalTest = .taskSuspend ∧ Free s ∨ Quiet s ∨ ∃ number time, Hit s number time
  | .suspended => s.acutalTest = .taskSuspend ∧ Free s
  | .stamp ret => s.acutalTest = .taskSuspend ∧ Free s ∨
      s.acutalTest ≠ .taskSuspend ∧ (ret = true → ∃ number time, Woken s number time)
  | .check ret => ret = true → ∃ number time time', Stamped s number time time'
  | .disableInterrupt => s.acutalTest = .taskSuspend ∧ Free s ∨
      ∃ number time time', Stamped s number time time'
  | .clearDutyCycle => Calm s ∧ (s.acutalTest ≠ .taskSuspend →
      ∃ number time time', s.window = [.interrupt number, .wrote s.acutalTest 1 time,
          .awoke number, .wrote s.acutalTest 2 time', .stopped s.acutalTest] ∧
        s.counterValue s.acutalTest 1 = time ∧ s.counterValue s.acutalTest 2 = time')
  | .asserted _ => True
  | _ => Calm s

variable {iterations : ℕ} {labels : List Label} {s t : State} {number : ℕ} {time time' : UInt32}

theorem window_of_log {new : List Event} (log : t.log = s.log ++ new)
    (noStart : ∀ e ∈ new, isStarted e = false) : t.window = s.window ++ new := by
  rw [State.window, log, since_append_unmarked noStart, ← State.window]

/-! ## The interrupt -/

theorem interruptHandler_window (time : UInt32) (s : State) :
    (interruptHandler time s).window =
      s.window ++ [.interrupt (s.interrupts + 1), .wrote s.acutalTest 1 time] :=
  window_of_log (interruptHandler_keeps time s).1 (by simp [isStarted])

/-- The first edge of a test that waits leaves its token. -/
theorem Quiet.hit (quiet : Quiet s) (waits : s.acutalTest.Waits) (time : UInt32) :
    Hit (interruptHandler time s) (s.interrupts + 1) time := by
  obtain ⟨test, -, first, token⟩ := interruptHandler_waits waits time
  refine ⟨by rwa [test], fun other => ?_, ?_, by rwa [test]⟩
  · rw [token other, quiet.free other, test, Option.none_or]
  · rw [interruptHandler_window, quiet.window, test, List.nil_append]

/-! ## Where an edge may come -/

/-- Where an edge finds a test that waits for a token. -/
inductive Struck (s : State) : Prop
  /-- Before the wait has its token. -/
  | quiet (place : s.place = .wait) (quiet : Quiet s)
  | hit {number : ℕ} {time : UInt32} (place : s.place = .wait) (hit : Hit s number time)
  | woken {number : ℕ} {time : UInt32} (place : s.place = .stamp true)
      (woken : Woken s number time)
  | stamped {number : ℕ} {time time' : UInt32}
      (place : s.place = .check true ∨ s.place = .disableInterrupt)
      (stamped : Stamped s number time time')
  /-- The wait has timed out. -/
  | late (place : s.place = .stamp false ∨ s.place = .check false)

/-- Between two tests the interrupt of the pin is disabled. -/
theorem Calm.not_enabled (calm : Calm s) : ¬ s.interruptEnabled = true := by
  simp [calm.disabled]

theorem Tracked.struck (tracked : Tracked s) (enabled : s.interruptEnabled = true)
    (running : ∀ assertion, s.place ≠ .asserted assertion)
    (notSuspend : s.acutalTest ≠ .taskSuspend) : Struck s := by
  cases hplace : s.place with
  | dispatch | setDutyCycle | convert | testIteration | nextIteration | advance =>
    have calm : Calm s := by simpa [Tracked, hplace] using tracked
    exact absurd enabled calm.not_enabled
  | delay | enableInterrupt => simp [Tracked, hplace, enabled] at tracked
  | wait =>
    have tokens : Quiet s ∨ ∃ number time, Hit s number time := by
      simpa [Tracked, hplace, notSuspend] using tracked
    rcases tokens with quiet | ⟨number, time, hit⟩
    · exact .quiet hplace quiet
    · exact .hit hplace hit
  | suspended => simp [Tracked, hplace, notSuspend] at tracked
  | stamp ret =>
    cases ret with
    | false => exact .late (.inl hplace)
    | true =>
      obtain ⟨number, time, woken⟩ : ∃ number time, Woken s number time := by
        simpa [Tracked, hplace, notSuspend] using tracked
      exact .woken hplace woken
  | check ret =>
    cases ret with
    | false => exact .late (.inr hplace)
    | true =>
      obtain ⟨number, time, time', stamped⟩ : ∃ number time time', Stamped s number time time' := by
        simpa [Tracked, hplace] using tracked
      exact .stamped (.inl hplace) stamped
  | disableInterrupt =>
    obtain ⟨number, time, time', stamped⟩ : ∃ number time time', Stamped s number time time' := by
      simpa [Tracked, hplace, notSuspend] using tracked
    exact .stamped (.inr hplace) stamped
  | clearDutyCycle =>
    obtain ⟨calm, -⟩ : Calm s ∧ _ := by simpa only [Tracked, hplace] using tracked
    exact absurd enabled calm.not_enabled
  | asserted assertion => exact absurd hplace (running assertion)

/-- Where an edge finds `TASK_SUSPEND`, whose wait needs no token. -/
theorem Tracked.free_of_taskSuspend (tracked : Tracked s) (enabled : s.interruptEnabled = true)
    (running : ∀ assertion, s.place ≠ .asserted assertion) (suspend : s.acutalTest = .taskSuspend) :
    s.place = .check false ∨ Free s ∧ (s.place = .wait ∨ s.place = .suspended ∨
      (∃ ret, s.place = .stamp ret) ∨ s.place = .disableInterrupt) := by
  have notWaits : ¬ s.acutalTest.Waits := fun waits => waits.ne_taskSuspend suspend
  cases hplace : s.place with
  | dispatch | setDutyCycle | convert | testIteration | nextIteration | advance =>
    have calm : Calm s := by simpa [Tracked, hplace] using tracked
    exact absurd enabled calm.not_enabled
  | delay | enableInterrupt => simp [Tracked, hplace, enabled] at tracked
  | wait =>
    refine .inr ⟨?_, .inl rfl⟩
    obtain ⟨-, free⟩ | quiet | ⟨number, time, hit⟩ : s.acutalTest = .taskSuspend ∧ Free s ∨
      Quiet s ∨ ∃ number time, Hit s number time := by simpa [Tracked, hplace] using tracked
    · exact free
    · exact quiet.free
    · exact absurd hit.waits notWaits
  | suspended =>
    obtain ⟨-, free⟩ : s.acutalTest = .taskSuspend ∧ Free s := by
      simpa [Tracked, hplace] using tracked
    exact .inr ⟨free, .inr (.inl rfl)⟩
  | stamp ret =>
    have free : Free s := by simpa [Tracked, hplace, suspend] using tracked
    exact .inr ⟨free, .inr (.inr (.inl ⟨ret, rfl⟩))⟩
  | check ret =>
    cases ret with
    | false => exact .inl rfl
    | true =>
      obtain ⟨number, time, time', stamped⟩ : ∃ number time time', Stamped s number time time' := by
        simpa [Tracked, hplace] using tracked
      exact absurd stamped.waits notWaits
  | disableInterrupt =>
    refine .inr ⟨?_, .inr (.inr (.inr rfl))⟩
    obtain ⟨-, free⟩ | ⟨number, time, time', stamped⟩ : s.acutalTest = .taskSuspend ∧ Free s ∨
      ∃ number time time', Stamped s number time time' := by simpa [Tracked, hplace] using tracked
    · exact free
    · exact stamped.free
  | clearDutyCycle =>
    obtain ⟨calm, -⟩ : Calm s ∧ _ := by simpa only [Tracked, hplace] using tracked
    exact absurd enabled calm.not_enabled
  | asserted assertion => exact absurd hplace (running assertion)

/-! ## One step -/

/-- In a test that waits only the first edge may come, which leaves its token. -/
theorem tracked_edge_waits (waits : s.acutalTest.Waits) (struck : Struck s)
    (first : FirstEdge s (.edge time)) : Tracked (interruptHandler time s) := by
  obtain ⟨test, place, -⟩ := interruptHandler_waits waits time
  have notSecond (number : ℕ) (inTime : s.place ≠ .stamp false ∧ s.place ≠ .check false)
      (hit : Event.interrupt number ∈ s.window) : False := by
    rcases first with suspend | late | late | none
    · exact waits.ne_taskSuspend suspend
    · exact inTime.1 late
    · exact inTime.2 late
    · exact absurd (none _ hit) (by simp [isInterrupt])
  cases struck with
  | quiet hplace quiet =>
    rw [Tracked, place, hplace]
    exact .inr (.inr ⟨_, _, quiet.hit waits time⟩)
  | @hit number _ hplace hit =>
    exact (notSecond number (by simp [hplace]) (by rw [hit.window]; simp)).elim
  | @woken number _ hplace woken =>
    exact (notSecond number (by simp [hplace]) (by rw [woken.window]; simp)).elim
  | @stamped number _ _ hplace stamped =>
    have inTime : s.place ≠ .stamp false ∧ s.place ≠ .check false := by
      rcases hplace with h | h <;> simp [h]
    exact (notSecond number inTime (by rw [stamped.window]; simp)).elim
  | late hplace =>
    rcases hplace with stamp | check
    · rw [Tracked, place, stamp]
      exact .inr ⟨by rw [test]; exact waits.ne_taskSuspend, by simp⟩
    · simp [Tracked, place, check]

/-- `vTaskSuspend` consumes no token, and its edges leave none. -/
theorem tracked_edge_taskSuspend (suspend : s.acutalTest = .taskSuspend) (tracked : Tracked s)
    (enabled : s.interruptEnabled = true) (running : ∀ assertion, s.place ≠ .asserted assertion) :
    Tracked (interruptHandler time s) := by
  obtain ⟨test, token, place⟩ := interruptHandler_taskSuspend suspend time
  rcases tracked.free_of_taskSuspend enabled running suspend with check | ⟨before, places⟩
  · simp [Tracked, place, check]
  · have free : Free (interruptHandler time s) := by
      intro other
      rw [token]
      exact before other
    rcases places with h | h | ⟨ret, h⟩ | h
    all_goals
      rw [h] at place
      rw [Tracked, place]
      exact .inl ⟨test, free⟩

theorem tracked_edge (tracked : Tracked s) (first : FirstEdge s (.edge time))
    (enabled : s.interruptEnabled = true) (running : ∀ assertion, s.place ≠ .asserted assertion) :
    Tracked (interruptHandler time s) := by
  by_cases waits : s.acutalTest.Waits
  · exact tracked_edge_waits waits (tracked.struck enabled running waits.ne_taskSuspend) first
  · by_cases suspend : s.acutalTest = .taskSuspend
    · exact tracked_edge_taskSuspend suspend tracked enabled running
    · rw [Tracked, interruptHandler_asserted waits suspend time]
      trivial

/-- The wait that succeeds consumes the token of the edge before it. -/
theorem tracked_wake (tracked : Tracked s) (blocked : s.Waits)
    (available : s.token s.acutalTest = some number) : Tracked (s.consume number) := by
  obtain ⟨hplace, notSuspend⟩ := blocked
  have tokens : Quiet s ∨ ∃ number time, Hit s number time := by
    simpa [Tracked, hplace, notSuspend] using tracked
  rcases tokens with quiet | ⟨own, time, hit⟩
  · rw [quiet.free] at available
    cases available
  · obtain rfl : own = number := by simpa [hit.token] using available
    have window : (s.consume own).window = s.window ++ [.awoke own] :=
      window_of_log rfl (by simp [isStarted])
    refine .inr ⟨notSuspend, fun _ => ⟨own, time, hit.waits, fun test => ?_, ?_, hit.first⟩⟩
    · by_cases same : test = s.acutalTest <;> simp [State.consume, same, hit.token]
    · rw [window, hit.window]
      rfl

/-- The time of the wake-up completes the pair. -/
theorem Woken.stamped (woken : Woken s number time) (time' : UInt32) (place : Place) :
    Stamped { s.write s.acutalTest 2 time' with place } number time time' := by
  have window : ({ s.write s.acutalTest 2 time' with place } : State).window =
      s.window ++ [.wrote s.acutalTest 2 time'] := window_of_log rfl (by simp [isStarted])
  refine ⟨woken.waits, woken.free, ?_, ?_, ?_⟩
  · rw [window, woken.window]
    rfl
  · simpa [State.write] using woken.first
  · simp [State.write]

/-- Each statement leaves what the next one relies on. -/
theorem tracked_statement (tracked : Tracked s) (statement : Statement iterations time s t) :
    Tracked t := by
  cases statement with
  | test hplace | endCase hplace | convert hplace | morePasses hplace | nextIteration hplace
  | advance hplace =>
    obtain ⟨disabled, free⟩ : Calm s := by simpa [Tracked, hplace] using tracked
    exact ⟨disabled, free⟩
  | clearDutyCycle hplace =>
    obtain ⟨⟨disabled, free⟩, -⟩ : Calm s ∧ _ := by simpa only [Tracked, hplace] using tracked
    exact ⟨disabled, free⟩
  | setDutyCycle hplace =>
    obtain ⟨disabled, free⟩ : Calm s := by simpa [Tracked, hplace] using tracked
    exact ⟨disabled, free, since_append_mark rfl⟩
  | delay hplace =>
    obtain ⟨disabled, quiet⟩ : s.interruptEnabled = false ∧ Quiet s := by
      simpa [Tracked, hplace] using tracked
    exact ⟨disabled, quiet.free, quiet.window⟩
  | enableInterrupt hplace =>
    obtain ⟨-, quiet⟩ : s.interruptEnabled = false ∧ Quiet s := by
      simpa [Tracked, hplace] using tracked
    exact .inr (.inl ⟨quiet.free, quiet.window⟩)
  | suspend hplace suspend =>
    have free : Free s := by
      obtain ⟨-, free⟩ | quiet | ⟨number, time, hit⟩ : s.acutalTest = .taskSuspend ∧ Free s ∨
        Quiet s ∨ ∃ number time, Hit s number time := by simpa [Tracked, hplace] using tracked
      · exact free
      · exact quiet.free
      · exact absurd suspend hit.waits.ne_taskSuspend
    exact ⟨suspend, free⟩
  | stampWait hplace notSuspend =>
    obtain ⟨-, woken⟩ : s.acutalTest ≠ .taskSuspend ∧ (_ → ∃ number time, Woken s number time) := by
      simpa [Tracked, hplace, notSuspend] using tracked
    intro ok
    obtain ⟨number, first, woken⟩ := woken ok
    exact ⟨number, first, time, woken.stamped time _⟩
  | stampSuspend hplace suspend =>
    have free : Free s := by simpa [Tracked, hplace, suspend] using tracked
    exact .inl ⟨suspend, free⟩
  | checkPass hplace =>
    obtain ⟨number, time, time', stamped⟩ : ∃ number time time', Stamped s number time time' := by
      simpa [Tracked, hplace] using tracked
    exact .inr ⟨number, time, time', stamped.waits, stamped.free, stamped.window, stamped.first,
      stamped.second⟩
  | disableInterrupt hplace =>
    obtain ⟨suspend, free⟩ | ⟨number, first, second, stamped⟩ :
      s.acutalTest = .taskSuspend ∧ Free s ∨
        ∃ number time time', Stamped s number time time' := by simpa [Tracked, hplace] using tracked
    · exact ⟨⟨rfl, free⟩, fun notSuspend => absurd suspend notSuspend⟩
    · refine ⟨⟨rfl, stamped.free⟩, fun _ => ⟨number, first, second, ?_, stamped.first,
        stamped.second⟩⟩
      rw [window_of_log (s := s) rfl (by simp [isStarted]), stamped.window]
      rfl
  | defaultCase | checkFail | valueZero | endTest => trivial

theorem tracked_step {a : Label} (first : FirstEdge s a) (tracked : Tracked s)
    (enabled : step iterations s a = some t) : Tracked t := by
  cases a with
  | task time => exact tracked_statement tracked (statement_of_step_task enabled)
  | wake =>
    obtain ⟨blocked, number, available, rfl⟩ := consumed_of_step_wake enabled
    exact tracked_wake tracked blocked available
  | timeout =>
    obtain ⟨⟨-, notSuspend⟩, rfl⟩ := stamp_of_step_timeout enabled
    exact .inr ⟨notSuspend, by simp⟩
  | edge time =>
    obtain ⟨running, delivered, rfl⟩ := delivered_of_step_edge enabled
    exact tracked_edge tracked first delivered running

theorem tracked_of_run (run : Run (step iterations) speedtestInit labels s)
    (first : Along FirstEdge (step iterations) speedtestInit labels) : Tracked s :=
  run.along first ⟨rfl, fun _ => rfl⟩ tracked_step

theorem Tracked.wakesOwn (tracked : Tracked s) : WakesOwn s where
  wake hplace notSuspend := by
    obtain ⟨number, time, woken⟩ : ∃ number time, Woken s number time := by
      simpa [Tracked, hplace, notSuspend] using tracked
    exact ⟨number, by simp [woken.window], by simp [woken.window]⟩
  pair hplace notSuspend := by
    obtain ⟨-, pair⟩ : Calm s ∧ _ := by simpa only [Tracked, hplace] using tracked
    exact pair notSuspend

/-! ## A second edge -/

/-- A test that waits has seen more than one interrupt. -/
structure Doubled (s : State) : Prop where
  waits : s.acutalTest.Waits
  twice : 2 ≤ s.window.countP isInterrupt

theorem Doubled.not_wakesOwn (doubled : Doubled s) (stopped : s.place = .clearDutyCycle) :
    ¬ WakesOwn s := by
  intro own
  obtain ⟨number, first, second, window, -⟩ := own.pair stopped doubled.waits.ne_taskSuspend
  have twice := doubled.twice
  rw [window] at twice
  have once : 2 ≤ 1 := twice
  omega

/-- Steps to the end of a test that has been woken or has its token. -/
def Ending : ℕ → State → Prop
  | 0, s => Doubled s ∧ s.place = .disableInterrupt
  | 1, s => Doubled s ∧ s.place = .check true
  | 2, s => Doubled s ∧ s.place = .stamp true
  | 3, s => Doubled s ∧ s.place = .wait ∧ (s.token s.acutalTest).isSome
  | _, _ => False

theorem Doubled.of_log {new : List Event} (doubled : Doubled s) (test : t.acutalTest = s.acutalTest)
    (log : t.log = s.log ++ new) (noStart : ∀ e ∈ new, isStarted e = false) : Doubled t where
  waits := test ▸ doubled.waits
  twice := by
    rw [window_of_log log noStart, List.countP_append]
    exact doubled.twice.trans (Nat.le_add_right _ _)

theorem ending_step (n : ℕ) (s : State) (ending : Ending n s) :
    ∃ a t, (∀ time, a ≠ .edge time) ∧ step iterations s a = some t ∧
      ((Doubled t ∧ t.place = .clearDutyCycle) ∨ ∃ m < n, Ending m t) := by
  match n, ending with
  | 0, ⟨doubled, place⟩ =>
    refine ⟨.task 0, { s with
      interruptEnabled := false
      log := s.log ++ [.stopped s.acutalTest]
      place := .clearDutyCycle }, by simp, by simp [step, speedtestTask, place], .inl ⟨?_, rfl⟩⟩
    exact doubled.of_log rfl rfl (by simp [isStarted])
  | 1, ⟨doubled, place⟩ =>
    refine ⟨.task 0, { s with place := .disableInterrupt }, by simp,
      by simp [step, speedtestTask, place], .inr ⟨0, by simp, ?_, rfl⟩⟩
    exact ⟨doubled.waits, doubled.twice⟩
  | 2, ⟨doubled, place⟩ =>
    refine ⟨.task 0, { s.write s.acutalTest 2 0 with place := .check true }, by simp,
      by simp [step, speedtestTask, place, doubled.waits.ne_taskSuspend],
      .inr ⟨1, by simp, ?_, rfl⟩⟩
    exact doubled.of_log rfl rfl (by simp [isStarted])
  | 3, ⟨doubled, place, available⟩ =>
    obtain ⟨number, available⟩ := Option.isSome_iff_exists.mp available
    have blocked : s.Waits := ⟨place, doubled.waits.ne_taskSuspend⟩
    refine ⟨.wake, s.consume number, by simp, by simp [step, blocked, available],
      .inr ⟨2, by simp, ?_, rfl⟩⟩
    exact doubled.of_log rfl rfl (by simp [isStarted])

/-- An edge after another in the same test spoils the pair that the test leaves. -/
theorem exists_not_wakesOwn (tracked : Tracked s)
    (enabled : step iterations s (.edge time) = some t) (second : ¬ FirstEdge s (.edge time)) :
    ∃ more u, (∀ a ∈ more, ∀ time, a ≠ .edge time) ∧ Run (step iterations) t more u ∧
      ¬ WakesOwn u := by
  obtain ⟨running, delivered, rfl⟩ := delivered_of_step_edge enabled
  simp only [FirstEdge, not_or, not_forall, Bool.not_eq_false] at second
  obtain ⟨notSuspend, notLate, notLate', earlier, member, interrupt⟩ := second
  have doubled (waits : s.acutalTest.Waits) : Doubled (interruptHandler time s) := by
    obtain ⟨test, -⟩ := interruptHandler_waits waits time
    refine ⟨by rwa [test], ?_⟩
    have one : 0 < s.window.countP isInterrupt := List.countP_pos_iff.mpr ⟨_, member, interrupt⟩
    have another : [Event.interrupt (s.interrupts + 1),
        .wrote s.acutalTest 1 time].countP isInterrupt = 1 := rfl
    rw [interruptHandler_window, List.countP_append, another]
    omega
  -- The test runs to its end from wherever the second edge finds it.
  obtain ⟨n, ending⟩ : ∃ n, Ending n (interruptHandler time s) := by
    cases tracked.struck delivered running notSuspend with
    | quiet _ quiet => simp [quiet.window] at member
    | hit hplace hit =>
      obtain ⟨test, place, -, token⟩ := interruptHandler_waits hit.waits time
      exact ⟨3, doubled hit.waits, place.trans hplace, by simp [test, token, hit.token]⟩
    | woken hplace woken =>
      obtain ⟨-, place, -⟩ := interruptHandler_waits woken.waits time
      exact ⟨2, doubled woken.waits, place.trans hplace⟩
    | stamped hplace stamped =>
      obtain ⟨-, place, -⟩ := interruptHandler_waits stamped.waits time
      rcases hplace with check | stop
      · exact ⟨1, doubled stamped.waits, place.trans check⟩
      · exact ⟨0, doubled stamped.waits, place.trans stop⟩
    | late hplace => exact (hplace.elim notLate notLate').elim
  obtain ⟨more, u, run, quiet, doubled, stopped⟩ := exists_run_of_rank ending_step ending
  exact ⟨more, u, quiet, run, doubled.not_wakesOwn stopped⟩

/-- **Wake-ups belong to the running test.** In every run in which no edge follows
another within a test that waits, every wake-up belongs to an interrupt of the
running test, and every pair of times to one interrupt and its wake-up. A second
edge spoils the pair of its test. After a store past the table this supposes that the store
has changed no variable of the test. -/
theorem wakeUps_own (run : Run (step iterations) speedtestInit labels s)
    (first : Along FirstEdge (step iterations) speedtestInit labels) :
    WakesOwn s ∧ ∀ time t, step iterations s (.edge time) = some t →
      ¬ FirstEdge s (.edge time) → ∃ more u, (∀ a ∈ more, ∀ time, a ≠ .edge time) ∧
        Run (step iterations) t more u ∧ ¬ WakesOwn u :=
  ⟨(tracked_of_run run first).wakesOwn,
    fun _ _ enabled second => exists_not_wakesOwn (tracked_of_run run first) enabled second⟩

/-- The task alone executes `n` statements. -/
def tasks (n : ℕ) : List Label := List.replicate n (.task 0)

/-- One test: the statements up to the wait, an edge, the wake-up, and the
statements up to the next test. -/
def oneTest (edge wakeUp : UInt32) : List Label :=
  tasks 4 ++ [Label.edge edge, .wake, .task wakeUp] ++ tasks 4

/-- The first test, up to `stopTest`. -/
theorem wakeUps_own_semaphore :
    ∃ s, Run (step 1000) speedtestInit ((oneTest 100 130).take 9) s ∧ WakesOwn s ∧
      s.place = .clearDutyCycle := by
  obtain ⟨s, run, stopped⟩ := exists_run_of_check (step 1000) speedtestInit
    ((oneTest 100 130).take 9) (fun s => s.place = .clearDutyCycle) (by decide +kernel)
  exact ⟨s, run, (wakeUps_own run (by decide +kernel)).1, by simpa using stopped⟩

/-- A first pass with a second edge after the wake-up of `EVENT`, up to the wake-up
of `EVENT` in the next pass. -/
def staleLabels : List Label :=
  oneTest 100 130 ++ tasks 4 ++ [Label.edge 200, .wake, .edge 210, .task 230] ++ tasks 4 ++
    oneTest 300 330 ++ tasks 5 ++ [Label.edge 400, .task 430] ++ tasks 12 ++ [Label.wake]

/-- The task wakes up in `EVENT` without an interrupt in this test. -/
theorem not_wakesOwn_stale :
    ∃ s, Run (step 1000) speedtestInit staleLabels s ∧ s.acutalTest = .event ∧
      s.place = .stamp true ∧ (∀ number, .interrupt number ∉ s.window) ∧ ¬ WakesOwn s := by
  obtain ⟨s, run, holds⟩ := exists_run_of_check (step 1000) speedtestInit staleLabels
    (fun s => s.acutalTest = .event ∧ s.place = .stamp true ∧
      ∀ e ∈ s.window, isInterrupt e = false) (by decide +kernel)
  obtain ⟨test, place, none⟩ : s.acutalTest = .event ∧ s.place = .stamp true ∧
    ∀ e ∈ s.window, isInterrupt e = false := by simpa using holds
  have noInterrupt (number : ℕ) : .interrupt number ∉ s.window := fun member =>
    absurd (none _ member) (by simp [isInterrupt])
  refine ⟨s, run, test, place, noInterrupt, fun own => ?_⟩
  obtain ⟨number, member, -⟩ := own.wake place (by simp [test])
  exact noInterrupt number member

end TestSystem.SpeedTest
