import TestSystem.PpmGenerator.Pending

/-!
# When the timer refuses

Any call of `timer_oneshot` may fail, and then nothing is armed. Where the
interrupt returns the error to its assertion the processor stops there. But
`ppm_pause` returns a scheduler flag instead of the error, and `ppm_task` drops the
results of `ppm_start` and `ppm_endPause`: a call that fails in these two places
is lost, and the generator stops without a word.
-/

namespace TestSystem.PpmGenerator

open TestSystem.Transition

/-! ## Calls that fail -/

/-- The step calls `timer_oneshot`. -/
def Sys.Calls (s : Sys) : Label → Prop
  | .timer _ _ =>
    match s.ppm.state with
    | .start => s.ppm.pos < s.ppm.slots
    | .data => True
    -- With a millisecond or more the pause goes to the task.
    | .last => s.ppm.sum / 1000 = 0
    | .pause => True
    | .stoped => False
  | .task _ => s.pc = .restart ∨ s.pc = .endPause
  | .write _ _ => False

/-- The step calls `timer_oneshot`, and the call fails. -/
def Fails (s : Sys) (label : Label) : Prop := s.Calls label ∧ ¬ label.Accepted

/-- The call that fails is made from `ppm_pause` or from `ppm_task`. -/
def Dropped (s : Sys) : Label → Prop
  | .timer ret _ => s.ppm.state = .last ∧ s.ppm.sum / 1000 = 0 ∧ ret < 0
  | .task ret => (s.pc = .restart ∨ s.pc = .endPause) ∧ ret < 0
  | .write _ _ => False

instance (s : Sys) (label : Label) : Decidable (Dropped s label) :=
  match label with
  | .timer ret _ =>
    inferInstanceAs (Decidable (s.ppm.state = .last ∧ s.ppm.sum / 1000 = 0 ∧ ret < 0))
  | .task ret => inferInstanceAs (Decidable ((s.pc = .restart ∨ s.pc = .endPause) ∧ ret < 0))
  | .write _ _ => inferInstanceAs (Decidable False)

/-- A call that fails in this step reaches `CONFIG_ASSERT(ret == 0)` of the interrupt. -/
def Reported (s : Sys) (label : Label) : Prop :=
  ∀ t, step s label = some t → Fails s label → ∃ ret, ret ≠ 0 ∧ t.fault = some (.ret ret)

/-- An assertion has fired, or the timer is armed, the semaphore given, or the task
on its way. -/
def Sys.Alive (s : Sys) : Prop := s.fault.isSome ∨ s.Armed ∨ s.Given ∨ s.TaskBusy

/-- The generator has stopped, and no assertion has fired. -/
structure Stalled (s : Sys) : Prop where
  fault : s.fault = none
  armed : s.ppm.timer = none
  given : s.ppm.sem = false
  pc : s.pc = .take

/-- The run reports every failure, and in every state it passes the generator is alive. -/
structure NeverSilent (s : Sys) (labels : List Label) : Prop where
  reported : Along Reported step s labels
  alive : ∀ past rest t, labels = past ++ rest → Run step s past t → t.Alive

/-- The label with a timer that accepts. -/
def Label.accepting : Label → Label
  | .timer _ woken => .timer 0 woken
  | .task _ => .task 0
  | .write index value => .write index value

theorem accepted_accepting (label : Label) : label.accepting.Accepted := by
  cases label with
  | timer ret woken => exact (by decide : ¬ (0 : Int32) < 0)
  | task ret => exact (by decide : ¬ (0 : Int32) < 0)
  | write index value => trivial

variable {s t : Sys} {stage : Stage} {label : Label} {ret woken : Int32}

/-- A step that does not call the timer is the same whatever the timer answers. -/
theorem step_accepting (silent : ¬ s.Calls label) : step s label.accepting = step s label := by
  cases label with
  | write index value => rfl
  | timer ret woken =>
    have same : timerHandler 0 woken { s.ppm with timer := none } =
        timerHandler ret woken { s.ppm with timer := none } := by
      simp only [Sys.Calls] at silent
      simp only [timerHandler]
      cases hstate : s.ppm.state with
      | start =>
        -- The assertion on the index fires before the timer would be called.
        have outOfRange : ¬ s.ppm.pos < s.ppm.slots := by simpa [hstate] using silent
        simp [ppmData, outOfRange]
      | data => simp [hstate] at silent
      | last =>
        -- The pause is left to the task.
        have whole : 0 < s.ppm.sum / 1000 :=
          UInt32.pos_iff_ne_zero.mpr (by simpa [hstate] using silent)
        simp [ppmPause, gpioPinClearPin, whole]
      | pause => simp [hstate] at silent
      | stoped => rfl
    simp only [Label.accepting, step, same]
  | task ret =>
    have same : ppmTask 0 s = ppmTask ret s := by
      obtain ⟨notRestart, notEndPause⟩ := not_or.mp silent
      cases hpc : s.pc with
      | restart => exact absurd hpc notRestart
      | endPause => exact absurd hpc notEndPause
      | take | check | delay | sleep | test | setState => simp only [ppmTask, hpc]
    simp only [Label.accepting, step, same]

/-- A step in which no call fails is a step of a timer that accepts. -/
theorem exists_accepted_of_not_fails (succeeds : ¬ Fails s label) :
    ∃ label' : Label, label'.Accepted ∧ step s label' = step s label ∧
      (label' = label ∨ label' = label.accepting) := by
  by_cases accepted : label.Accepted
  · exact ⟨label, accepted, rfl, .inl rfl⟩
  · have silent : ¬ s.Calls label := fun calls => succeeds ⟨calls, accepted⟩
    exact ⟨label.accepting, accepted_accepting label, step_accepting silent, .inr rfl⟩

/-! ## A call that fails -/

theorem timerOneshot_of_neg (refused : ret < 0) (us : UInt32) (ppm : Ppm) :
    timerOneshot ret us ppm = (ppm, ret) := by
  simp [timerOneshot, refused]

/-- The pulse does not begin: the pin is driven, but nothing ends the pulse. -/
theorem ppmStartTransfer_of_neg (refused : ret < 0) (ppm : Ppm) :
    (ppmStartTransfer ret ppm).2 = ret ∧
      (ppmStartTransfer ret ppm).1.timer = ppm.timer ∧
      (ppmStartTransfer ret ppm).1.sem = ppm.sem := by
  simp [ppmStartTransfer, timerOneshot_of_neg refused, refused, gpioPinSetPin]

theorem ppmStart_of_neg (refused : ret < 0) (ppm : Ppm) :
    (ppmStart ret ppm).2 = ret ∧ (ppmStart ret ppm).1.timer = ppm.timer ∧
      (ppmStart ret ppm).1.sem = ppm.sem :=
  ppmStartTransfer_of_neg refused _

theorem ppmEndPause_of_neg (refused : ret < 0) (ppm : Ppm) :
    ppmEndPause ret ppm = (ppm, ret) := by
  simp [ppmEndPause, timerOneshot_of_neg refused, refused]

theorem ne_zero_of_neg (refused : ret < 0) : ret ≠ 0 := by
  rintro rfl
  exact absurd refused (by decide)

theorem assertRet_of_neg (refused : ret < 0) {result : Ppm × Int32} (hret : result.2 = ret) :
    assertRet result = .error (.ret ret) := by
  simp [assertRet, hret, ne_zero_of_neg refused]

/-- In three states the interrupt returns the error to its assertion. -/
theorem timerHandler_of_neg (woken : Int32) (described : Describes s stage) (refused : ret < 0)
    (armed : stage.armed) (state : s.ppm.state ≠ .last) :
    timerHandler ret woken { s.ppm with timer := none } = .error (.ret ret) := by
  cases stage with
  | posted | task => simp at armed
  | closing values => exact absurd described.state state
  | resting values =>
    have hstate : s.ppm.state = .pause := described.state
    simp only [timerHandler, hstate]
    exact assertRet_of_neg refused (ppmStart_of_neg refused _).1
  | low values =>
    -- The next pulse and the closing pulse are both started by `ppm_startTransfer`.
    have hstate : s.ppm.state = .data := described.state
    simp only [timerHandler, hstate]
    split
    · exact assertRet_of_neg refused (ppmStartTransfer_of_neg refused _).1
    · exact assertRet_of_neg refused (ppmStartTransfer_of_neg refused _).1
  | pulse values =>
    have hstate : s.ppm.state = .start := described.state
    have hpos : s.ppm.pos.toNat = values.length := described.pos
    have hlt : values.length < s.ppm.slots.toNat := described.valid
    have inRange : s.ppm.pos < s.ppm.slots := by rwa [UInt32.lt_iff_toNat_lt, hpos]
    obtain ⟨value, read⟩ : ∃ value, s.ppm.slot[s.ppm.pos.toNat]? = some value :=
      ⟨_, List.getElem?_eq_getElem (by rw [hpos, described.slot]; exact hlt)⟩
    simp only [timerHandler, hstate, ppmData, inRange, read, if_true, gpioPinClearPin,
      timerOneshot_of_neg refused, refused]
    exact assertRet_of_neg refused rfl

/-- In the pause the error is lost, and nothing is armed. -/
theorem timerHandler_last_of_neg (ret woken : Int32) (refused : ret < 0) (ppm : Ppm)
    (state : ppm.state = .last) (short : ppm.sum / 1000 = 0) :
    ∃ ppm', timerHandler ret woken ppm = .ok (ppm', false) ∧ ppm'.timer = ppm.timer ∧
      ppm'.sem = ppm.sem := by
  let paused : Ppm := { ppm with
    pin := false
    log := ppm.log ++ [.level false]
    waittime := ppm.sum / 1000
    state := .pause }
  have short : ¬ 0 < ppm.sum / 1000 := by simp [short]
  by_cases rest : 0 < ppm.sum
  -- `ppm_endPause` fails, and its result is dropped.
  · refine ⟨paused, ?_, rfl, rfl⟩
    simp [timerHandler, state, ppmPause, gpioPinClearPin, short, rest, ppmEndPause_of_neg refused,
      paused]
  -- There is no pause at all, and `ppm_start` fails.
  · refine ⟨(ppmStart ret paused).1, ?_, (ppmStart_of_neg refused paused).2⟩
    simp [timerHandler, state, ppmPause, gpioPinClearPin, short, rest, paused]

/-! ## What a step does -/

/-- A call that fails in the interrupt fires the assertion, or it is made from the pause. -/
theorem step_timer_of_neg (described : Describes s stage) (refused : ret < 0)
    (calls : s.Calls (.timer ret woken)) (enabled : step s (.timer ret woken) = some t) :
    (¬ Dropped s (.timer ret woken) ∧ t.fault = some (.ret ret)) ∨
      (Dropped s (.timer ret woken) ∧ Stalled t) := by
  by_cases armed : stage.armed
  · by_cases state : s.ppm.state = .last
    · right
      have short : s.ppm.sum / 1000 = 0 := by simpa [Sys.Calls, state] using calls
      obtain ⟨ppm, handled, htimer, hsem⟩ := timerHandler_last_of_neg ret woken refused
        { s.ppm with timer := none } state short
      have hsem' : s.ppm.sem = false := by
        rw [described.given]
        cases stage <;> simp at armed ⊢
      have hpc : s.pc = .take := by
        rw [described.pc]
        cases stage <;> simp at armed ⊢
      have hstep := step_timer_of_ok described.fault (described.armed.trans armed) handled
      obtain rfl := Option.some.inj (hstep.symm.trans enabled)
      exact ⟨⟨state, short, refused⟩, described.fault, htimer, hsem.trans hsem', hpc⟩
    · left
      have handled := timerHandler_of_neg woken described refused armed state
      have htimer : s.ppm.timer.isSome := described.armed.trans armed
      simp only [step, described.fault, Option.isSome_none, Bool.false_eq_true, if_false, htimer,
        if_true, handled, Option.some.injEq] at enabled
      exact ⟨fun dropped => state dropped.1, enabled ▸ rfl⟩
  · simp [step_timer_of_not_armed described armed] at enabled

/-- A call that fails in the task is lost. -/
theorem step_task_of_neg (described : Describes s stage) (refused : ret < 0)
    (calls : s.Calls (.task ret)) (enabled : step s (.task ret) = some t) : Stalled t := by
  cases stage with
  | pulse | low | closing | resting =>
    rw [step_task_of_armed described (by simp)] at enabled
    cases enabled
  | posted values =>
    have hpc : s.pc = .take := described.pc
    simp [Sys.Calls, hpc] at calls
  | task values pc =>
    have hpc : s.pc = pc := described.pc
    have htimer : s.ppm.timer = none := by simpa using described.armed
    have hsem : s.ppm.sem = false := described.given
    obtain ⟨-, -, rfl | rfl | rfl | rfl | rfl | rfl⟩ := described.valid
    case inr.inr.inr.inr.inr =>
      rw [step_task ret described.fault, ppmTask_restart hpc] at enabled
      obtain rfl := Option.some.inj enabled
      obtain ⟨-, sameTimer, sameSem⟩ := ppmStart_of_neg refused s.ppm
      exact ⟨described.fault, sameTimer.trans htimer, sameSem.trans hsem, rfl⟩
    all_goals simp [Sys.Calls, hpc] at calls

/-- Whether the timer accepts or refuses, a step goes on, reports, or stalls. -/
theorem step_cases (described : Describes s stage) (enabled : step s label = some t) :
    (¬ Fails s label ∧ ∃ stage', Describes t stage') ∨
      (¬ Dropped s label ∧ ∃ ret, ret ≠ 0 ∧ t.fault = some (.ret ret)) ∨
      (Dropped s label ∧ Fails s label ∧ Stalled t) := by
  by_cases fails : Fails s label
  · right
    obtain ⟨calls, refused⟩ := id fails
    cases label with
    | write index value => exact calls.elim
    | timer ret woken =>
      have refused : ret < 0 := not_not.mp refused
      rcases step_timer_of_neg described refused calls enabled with
        ⟨kept, fault⟩ | ⟨dropped, stalled⟩
      · exact .inl ⟨kept, ret, ne_zero_of_neg refused, fault⟩
      · exact .inr ⟨dropped, fails, stalled⟩
    | task ret =>
      have refused : ret < 0 := not_not.mp refused
      exact .inr ⟨⟨calls, refused⟩, fails, step_task_of_neg described refused calls enabled⟩
  · left
    -- No call fails, so the step is one of a timer that accepts.
    obtain ⟨label', accepted, same, -⟩ := exists_accepted_of_not_fails fails
    obtain ⟨-, stage', described', -⟩ := describes_step described accepted (same.trans enabled)
    exact ⟨fails, stage', described'⟩

theorem fails_of_dropped (dropped : Dropped s label) : Fails s label := by
  cases label with
  | write index value => exact dropped.elim
  | timer ret woken =>
    obtain ⟨state, short, refused⟩ := dropped
    exact ⟨by simpa [Sys.Calls, state] using short, not_not_intro refused⟩
  | task ret => exact ⟨dropped.1, not_not_intro dropped.2⟩

/-! ## Runs -/

variable {ppm : Ppm} {labels : List Label}

/-- The run is at a stage, or an assertion has fired. -/
def Known (s : Sys) : Prop := s.fault.isSome ∨ ∃ stage, Describes s stage

theorem Known.describes (known : Known s) (enabled : step s label = some t) :
    ∃ stage, Describes s stage := by
  rcases known with fault | described
  · simp [step, fault] at enabled
  · exact described

theorem Known.step (kept : ¬ Dropped s label) (known : Known s)
    (enabled : step s label = some t) : Known t := by
  obtain ⟨stage, described⟩ := known.describes enabled
  rcases step_cases described enabled with ⟨-, described'⟩ | ⟨-, ret, -, fault⟩ | ⟨dropped, -⟩
  · exact .inr described'
  · exact .inl (by rw [fault]; rfl)
  · exact absurd dropped kept

/-- A step is reported exactly if it loses no call that fails. -/
theorem not_dropped_iff_reported (known : Known s) (enabled : step s label = some t) :
    ¬ Dropped s label ↔ Reported s label := by
  obtain ⟨stage, described⟩ := known.describes enabled
  have unique {t' : Sys} (other : TestSystem.PpmGenerator.step s label = some t') : t' = t :=
    Option.some.inj (other.symm.trans enabled)
  rcases step_cases described enabled with
    ⟨succeeds, -⟩ | ⟨kept, ret, nonzero, fault⟩ | ⟨dropped, fails, stalled⟩
  · exact iff_of_true (fun dropped => succeeds (fails_of_dropped dropped))
      fun _ _ fails => absurd fails succeeds
  · exact iff_of_true kept fun t' other _ => ⟨ret, nonzero, unique other ▸ fault⟩
  · refine iff_of_false (not_not_intro dropped) fun reported => ?_
    obtain ⟨ret, -, fault⟩ := reported t enabled fails
    rw [stalled.fault] at fault
    cases fault

theorem Known.alive (known : Known s) : s.Alive := by
  rcases known with fault | ⟨stage, described⟩
  · exact .inl fault
  · rcases exactlyOne_of_describes described with ⟨armed, -⟩ | ⟨-, given, -⟩ | ⟨-, -, busy⟩
    · exact .inr (.inl armed)
    · exact .inr (.inr (.inl given))
    · exact .inr (.inr (.inr busy))

theorem known_boot (created : Created ppm) (slots : 1 ≤ ppm.slots.toNat) (accepted : ¬ ret < 0) :
    Known (boot ret ppm) := .inr ⟨_, describes_boot created slots accepted⟩

theorem kept_iff_reported (known : Known s) (run : Run step s labels t) :
    Along (fun s label => ¬ Dropped s label) step s labels ↔ Along Reported step s labels :=
  run.along_congr known Known.step not_dropped_iff_reported

/-- **When the generator never stops silently.** A run from a successful `ppm_start`
on, in which any call of `timer_oneshot` may fail, reports every failure and never
finds the generator without anything pending, exactly if no call that fails is made
from `ppm_pause` or `ppm_task`. -/
theorem neverSilent_iff (created : Created ppm) (slots : 1 ≤ ppm.slots.toNat)
    (accepted : ¬ ret < 0) (run : Run step (boot ret ppm) labels s) :
    NeverSilent (boot ret ppm) labels ↔
      Along (fun s label => ¬ Dropped s label) step (boot ret ppm) labels := by
  have start := known_boot created slots accepted
  rw [kept_iff_reported start run]
  refine ⟨NeverSilent.reported, fun reported => ⟨reported, ?_⟩⟩
  rintro past rest t rfl reached
  -- Such a run loses no call, and neither does the part up to `t`.
  have kept := (kept_iff_reported start run).mpr reported
  exact (reached.along kept.of_append start Known.step).alive

/-- A low phase that cannot be armed fires the assertion. -/
theorem neverSilent_assertion : NeverSilent (boot 0 (oneChannel 0)) [.timer (-1) 0] := by
  obtain ⟨s, run, -⟩ := exists_run_of_check step (boot 0 (oneChannel 0)) [.timer (-1) 0]
    (fun s => s.fault = some (.ret (-1))) (by decide)
  exact (neverSilent_iff (created_oneChannel 0) (by decide) (by decide) run).mpr (by decide)

/-- Where a call is lost the run is silent. -/
theorem not_neverSilent_of_dropped (created : Created ppm) (slots : 1 ≤ ppm.slots.toNat)
    (executes : (labels.foldlM step (boot 0 ppm)).isSome)
    (dropped : ¬ Along (fun s label => ¬ Dropped s label) step (boot 0 ppm) labels) :
    ¬ NeverSilent (boot 0 ppm) labels := by
  intro silent
  obtain ⟨s, reached⟩ := Option.isSome_iff_exists.mp executes
  have start := known_boot created slots (by decide : ¬ (0 : Int32) < 0)
  exact dropped ((kept_iff_reported start (run_iff_foldlM.mpr reached)).mpr silent.reported)

/-- The first frame of one channel with the value 1000 leaves no pause, and the next
frame is started from the interrupt. With the value 0 the task starts it. When the
timer refuses there, nothing happens any more. -/
theorem not_neverSilent :
    ¬ NeverSilent (boot 0 (oneChannel 1000)) [.timer 0 0, .timer 0 0, .timer (-1) 0] ∧
      ¬ NeverSilent (boot 0 (oneChannel 0)) [.timer 0 0, .timer 0 0, .timer 0 1, .task 0, .task 0,
        .task 0, .task 0, .task 0, .task 0, .task (-1)] := by
  constructor
  · apply not_neverSilent_of_dropped (created_oneChannel 1000)
    all_goals decide
  · apply not_neverSilent_of_dropped (created_oneChannel 0)
    all_goals decide

end TestSystem.PpmGenerator
