import TestSystem.PpmGenerator.Task
import TestSystem.Transition.Run

/-!
# The stages of a frame

A frame passes through stages: a pulse and a low phase for each channel, the
closing pulse, and a pause that is slept by the task, waited for by the timer,
or skipped. A stage names the values emitted so far and determines the control
state, the remaining budget and the events of the frame up to now.

Every step of the system is a move between stages. The moves are the only
place that reads the branches of the source; what holds of whole runs is
derived from them.
-/

namespace TestSystem.PpmGenerator

open TestSystem.Transition

/-! ## The events of a frame -/

/-- The pulse before a low phase, and the closing pulse. -/
def pulseEvents : List Event := [.level true, .oneshot true 500]

/-- What one channel emits: the pulse, and the low phase with its slot value. -/
def channelEvents (index : ℕ) (value : UInt32) : List Event :=
  pulseEvents ++ [.sample index value, .level false, .oneshot false (value + 500)]

/-- The channels with these values, in order. -/
def channelsEvents (values : List UInt32) : List Event :=
  (values.mapIdx channelEvents).flatten

theorem channelsEvents_append_singleton (values : List UInt32) (value : UInt32) :
    channelsEvents (values ++ [value]) =
      channelsEvents values ++ channelEvents values.length value := by
  simp [channelsEvents, List.mapIdx_append]

/-- The part of the budget that the channels use up. -/
def cost (values : List UInt32) : UInt32 := (values.map (· + 1000)).sum

theorem cost_append_singleton (values : List UInt32) (value : UInt32) :
    cost (values ++ [value]) = cost values + (value + 1000) := by
  simp [cost]

/-- The budget that is left when the pause is entered. -/
def left (slots : UInt32) (values : List UInt32) : UInt32 := budget slots - cost values - 500

/-- A low phase takes its share, which with that of the pulse is the cost of the channel. -/
theorem left_sub_low (slots : UInt32) (values : List UInt32) (value : UInt32) :
    left slots values - (value + 500) = budget slots - cost (values ++ [value]) := by
  rw [left, cost_append_singleton]
  grind

/-! ## Stages -/

/-- Where a frame is; `values` are the slot values emitted so far. -/
inductive Stage
  /-- The pulse before the next channel's low phase. -/
  | pulse (values : List UInt32)
  /-- The low phase of the last value. -/
  | low (values : List UInt32)
  /-- The closing pulse. -/
  | closing (values : List UInt32)
  /-- The pause has given the semaphore. -/
  | posted (values : List UInt32)
  /-- The pause waits for the one-shot timer. -/
  | resting (values : List UInt32)
  /-- The task has taken the semaphore and is about to run `pc`. -/
  | task (values : List UInt32) (pc : Pc)

namespace Stage

/-- The slots that the frame has sampled so far. -/
@[simp] def values : Stage → List UInt32
  | .pulse values | .low values | .closing values | .posted values | .resting values
  | .task values _ => values

/-- `ppm->state` at the stage. -/
@[simp] def state : Stage → PpmState
  | .pulse _ => .start
  | .low _ => .data
  | .closing _ => .last
  | .posted _ | .resting _ => .pause
  | .task _ pc => if pc = .restart then .start else .pause

/-- Whether the timer is armed. -/
@[simp] def armed : Stage → Bool
  | .pulse _ | .low _ | .closing _ | .resting _ => true
  | .posted _ | .task _ _ => false

/-- Whether the semaphore is full. -/
@[simp] def given : Stage → Bool
  | .posted _ => true
  | _ => false

/-- Where the task is. -/
@[simp] def pc : Stage → Pc
  | .task _ pc => pc
  | _ => .take

/-- The level of the pin. -/
@[simp] def pin : Stage → Bool
  | .pulse _ | .closing _ => true
  | _ => false

/-- `ppm->sum` at the stage. -/
@[simp] def sum (slots : UInt32) : Stage → UInt32
  | .low values => budget slots - cost values
  | .pulse values | .closing values | .resting values => left slots values
  | .posted values | .task values _ => left slots values - left slots values / 1000 * 1000

/-- The events of the current frame. -/
def frame (slots : UInt32) : Stage → List Event
  | .low values => channelsEvents values
  | .pulse values | .closing values => channelsEvents values ++ pulseEvents
  | .posted values => channelsEvents values ++ pulseEvents ++ [.level false, .give false]
  | .resting values =>
    channelsEvents values ++ pulseEvents ++ [.level false, .oneshot false (left slots values)]
  | .task values pc =>
    channelsEvents values ++ pulseEvents ++ [.level false, .give false] ++
      if pc = .test ∨ pc = .setState ∨ pc = .restart then [.delayed (left slots values / 1000)]
      else []

/-- The points a frame can really be at: how many channels are out, which rest
of the budget leads to which pause, and how the task moves on. -/
def Valid (slots : UInt32) : Stage → Prop
  | .pulse values => values.length < slots.toNat
  | .low values => values.length ≤ slots.toNat
  | .closing values => values.length = slots.toNat
  | .posted values => values.length = slots.toNat ∧ 1000 ≤ left slots values
  | .resting values =>
    values.length = slots.toNat ∧ 0 < left slots values ∧ left slots values < 1000
  | .task values pc =>
    values.length = slots.toNat ∧ 1000 ≤ left slots values ∧
      (pc = .check ∨ pc = .delay ∨ pc = .sleep (left slots values / 1000) ∨ pc = .test ∨
        pc = .setState ∨ pc = .restart)

end Stage

/-- The system is at this stage of a frame. -/
structure Describes (s : Sys) (stage : Stage) : Prop where
  valid : stage.Valid s.ppm.slots
  slots : 1 ≤ s.ppm.slots.toNat
  slot : s.ppm.slot.length = s.ppm.slots.toNat
  fault : s.fault = none
  state : s.ppm.state = stage.state
  armed : s.ppm.timer.isSome = stage.armed
  given : s.ppm.sem = stage.given
  pc : s.pc = stage.pc
  sum : s.ppm.sum = stage.sum s.ppm.slots
  pos : s.ppm.pos.toNat = stage.values.length
  waittime : stage.given ∨ ¬ stage.armed →
    s.ppm.waittime = left s.ppm.slots stage.values / 1000
  pin : s.ppm.pin = stage.pin

/-! ## Moves -/

/-- The moves between stages, each with the events it adds to the log. -/
inductive Move (slots : UInt32) (slot : List UInt32) : Stage → List Event → Stage → Prop
  | low {values : List UInt32} {value : UInt32} (read : slot[values.length]? = some value) :
      Move slots slot (.pulse values)
        [.sample values.length value, .level false, .oneshot false (value + 500)]
        (.low (values ++ [value]))
  | pulse {values : List UInt32} : Move slots slot (.low values) pulseEvents (.pulse values)
  | closing {values : List UInt32} (all : values.length = slots.toNat) :
      Move slots slot (.low values) pulseEvents (.closing values)
  | post {values : List UInt32} :
      Move slots slot (.closing values) [.level false, .give false] (.posted values)
  | rest {values : List UInt32} :
      Move slots slot (.closing values) [.level false, .oneshot false (left slots values)]
        (.resting values)
  | direct {values : List UInt32} (none : left slots values = 0) :
      Move slots slot (.closing values) (.level false :: .started false :: pulseEvents)
        (.pulse [])
  | take {values : List UInt32} : Move slots slot (.posted values) [] (.task values .check)
  | check {values : List UInt32} :
      Move slots slot (.task values .check) [] (.task values .delay)
  | delay {values : List UInt32} :
      Move slots slot (.task values .delay) []
        (.task values (.sleep (left slots values / 1000)))
  | sleep {values : List UInt32} :
      Move slots slot (.task values (.sleep (left slots values / 1000)))
        [.delayed (left slots values / 1000)] (.task values .test)
  | test {values : List UInt32} :
      Move slots slot (.task values .test) [] (.task values .setState)
  | setState {values : List UInt32} :
      Move slots slot (.task values .setState) [] (.task values .restart)
  | restart {values : List UInt32} :
      Move slots slot (.task values .restart) (.started false :: pulseEvents) (.pulse [])
  | resume {values : List UInt32} :
      Move slots slot (.resting values) (.started false :: pulseEvents) (.pulse [])

/-! ## The system moves between stages -/

theorem describes_boot {ppm : Ppm} {ret : Int32} (created : Created ppm)
    (slots : 1 ≤ ppm.slots.toNat) (accepted : ¬ ret < 0) :
    Describes (boot ret ppm) (.pulse []) := by
  rw [boot, ppmStart_of_nonneg accepted]
  constructor <;> simp [Stage.Valid, left, cost, created.slot, created.sem]
  all_goals exact slots

variable {s t : Sys} {stage : Stage} {ret woken : Int32}

/-- A write leaves the stage alone. -/
theorem describes_write (described : Describes s stage) {index : ℕ} {value : UInt32}
    (enabled : step s (.write index value) = some t) :
    Describes t stage ∧ t.ppm.log = s.ppm.log ∧ t.ppm.slots = s.ppm.slots := by
  have hstep : some { s with ppm := { s.ppm with slot := s.ppm.slot.set index value } } =
      some t := by
    rw [← enabled, step, described.fault]
    rfl
  obtain rfl := Option.some.inj hstep
  exact ⟨{ described with slot := by simpa using described.slot }, rfl, rfl⟩

/-- The step with this label is enabled and makes a move from the stage. -/
def Moves (s : Sys) (label : Label) (stage : Stage) : Prop :=
  ∃ t new stage', step s label = some t ∧ Describes t stage' ∧
    Move s.ppm.slots s.ppm.slot stage new stage' ∧ t.ppm.log = s.ppm.log ++ new ∧
    t.ppm.slots = s.ppm.slots ∧ t.ppm.slot = s.ppm.slot

theorem step_timer_of_ok (running : s.fault = none) (armed : s.ppm.timer.isSome)
    {ppm : Ppm} {flag : Bool}
    (handled : timerHandler ret woken { s.ppm with timer := none } = .ok (ppm, flag)) :
    step s (.timer ret woken) = some { s with ppm := ppm } := by
  simp only [step, running, Option.isSome_none, Bool.false_eq_true, ↓reduceIte, armed, handled]

theorem whole_iff {n : UInt32} : 0 < n / 1000 ↔ 1000 ≤ n := by
  rw [UInt32.lt_iff_toNat_lt, UInt32.le_iff_toNat_le]
  simp

/-- The pulse of a channel ends: its low phase begins. -/
theorem moves_pulse {values : List UInt32} (described : Describes s (.pulse values))
    (accepted : ¬ ret < 0) : Moves s (.timer ret woken) (.pulse values) := by
  have hpos : s.ppm.pos.toNat = values.length := described.pos
  have hlt : values.length < s.ppm.slots.toNat := described.valid
  obtain ⟨value, read⟩ : ∃ value, s.ppm.slot[values.length]? = some value :=
    ⟨_, List.getElem?_eq_getElem (described.slot ▸ hlt)⟩
  have inRange : s.ppm.pos < s.ppm.slots := by rwa [UInt32.lt_iff_toNat_lt, hpos]
  -- `pos` is below `slots`, so that it does not wrap.
  have next : (s.ppm.pos + 1).toNat = values.length + 1 := by
    have := UInt32.toNat_lt s.ppm.slots
    rw [UInt32.toNat_add, hpos]
    simp
    omega
  have handled := timerHandler_start ret woken { s.ppm with timer := none }
    accepted described.state inRange (by rw [hpos]; exact read)
  refine ⟨_, _, _, step_timer_of_ok described.fault described.armed handled, ?_,
    .low read, by simp [hpos], rfl, rfl⟩
  constructor <;> simp [Stage.Valid, next, left_sub_low, described.slots, described.slot,
    described.fault, described.given, described.pc, described.sum]
  omega

/-- A low phase ends: the next channel's pulse begins. -/
theorem moves_low_next {values : List UInt32} (described : Describes s (.low values))
    (more : values.length < s.ppm.slots.toNat) (accepted : ¬ ret < 0) :
    Moves s (.timer ret woken) (.low values) := by
  have hpos : s.ppm.pos.toNat = values.length := described.pos
  have inRange : s.ppm.pos < s.ppm.slots := by rwa [UInt32.lt_iff_toNat_lt, hpos]
  have handled := timerHandler_data_next ret woken { s.ppm with timer := none }
    accepted described.state inRange
  refine ⟨_, _, _, step_timer_of_ok described.fault described.armed handled, ?_,
    .pulse, rfl, rfl, rfl⟩
  constructor <;> simp [Stage.Valid, left, more, hpos, described.slots, described.slot,
    described.fault, described.given, described.pc, described.sum]

/-- The last low phase ends: the closing pulse begins. -/
theorem moves_low_last {values : List UInt32} (described : Describes s (.low values))
    (all : values.length = s.ppm.slots.toNat) (accepted : ¬ ret < 0) :
    Moves s (.timer ret woken) (.low values) := by
  have hpos : s.ppm.pos.toNat = values.length := described.pos
  have outOfRange : ¬ s.ppm.pos < s.ppm.slots := by
    rw [UInt32.lt_iff_toNat_lt, hpos, all]
    omega
  have handled := timerHandler_data_last ret woken { s.ppm with timer := none }
    accepted described.state outOfRange
  refine ⟨_, _, _, step_timer_of_ok described.fault described.armed handled, ?_,
    .closing all, rfl, rfl, rfl⟩
  constructor <;> simp [Stage.Valid, left, all, hpos, described.slots, described.slot,
    described.fault, described.given, described.pc, described.sum]

/-- The closing pulse ends: the pause begins, in one of its three forms. -/
theorem moves_closing {values : List UInt32} (described : Describes s (.closing values))
    (accepted : ¬ ret < 0) : Moves s (.timer ret woken) (.closing values) := by
  have hsum : s.ppm.sum = left s.ppm.slots values := described.sum
  have hsem : s.ppm.sem = false := described.given
  have all : values.length = s.ppm.slots.toNat := described.valid
  -- The three exits of `ppm_pause`.
  by_cases whole : 0 < s.ppm.sum / 1000
  · have handled := timerHandler_last_give ret woken { s.ppm with timer := none }
      described.state whole
    refine ⟨_, _, _, step_timer_of_ok described.fault described.armed handled, ?_,
      .post, by simp [hsem], rfl, rfl⟩
    constructor <;> simp [Stage.Valid, all, hsum, described.slots, described.slot,
      described.fault, described.pc, described.pos]
    exact whole_iff.mp (hsum ▸ whole)
  · by_cases rest : 0 < s.ppm.sum
    · have handled := timerHandler_last_rest ret woken { s.ppm with timer := none }
        accepted described.state whole rest
      refine ⟨_, _, _, step_timer_of_ok described.fault described.armed handled, ?_,
        .rest, by simp [hsum], rfl, rfl⟩
      have short : left s.ppm.slots values < 1000 := by
        rw [whole_iff, hsum] at whole
        simpa using whole
      constructor <;> simp [Stage.Valid, all, hsum, described.slots, described.slot,
        described.fault, described.pc, described.pos, described.given]
      exact ⟨hsum ▸ rest, short⟩
    · have none_left : s.ppm.sum = 0 := by simpa using rest
      have handled := timerHandler_last_direct ret woken { s.ppm with timer := none }
        accepted described.state none_left
      refine ⟨_, _, _, step_timer_of_ok described.fault described.armed handled, ?_,
        .direct (hsum ▸ none_left), by simp [hsem, pulseEvents], rfl, rfl⟩
      constructor <;> simp [Stage.Valid, left, cost, described.slots, described.slot,
        described.fault, described.pc, described.given]
      exact described.slots

/-- The one-shot of a short pause ends: the next frame begins. -/
theorem moves_resting {values : List UInt32} (described : Describes s (.resting values))
    (accepted : ¬ ret < 0) : Moves s (.timer ret woken) (.resting values) := by
  have hsem : s.ppm.sem = false := described.given
  have handled := timerHandler_pause ret woken { s.ppm with timer := none }
    accepted described.state
  refine ⟨_, _, _, step_timer_of_ok described.fault described.armed handled, ?_,
    .resume, by simp [hsem, pulseEvents], rfl, rfl⟩
  constructor <;> simp [Stage.Valid, left, cost, described.slots, described.slot,
    described.fault, described.pc, described.given]
  exact described.slots

/-- Whatever the stage, an armed timer makes a move when it fires. -/
theorem moves_timer (described : Describes s stage) (armed : stage.armed)
    (accepted : ¬ ret < 0) : Moves s (.timer ret woken) stage := by
  cases stage with
  | pulse values => exact moves_pulse described accepted
  | low values =>
    -- The handler asks whether all channels are out.
    rcases Nat.lt_or_eq_of_le described.valid with more | all
    · exact moves_low_next described more accepted
    · exact moves_low_last described all accepted
  | closing values => exact moves_closing described accepted
  | resting values => exact moves_resting described accepted
  | posted values => simp at armed
  | task values pc => simp at armed

/-! The task, statement by statement. -/

theorem step_task (ret : Int32) (running : s.fault = none) :
    step s (.task ret) = ppmTask ret s := by
  simp [step, running]

theorem toNat_sub_whole_lt (n : UInt32) : n - n / 1000 * 1000 < 1000 := by
  have := UInt32.toNat_lt n
  rw [UInt32.lt_iff_toNat_lt]
  simp [UInt32.toNat_sub]
  omega

/-- The given semaphore is taken. -/
theorem moves_posted {values : List UInt32} (described : Describes s (.posted values)) :
    Moves s (.task ret) (.posted values) := by
  have hwait : s.ppm.waittime = left s.ppm.slots values / 1000 := described.waittime (by simp)
  obtain ⟨all, whole⟩ := described.valid
  have hstep := step_task ret described.fault
  refine ⟨_, _, _, hstep.trans (ppmTask_take described.pc described.given), ?_, .take, by simp,
    rfl, rfl⟩
  constructor <;> simp [Stage.Valid, all, whole, described.slots, described.slot, described.fault,
    described.pos, described.armed, described.state, described.sum, described.pin, hwait]

/-- Up to the restart of the frame the statements of the task only move the program
counter, log, and set the state. -/
theorem Describes.advance {values : List UInt32} {pc pc' : Pc} {state : PpmState}
    {log : List Event} (described : Describes s (.task values pc))
    (valid : (Stage.task values pc').Valid s.ppm.slots)
    (hstate : state = (Stage.task values pc').state) :
    Describes { s with ppm := { s.ppm with state := state, log := log }, pc := pc' }
      (.task values pc') where
  valid := valid
  slots := described.slots
  slot := described.slot
  fault := described.fault
  state := hstate
  armed := described.armed
  given := described.given
  pc := rfl
  sum := described.sum
  pos := described.pos
  waittime := described.waittime
  pin := described.pin

/-- The statement at the task's program counter, up to the restart of the frame. -/
theorem moves_task {values : List UInt32} {pc : Pc} (described : Describes s (.task values pc))
    (accepted : ¬ ret < 0) : Moves s (.task ret) (.task values pc) := by
  have hsem : s.ppm.sem = false := described.given
  have hwait : s.ppm.waittime = left s.ppm.slots values / 1000 := described.waittime (by simp)
  have htimer : s.ppm.timer = none := by simpa using described.armed
  have hstep := step_task ret described.fault
  obtain ⟨all, whole, rfl | rfl | rfl | rfl | rfl | rfl⟩ := described.valid
  · have hstate : s.ppm.state = .pause := described.state
    exact ⟨_, _, _, hstep.trans (ppmTask_check described.pc (by simp [hstate])),
      described.advance ⟨all, whole, by simp⟩ hstate, .check, by simp, rfl, rfl⟩
  · have hdelay : ppmTask ret s = some { s with pc := .sleep (left s.ppm.slots values / 1000) } :=
      hwait ▸ ppmTask_delay described.pc
    exact ⟨_, _, _, hstep.trans hdelay, described.advance ⟨all, whole, by simp⟩ described.state,
      .delay, by simp, rfl, rfl⟩
  · exact ⟨_, _, _, hstep.trans (ppmTask_sleep described.pc),
      described.advance ⟨all, whole, by simp⟩ described.state, .sleep, rfl, rfl, rfl⟩
  · -- The rest of the budget is below a millisecond here, so the other branch is never taken.
    have hless : s.ppm.sum < 1000 := described.sum ▸ toNat_sub_whole_lt _
    exact ⟨_, _, _, hstep.trans (ppmTask_test described.pc hless),
      described.advance ⟨all, whole, by simp⟩ described.state, .test, by simp, rfl, rfl⟩
  · exact ⟨_, _, _, hstep.trans (ppmTask_setState described.pc),
      described.advance ⟨all, whole, by simp⟩ rfl, .setState, by simp, rfl, rfl⟩
  · rw [ppmTask_restart described.pc, ppmStart_of_nonneg accepted] at hstep
    refine ⟨_, _, _, hstep, ?_, .restart, by simp [htimer, hsem, pulseEvents], rfl, rfl⟩
    constructor <;> simp [Stage.Valid, left, cost, described.slots, described.slot,
      described.fault, hsem]
    exact described.slots

/-- Whatever the stage, the task makes a move unless it waits for the semaphore. -/
theorem moves_task_of_not_armed (described : Describes s stage) (idle : ¬ stage.armed)
    (accepted : ¬ ret < 0) : Moves s (.task ret) stage := by
  cases stage with
  | posted values => exact moves_posted described
  | task values pc => exact moves_task described accepted
  | pulse | low | closing | resting => simp at idle

/-- While the timer is armed the task waits for the semaphore. -/
theorem step_task_of_armed (described : Describes s stage) (armed : stage.armed) :
    step s (.task ret) = none := by
  have hpc : s.pc = .take := by
    rw [described.pc]
    cases stage <;> simp at armed ⊢
  have hsem : s.ppm.sem = false := by
    rw [described.given]
    cases stage <;> simp at armed ⊢
  exact (step_task ret described.fault).trans (ppmTask_take_blocked hpc hsem)

/-- A timer that is not armed does not fire. -/
theorem step_timer_of_not_armed (described : Describes s stage) (idle : ¬ stage.armed) :
    step s (.timer ret woken) = none := by
  have htimer : ¬ s.ppm.timer.isSome := described.armed ▸ idle
  simp [step, described.fault, htimer]

/-- **Every step of the system is a write or a move.** -/
theorem describes_step {label : Label} (described : Describes s stage)
    (accepted : label.Accepted) (enabled : step s label = some t) :
    ∃ new stage', Describes t stage' ∧ t.ppm.log = s.ppm.log ++ new ∧
      t.ppm.slots = s.ppm.slots ∧
      ((new = [] ∧ stage' = stage ∧ ∃ index value, label = .write index value) ∨
        (Move s.ppm.slots s.ppm.slot stage new stage' ∧ t.ppm.slot = s.ppm.slot)) := by
  have of_moves (moves : Moves s label stage) :
      ∃ new stage', Describes t stage' ∧ t.ppm.log = s.ppm.log ++ new ∧
        t.ppm.slots = s.ppm.slots ∧
        ((new = [] ∧ stage' = stage ∧ ∃ index value, label = .write index value) ∨
          (Move s.ppm.slots s.ppm.slot stage new stage' ∧ t.ppm.slot = s.ppm.slot)) := by
    obtain ⟨t', new, stage', reached, described', move, hlog, hslots, hslot⟩ := moves
    obtain rfl : t' = t := Option.some.inj (reached.symm.trans enabled)
    exact ⟨new, stage', described', hlog, hslots, .inr ⟨move, hslot⟩⟩
  cases label with
  | timer ret woken =>
    by_cases armed : stage.armed
    · exact of_moves (moves_timer described armed accepted)
    · simp [step_timer_of_not_armed described armed] at enabled
  | task ret =>
    by_cases armed : stage.armed
    · simp [step_task_of_armed described armed] at enabled
    · exact of_moves (moves_task_of_not_armed described armed accepted)
  | write index value =>
    obtain ⟨described', hlog, hslots⟩ := describes_write described enabled
    exact ⟨[], stage, described', by simpa using hlog, hslots, .inl ⟨rfl, rfl, _, _, rfl⟩⟩

end TestSystem.PpmGenerator
