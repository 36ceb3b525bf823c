import TestSystem.PpmGenerator.Stages
import TestSystem.Transition.Segment

/-!
# The frames of a run

The log of a run, cut at every execution of `ppm_start`, consists of complete
frames and one that is still going on. A complete frame is determined by the
slot values it sampled: its channels, the closing pulse, and the pause that
the rest of the budget selects. The current frame is the one its stage names.
-/

namespace TestSystem.PpmGenerator

open TestSystem.Transition

/-- The execution of `ppm_start`, which begins a frame. -/
def isStarted : Event → Bool
  | .started _ => true
  | _ => false

/-- The frame lies between two executions of `ppm_start` that follow one another. -/
def IsFrame (log frame : List Event) : Prop :=
  ∃ pre busy busy' post, log = pre ++ .started busy :: frame ++ .started busy' :: post ∧
    ∀ e ∈ frame, isStarted e = false

/-- The frame is what has followed the last execution of `ppm_start`. -/
def IsCurrent (log frame : List Event) : Prop :=
  ∃ pre busy, log = pre ++ .started busy :: frame ∧ ∀ e ∈ frame, isStarted e = false

theorem IsFrame.mem_closed {log frame : List Event} (h : IsFrame log frame) :
    frame ∈ (cut isStarted log).closed := by
  obtain ⟨pre, busy, busy', post, rfl, free⟩ := h
  exact TestSystem.Transition.mem_closed rfl rfl free

theorem isFrame_of_mem_closed {log frame : List Event} (h : frame ∈ (cut isStarted log).closed) :
    IsFrame log frame := by
  obtain ⟨pre, m, m', post, hm, hm', free, rfl⟩ := exists_eq_of_mem_closed h
  cases m <;> simp [isStarted] at hm
  cases m' <;> simp [isStarted] at hm'
  exact ⟨pre, _, _, post, rfl, free⟩

theorem IsCurrent.current_eq {log frame : List Event} (h : IsCurrent log frame) :
    (cut isStarted log).current = some frame := by
  obtain ⟨pre, busy, rfl, free⟩ := h
  exact current_append_mark rfl free

theorem IsFrame.mem_log {log frame : List Event} (h : IsFrame log frame) {e : Event}
    (member : e ∈ frame) : e ∈ log := by
  obtain ⟨pre, busy, busy', post, rfl, -⟩ := h
  simp [member]

theorem IsCurrent.mem_log {log frame : List Event} (h : IsCurrent log frame) {e : Event}
    (member : e ∈ frame) : e ∈ log := by
  obtain ⟨pre, busy, rfl, -⟩ := h
  simp [member]

/-- What follows the closing pulse, by the budget that is left. -/
def pauseEvents (rest : UInt32) : List Event :=
  if 1000 ≤ rest then [.give false, .delayed (rest / 1000)]
  else if 0 < rest then [.oneshot false rest]
  else []

/-- The events between two executions of `ppm_start`. -/
def completeFrame (slots : UInt32) (values : List UInt32) : List Event :=
  channelsEvents values ++ pulseEvents ++ .level false :: pauseEvents (left slots values)

/-- No frame is started while another activity is pending, no semaphore is given
twice, and no slot is read out of range. -/
def Event.Clean (slots : UInt32) : Event → Prop
  | .started busy => ¬ busy
  | .give full => ¬ full
  | .sample index _ => index < slots.toNat
  | _ => True

section Moves

variable {slots : UInt32} {slot : List UInt32} {stage stage' : Stage} {new : List Event}

@[simp] theorem isStarted_pulseEvents {e : Event} (h : e ∈ pulseEvents) : isStarted e = false := by
  rcases List.mem_cons.mp h with rfl | h
  · rfl
  · obtain rfl := List.mem_singleton.mp h
    rfl

/-- A move extends the current frame, or it completes the frame and starts the
next one. -/
theorem Move.extends_or_completes (move : Move slots slot stage new stage')
    (valid : stage.Valid slots) :
    (stage'.frame slots = stage.frame slots ++ new ∧ ∀ e ∈ new, isStarted e = false) ∨
      ∃ last, (∀ e ∈ last, isStarted e = false) ∧
        new = last ++ .started false :: pulseEvents ∧ stage' = .pulse [] ∧
        stage.values.length = slots.toNat ∧
        stage.frame slots ++ last = completeFrame slots stage.values := by
  cases move with
  | low read =>
    refine .inl ⟨?_, by simp [isStarted]⟩
    simp [Stage.frame, channelsEvents_append_singleton, channelEvents]
  | pulse => exact .inl ⟨rfl, fun e h => isStarted_pulseEvents h⟩
  | closing => exact .inl ⟨rfl, fun e h => isStarted_pulseEvents h⟩
  | post => exact .inl ⟨rfl, by simp [isStarted]⟩
  | rest => exact .inl ⟨rfl, by simp [isStarted]⟩
  | @direct values none =>
    refine .inr ⟨[.level false], by simp [isStarted], rfl, rfl, valid, ?_⟩
    have hpause : pauseEvents (left slots values) = [] := by simp [pauseEvents, none]
    simp [Stage.frame, completeFrame, hpause]
  | take => exact .inl ⟨by simp [Stage.frame], by simp⟩
  | check => exact .inl ⟨by simp [Stage.frame], by simp⟩
  | delay => exact .inl ⟨by simp [Stage.frame], by simp⟩
  | sleep => exact .inl ⟨by simp [Stage.frame], by simp [isStarted]⟩
  | test => exact .inl ⟨by simp [Stage.frame], by simp⟩
  | setState => exact .inl ⟨by simp [Stage.frame], by simp⟩
  -- The frame is complete: its pause is the one the budget selects.
  | @restart values =>
    obtain ⟨all, whole, -⟩ := valid
    refine .inr ⟨[], by simp, rfl, rfl, all, ?_⟩
    simp [Stage.frame, completeFrame, pauseEvents, whole]
  | @resume values =>
    obtain ⟨all, some_left, short⟩ := valid
    refine .inr ⟨[], by simp, rfl, rfl, all, ?_⟩
    simp [Stage.frame, completeFrame, pauseEvents, some_left, UInt32.not_le.mpr short]

theorem Move.clean (move : Move slots slot stage new stage') (valid : stage.Valid slots) :
    ∀ e ∈ new, e.Clean slots := by
  cases move <;> simp [Event.Clean, pulseEvents]
  case low => exact valid

/-- A sample is the value the slot holds. -/
theorem Move.sample (move : Move slots slot stage new stage') {index : ℕ} {value : UInt32}
    (sampled : .sample index value ∈ new) : slot[index]? = some value := by
  cases move <;> simp [pulseEvents] at sampled
  case low read =>
    obtain ⟨rfl, rfl⟩ := sampled
    exact read

/-- The low phase of the channel begins in the move that reads its slot. -/
theorem Move.eq_of_sample (move : Move slots slot stage new stage') {index : ℕ} {value : UInt32}
    (sampled : .sample index value ∈ new) :
    new = [.sample index value, .level false, .oneshot false (value + 500)] := by
  cases move <;> simp [pulseEvents] at sampled
  case low =>
    obtain ⟨rfl, rfl⟩ := sampled
    rfl

end Moves

/-! ## Runs -/

/-- The system is at a stage of the frame that goes on, and every earlier frame
is complete. -/
structure Framed (slots : UInt32) (s : Sys) (stage : Stage) : Prop where
  described : Describes s stage
  fixed : s.ppm.slots = slots
  current : (cut isStarted s.ppm.log).current = some (stage.frame slots)
  closed : ∀ frame ∈ (cut isStarted s.ppm.log).closed,
    ∃ values : List UInt32, values.length = slots.toNat ∧ frame = completeFrame slots values
  clean : ∀ e ∈ s.ppm.log, e.Clean slots

variable {ppm : Ppm} {ret : Int32} {s t : Sys} {labels : List Label}

/-- The frame that goes on is the one its stage names. -/
theorem Framed.isCurrent {slots : UInt32} {stage : Stage} (framed : Framed slots s stage) :
    IsCurrent s.ppm.log (stage.frame slots) := by
  obtain ⟨pre, m, marked, free, hlog⟩ := exists_eq_of_current framed.current
  cases m <;> simp [isStarted] at marked
  exact ⟨pre, _, hlog, free⟩

theorem framed_boot (created : Created ppm) (slots : 1 ≤ ppm.slots.toNat)
    (accepted : ¬ ret < 0) : Framed ppm.slots (boot ret ppm) (.pulse []) := by
  have hlog : (boot ret ppm).ppm.log = [.started false] ++ pulseEvents := by
    simp [boot, ppmStart_of_nonneg accepted, created.log, created.timer, created.sem, pulseEvents]
  have hcut : cut isStarted (boot ret ppm).ppm.log = ⟨[], some pulseEvents⟩ := by
    rw [hlog]
    rfl
  refine ⟨describes_boot created slots accepted, ?_, ?_, ?_, ?_⟩
  · simp [boot, ppmStart_of_nonneg accepted]
  · simp [hcut, Stage.frame, channelsEvents]
  · simp [hcut]
  · simp [hlog, pulseEvents, Event.Clean]

/-- The step lemma: a write keeps the frame, a move extends or completes it. -/
theorem framed_step {slots : UInt32} {stage : Stage} {label : Label}
    (framed : Framed slots s stage) (accepted : label.Accepted)
    (enabled : step s label = some t) :
    ∃ new stage', Framed slots t stage' ∧ t.ppm.log = s.ppm.log ++ new ∧
      ((new = [] ∧ stage' = stage ∧ ∃ index value, label = .write index value) ∨
        (Move slots s.ppm.slot stage new stage' ∧ t.ppm.slot = s.ppm.slot)) := by
  obtain ⟨new, stage', described', hlog, hslots, change⟩ :=
    describes_step framed.described accepted enabled
  rw [framed.fixed] at hslots change
  refine ⟨new, stage', ?_, hlog, change⟩
  rcases change with ⟨rfl, rfl, -⟩ | ⟨move, -⟩
  · rw [List.append_nil] at hlog
    exact ⟨described', hslots, hlog ▸ framed.current, hlog ▸ framed.closed, hlog ▸ framed.clean⟩
  -- What is left is a move.
  have valid : stage.Valid slots := framed.fixed ▸ framed.described.valid
  have clean : ∀ e ∈ t.ppm.log, e.Clean slots := by
    intro e member
    rw [hlog] at member
    exact (List.mem_append.mp member).elim (framed.clean e) (move.clean valid e)
  rcases move.extends_or_completes valid with ⟨hframe, free⟩ | ⟨last, free, rfl, rfl, all, hframe⟩
  · have hcut : cut isStarted (s.ppm.log ++ new) = _ := cut_append_unmarked free
    refine ⟨described', hslots, ?_, ?_, clean⟩
    · rw [hlog, hcut, framed.current, hframe]
      rfl
    · rw [hlog, hcut]
      exact framed.closed
  · have hcut : cut isStarted t.ppm.log =
        ⟨(cut isStarted s.ppm.log).closed ++ [completeFrame slots stage.values],
          some pulseEvents⟩ := by
      rw [hlog, show s.ppm.log ++ (last ++ .started false :: pulseEvents) =
          s.ppm.log ++ last ++ [.started false] ++ pulseEvents by simp,
        cut_append_unmarked fun e h => isStarted_pulseEvents h, cut_append_mark rfl,
        cut_append_unmarked free, framed.current]
      simp [hframe]
    refine ⟨described', hslots, ?_, ?_, clean⟩
    · simp [hcut, Stage.frame, channelsEvents]
    · rw [hcut]
      intro frame member
      rcases List.mem_append.mp member with before | completed
      · exact framed.closed frame before
      · exact ⟨stage.values, all, List.mem_singleton.mp completed⟩

/-- The run lemma: every run whose calls of `timer_oneshot` succeed is framed. -/
theorem framed_of_run (created : Created ppm) (slots : 1 ≤ ppm.slots.toNat)
    (accepted : ¬ ret < 0) (run : Run step (boot ret ppm) labels s)
    (succeeds : ∀ label ∈ labels, label.Accepted) : ∃ stage, Framed ppm.slots s stage := by
  refine run.invariant (I := fun s => ∃ stage, Framed ppm.slots s stage) succeeds
    ⟨_, framed_boot created slots accepted⟩ ?_
  rintro t label u ok ⟨stage, framed⟩ enabled
  obtain ⟨-, stage', framed', -⟩ := framed_step framed ok enabled
  exact ⟨stage', framed'⟩

end TestSystem.PpmGenerator
