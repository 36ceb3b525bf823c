import TestSystem.PpmGenerator.Frames

/-!
# One pending activity

The control of the generator passes between the interrupt of the timer and the
task. In every state of every interleaving it is in exactly one place: the
timer is armed, or the semaphore is given, or the task is on its way to the
next frame. So nothing is started twice, no wake-up is lost, no assertion
fails, and the current frame can always be completed.
-/

namespace TestSystem.PpmGenerator

open TestSystem.Transition

/-- One of the three holds, and neither of the others. -/
def ExactlyOne (p q r : Prop) : Prop :=
  (p ∧ ¬ q ∧ ¬ r) ∨ (¬ p ∧ q ∧ ¬ r) ∨ (¬ p ∧ ¬ q ∧ r)

/-- A run from one call of `ppm_start` on, in which every `timer_oneshot` succeeds. -/
def GoodRun (ppm : Ppm) (labels : List Label) (s : Sys) : Prop :=
  ∃ ret : Int32, ¬ ret < 0 ∧ Run step (boot ret ppm) labels s ∧ ∀ label ∈ labels, label.Accepted

variable {ppm : Ppm} {s t : Sys} {labels : List Label} {stage : Stage}

theorem GoodRun.framed (run : GoodRun ppm labels s) (created : Created ppm)
    (slots : 1 ≤ ppm.slots.toNat) : ∃ stage, Framed ppm.slots s stage := by
  obtain ⟨ret, accepted, run, succeeds⟩ := run
  exact framed_of_run created slots accepted run succeeds

theorem exactlyOne_of_describes (described : Describes s stage) :
    ExactlyOne s.Armed s.Given s.TaskBusy := by
  have hvalid := described.valid
  simp only [ExactlyOne, Sys.Armed, Sys.Given, Sys.TaskBusy, described.armed, described.given,
    described.pc]
  cases stage with
  | pulse | low | closing | resting | posted => simp
  | task values pc =>
    obtain ⟨-, -, rfl | rfl | rfl | rfl | rfl | rfl⟩ := hvalid <;> simp

/-- Some activity is possible, whatever the timer driver and the kernel answer. -/
theorem enabled_of_describes (described : Describes s stage) :
    (∀ ret woken, ¬ ret < 0 → ∃ t, step s (.timer ret woken) = some t) ∨
      (∀ ret, ¬ ret < 0 → ∃ t, step s (.task ret) = some t) := by
  by_cases armed : stage.armed
  · left
    intro ret woken accepted
    obtain ⟨t, -, -, enabled, -⟩ : Moves s (.timer ret woken) stage :=
      moves_timer described armed accepted
    exact ⟨t, enabled⟩
  · right
    intro ret accepted
    obtain ⟨t, -, -, enabled, -⟩ := moves_task_of_not_armed described armed accepted
    exact ⟨t, enabled⟩

/-- A generator with one channel, as `ppm_init` hands it over. -/
def oneChannel (value : UInt32) : Ppm where
  slots := 1
  slot := [value]
  timer := none
  pin := false
  sem := false
  waittime := 0
  pos := 0
  state := .stoped
  sum := 0
  log := []

theorem created_oneChannel (value : UInt32) : Created (oneChannel value) :=
  ⟨rfl, rfl, rfl, rfl, rfl⟩

/-- Labels that can be executed give a run. -/
theorem exists_goodRun (ppm : Ppm) (labels : List Label)
    (executes : (labels.foldlM step (boot 0 ppm)).isSome)
    (succeeds : ∀ label ∈ labels, label.Accepted) : ∃ s, GoodRun ppm labels s := by
  obtain ⟨s, reached⟩ := Option.isSome_iff_exists.mp executes
  exact ⟨s, 0, by decide, run_iff_foldlM.mpr reached, succeeds⟩

/-! ## Every frame can be completed -/

/-- How many statements of the task are left before the frame restarts. -/
def Pc.rank : Pc → ℕ
  | .take => 7
  | .check => 6
  | .delay => 5
  | .sleep _ => 4
  | .test => 3
  | .setState => 2
  | .restart => 1
  | .endPause => 1

/-- How many moves a frame still needs at most. -/
def Stage.rank (slots : UInt32) : Stage → ℕ
  | .pulse values => 2 * (slots.toNat - values.length) + 10
  | .low values => 2 * (slots.toNat - values.length) + 11
  | .closing _ => 9
  | .posted _ => 8
  | .task _ pc => pc.rank
  | .resting _ => 1

/-- A move lowers the rank unless it starts the next frame. -/
theorem Move.rank_lt {slots : UInt32} {slot : List UInt32} {stage' : Stage} {new : List Event}
    (move : Move slots slot stage new stage') (valid : stage.Valid slots)
    (valid' : stage'.Valid slots) :
    stage'.rank slots < stage.rank slots ∨ ∃ last, new = last ++ .started false :: pulseEvents := by
  cases move with
  | direct => exact .inr ⟨[.level false], rfl⟩
  | restart => exact .inr ⟨[], rfl⟩
  | resume => exact .inr ⟨[], rfl⟩
  | low read =>
    left
    simp only [Stage.Valid, List.length_append, List.length_singleton] at valid valid'
    simp only [Stage.rank, List.length_append, List.length_singleton]
    omega
  | pulse =>
    left
    simp only [Stage.Valid] at valid'
    simp only [Stage.rank]
    omega
  | closing | post | rest | take | check | delay | sleep | test | setState =>
    left
    simp only [Stage.rank, Pc.rank]
    omega

/-- The label writes no slot. -/
def Label.Quiet : Label → Prop
  | .write _ _ => False
  | _ => True

/-- Every state can be continued, without any write, until the current frame is
complete. -/
theorem exists_run_completing {slots : UInt32} (framed : Framed slots s stage) :
    ∃ more u, Run step s more u ∧ (∀ label ∈ more, label.Accepted ∧ label.Quiet) ∧
      (cut isStarted s.ppm.log).closed.length < (cut isStarted u.ppm.log).closed.length := by
  refine exists_run_of_rank (n := stage.rank slots)
    (I := fun n u => ∃ stage, Framed slots u stage ∧ stage.rank slots = n ∧
      (cut isStarted s.ppm.log).closed.length ≤ (cut isStarted u.ppm.log).closed.length)
    ?_ ⟨stage, framed, rfl, le_rfl⟩
  rintro _ u ⟨stage, framed, rfl, kept⟩
  -- The pending activity makes a move, which lowers the rank or completes the frame.
  obtain ⟨label, quiet, t, enabled⟩ :
      ∃ label : Label, (label.Accepted ∧ label.Quiet) ∧ ∃ t, step u label = some t := by
    rcases enabled_of_describes framed.described with timer | task
    · exact ⟨.timer 0 0, ⟨by decide, trivial⟩, timer 0 0 (by decide)⟩
    · exact ⟨.task 0, ⟨by decide, trivial⟩, task 0 (by decide)⟩
  obtain ⟨new, stage', framed', hlog, ⟨-, -, _, _, rfl⟩ | ⟨move, -⟩⟩ :=
    framed_step framed quiet.1 enabled
  · exact absurd quiet.2 not_false
  have valid := framed.fixed ▸ framed.described.valid
  have valid' := framed'.fixed ▸ framed'.described.valid
  refine ⟨label, t, quiet, enabled, ?_⟩
  rcases move.rank_lt valid valid' with lower | ⟨last, rfl⟩
  · have hmono : (cut isStarted u.ppm.log).closed.length ≤
        (cut isStarted t.ppm.log).closed.length := hlog ▸ closed_prefix_append.length_le
    exact .inr ⟨_, lower, stage', framed', rfl, kept.trans hmono⟩
  · have begun : (cut isStarted u.ppm.log).current.isSome := by simp [framed.current]
    exact .inl (kept.trans_lt (hlog ▸ closed_length_lt rfl begun))

/-- **The generator has exactly one pending activity.** In every reachable state
the timer is armed, or the semaphore given, or the task on its way, and never
two of these. No frame was started while another activity was pending, no
semaphore was given twice, no assertion has failed, some activity is possible
next, and the activities lead on to the next start of a frame. -/
theorem exactly_one_pending (created : Created ppm) (slots : 1 ≤ ppm.slots.toNat)
    (run : GoodRun ppm labels s) :
    ExactlyOne s.Armed s.Given s.TaskBusy ∧
      (∀ busy, .started busy ∈ s.ppm.log → busy = false) ∧
      (∀ full, .give full ∈ s.ppm.log → full = false) ∧
      s.fault = none ∧
      ((∀ ret woken, ¬ ret < 0 → ∃ t, step s (.timer ret woken) = some t) ∨
        (∀ ret, ¬ ret < 0 → ∃ t, step s (.task ret) = some t)) ∧
      ∃ more u, Run step s more u ∧ (∀ label ∈ more, label.Accepted ∧ label.Quiet) ∧
        (cut isStarted s.ppm.log).closed.length < (cut isStarted u.ppm.log).closed.length := by
  obtain ⟨stage, framed⟩ := run.framed created slots
  refine ⟨exactlyOne_of_describes framed.described, ?_, ?_, framed.described.fault,
    enabled_of_describes framed.described, exists_run_completing framed⟩
  · intro busy member
    simpa [Event.Clean] using framed.clean _ member
  · intro full member
    simpa [Event.Clean] using framed.clean _ member

/-- The first frame of one channel, up to the take of the semaphore. -/
theorem exactly_one_pending_oneChannel :
    ∃ s, GoodRun (oneChannel 0) [.timer 0 0, .timer 0 0, .timer 0 1, .task 0] s ∧
      ExactlyOne s.Armed s.Given s.TaskBusy := by
  obtain ⟨s, run⟩ := exists_goodRun (oneChannel 0)
    [.timer 0 0, .timer 0 0, .timer 0 1, .task 0] (by decide) (by decide)
  exact ⟨s, run, (exactly_one_pending (created_oneChannel 0) (by decide) run).1⟩

end TestSystem.PpmGenerator
