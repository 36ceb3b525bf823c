import TestSystem.PpmGenerator.Failures
import TestSystem.PpmGenerator.Period

/-!
# The budget of a frame

`ppm_start` puts the whole time of a frame into `sum`, and every one-shot takes its
share off. As long as the slots hold at most 1000 nothing is taken off twice and no
subtraction wraps: what is left and what was armed are together the budget. The
timer may refuse at any time; then an assertion has fired or the generator has
stopped, and no further one-shot counts.
-/

namespace TestSystem.PpmGenerator

open TestSystem.Transition

/-! ## What the budget is compared with -/

/-- The microseconds of all one-shots. -/
def armedTime (events : List Event) : ℕ := ((shots events).map Prod.snd).sum

/-- The current frame has read these slot values, in order. -/
def Emitted (log : List Event) (values : List UInt32) : Prop :=
  ∃ frame, IsCurrent log frame ∧ samples frame = frameSamples values

/-- What the interrupt, or the task, takes off `sum` next is not more than `sum`. -/
def NoBorrow (s : Sys) : Prop :=
  match s.ppm.state with
  | .start => ∀ value, s.ppm.slot[s.ppm.pos.toNat]? = some value →
      (value.toInt32 + ppmMinTime.toInt32).toUInt32.toNat ≤ s.ppm.sum.toNat
  | .data => ppmMinTime.toNat ≤ s.ppm.sum.toNat
  | .last => (s.ppm.sum / 1000 * 1000).toNat ≤ s.ppm.sum.toNat
  -- `ppm_start` sets the budget before it takes the first pulse off.
  | .pause => ppmMinTime.toNat ≤ (budget s.ppm.slots).toNat
  | .stoped => True

/-- The budget of a frame with `n` channels is kept in this state. What concerns the
running frame asks that the timer is armed: a call that fails has taken its share off
`sum` without arming anything, and the generator then stands still. -/
structure Budgeted (n : ℕ) (s : Sys) : Prop where
  start : s.Armed ∨ s.Given ∨ s.TaskBusy → (budget s.ppm.slots).toNat = 2000 * n + 500
  spent : s.Armed → s.ppm.state = .start ∨ s.ppm.state = .data ∨ s.ppm.state = .last →
    ∃ frame, IsCurrent s.ppm.log frame ∧ s.ppm.sum.toNat + armedTime frame = 2000 * n + 500
  noBorrow : s.Armed → NoBorrow s
  entry : s.Armed → s.ppm.state = .last →
    ∃ values, Emitted s.ppm.log values ∧ values.length = n ∧ s.ppm.sum.toNat = reserve values
  delayed : s.Given ∨ s.TaskBusy →
    ∃ values, Emitted s.ppm.log values ∧ values.length = n ∧
      1000 * s.ppm.waittime.toNat + s.ppm.sum.toNat = reserve values

/-! ## The numbers -/

section Values

variable {slots : UInt32} {values : List UInt32}

@[simp] theorem armedTime_append (first second : List Event) :
    armedTime (first ++ second) = armedTime first + armedTime second := by
  simp [armedTime]

theorem armedTime_channelsEvents (values : List UInt32) :
    armedTime (channelsEvents values) = elapsed (channelsEvents values) := by
  induction values using List.reverseRecOn with
  | nil => rfl
  | append_singleton values value ih =>
    rw [channelsEvents_append_singleton, armedTime_append, elapsed_append, ih]
    simp [armedTime, shots, channelEvents, pulseEvents, Event.elapsed]

/-- The budget does not wrap. -/
theorem toNat_budget (bound : 2000 * slots.toNat + 500 < 2 ^ 32) :
    (budget slots).toNat = 2000 * slots.toNat + 500 := by
  simp only [budget, ppmMaxTime, ppmMinTime, UInt32.toNat_add, UInt32.toNat_mul,
    UInt32.reduceToNat]
  omega

/-- What the channels have not used up. -/
theorem toNat_budget_sub_cost (bound : 2000 * slots.toNat + 500 < 2 ^ 32)
    (room : values.length ≤ slots.toNat) (small : ∀ value ∈ values, value.toNat ≤ 1000) :
    (budget slots - cost values).toNat + elapsed (channelsEvents values) =
      2000 * slots.toNat + 500 := by
  have hspent := elapsed_channelsEvents small
  have hcost := toNat_cost small
  have hbudget := toNat_budget bound
  rw [UInt32.toNat_sub, hcost, hbudget]
  omega

/-- What is left after one more pulse. -/
theorem toNat_left_add (bound : 2000 * slots.toNat + 500 < 2 ^ 32)
    (room : values.length ≤ slots.toNat) (small : ∀ value ∈ values, value.toNat ≤ 1000) :
    (left slots values).toNat + elapsed (channelsEvents values) = 2000 * slots.toNat := by
  have hspent := elapsed_channelsEvents small
  have hsub := toNat_budget_sub_cost bound room small
  rw [left, UInt32.toNat_sub]
  simp only [UInt32.reduceToNat]
  omega

theorem toNat_left_eq_reserve (bound : 2000 * slots.toNat + 500 < 2 ^ 32)
    (all : values.length = slots.toNat) (small : ∀ value ∈ values, value.toNat ≤ 1000) :
    (left slots values).toNat = reserve values := by
  have hspent := elapsed_channelsEvents small
  have hleft := toNat_left_add bound all.le small
  rw [all] at hspent
  omega

/-- The task's delay and the rest make up the whole. -/
theorem toNat_whole_add_rest (n : UInt32) :
    1000 * (n / 1000).toNat + (n - n / 1000 * 1000).toNat = n.toNat := by
  have := UInt32.toNat_lt n
  simp [UInt32.toNat_sub]
  omega

end Values

/-! ## Stages -/

variable {ppm : Ppm} {s t : Sys} {stage : Stage} {label : Label} {labels : List Label} {ret : Int32}

/-- At every stage the frame has read the values that the stage names. -/
theorem samples_frame (slots : UInt32) (stage : Stage) :
    samples (stage.frame slots) = frameSamples stage.values := by
  have quiet (values : List UInt32) (rest : List Event) (silent : samples rest = []) :
      samples (channelsEvents values ++ pulseEvents ++ rest) = frameSamples values := by
    simp only [samples_append, samples_channelsEvents, samples_pulseEvents, silent,
      List.append_nil]
  cases stage with
  | low values => exact samples_channelsEvents
  | pulse values | closing values =>
    have whole := quiet values [] rfl
    rw [List.append_nil] at whole
    exact whole
  | posted values | resting values => exact quiet values _ rfl
  | task values pc =>
    simp only [Stage.frame, List.append_assoc]
    rw [← List.append_assoc]
    apply quiet
    split_ifs <;> rfl

theorem armedTime_pulse (values : List UInt32) :
    armedTime (channelsEvents values ++ pulseEvents) = elapsed (channelsEvents values) + 500 := by
  rw [armedTime_append, armedTime_channelsEvents]
  rfl

section Framed

variable {slots : UInt32} (framed : Framed slots s stage)
  (bound : 2000 * slots.toNat + 500 < 2 ^ 32) (small : ∀ value ∈ stage.values, value.toNat ≤ 1000)

include framed bound small

/-- Up to the pause, what is left and what was armed are the budget. -/
theorem spent_of_framed (armed : s.Armed)
    (state : s.ppm.state = .start ∨ s.ppm.state = .data ∨ s.ppm.state = .last) :
    s.ppm.sum.toNat + armedTime (stage.frame slots) = 2000 * slots.toNat + 500 := by
  have described := framed.described
  have harmed : stage.armed := described.armed ▸ armed
  have hsum : s.ppm.sum = stage.sum slots := framed.fixed ▸ described.sum
  have hvalid : stage.Valid slots := framed.fixed ▸ described.valid
  rw [described.state] at state
  rw [hsum]
  cases stage with
  | pulse values =>
    have hleft := toNat_left_add bound (Nat.le_of_lt hvalid) small
    have harm := armedTime_pulse values
    simp only [Stage.sum, Stage.frame]
    omega
  | low values =>
    have hleft := toNat_budget_sub_cost bound hvalid small
    have harm := armedTime_channelsEvents values
    simp only [Stage.sum, Stage.frame]
    omega
  | closing values =>
    have hleft := toNat_left_add bound hvalid.le small
    have harm := armedTime_pulse values
    simp only [Stage.sum, Stage.frame]
    omega
  | resting values => simp at state
  | posted values => simp at harmed
  | task values pc => simp at harmed

/-- What the interrupt takes off next is there. -/
theorem noBorrow_of_framed (table : ∀ value ∈ s.ppm.slot, value.toNat ≤ 1000) (armed : s.Armed) :
    NoBorrow s := by
  have described := framed.described
  have harmed : stage.armed := described.armed ▸ armed
  have hsum : s.ppm.sum = stage.sum slots := framed.fixed ▸ described.sum
  have hvalid : stage.Valid slots := framed.fixed ▸ described.valid
  unfold NoBorrow
  rw [described.state]
  cases stage with
  | pulse values =>
    intro value read
    -- Of the 2000 of this channel the pulse took 500, and the slot holds at most 1000.
    have hvalue := table value (List.mem_of_getElem? read)
    have hlow : (value.toInt32 + ppmMinTime.toInt32).toUInt32.toNat = 500 + value.toNat :=
      toNat_add_minTime hvalue
    have hspent := elapsed_channelsEvents small
    have hleft := toNat_left_add bound (Nat.le_of_lt hvalid) small
    have hlt : values.length < slots.toNat := hvalid
    simp only [Stage.values] at hspent
    rw [hlow, hsum]
    simp only [Stage.sum] at hleft ⊢
    omega
  | low values =>
    have hspent := elapsed_channelsEvents small
    have hleft := toNat_budget_sub_cost bound hvalid small
    have hle : values.length ≤ slots.toNat := hvalid
    have hmin : ppmMinTime.toNat = 500 := rfl
    simp only [Stage.state, Stage.values] at hspent ⊢
    rw [hsum, hmin]
    simp only [Stage.sum] at hleft ⊢
    omega
  | closing values =>
    -- Whole milliseconds are never more than all there is.
    have := UInt32.toNat_lt s.ppm.sum
    simp
    omega
  | resting values =>
    have hbudget := toNat_budget bound
    have hmin : ppmMinTime.toNat = 500 := rfl
    simp only [Stage.state]
    rw [framed.fixed, hmin, hbudget]
    omega
  | posted values => simp at harmed
  | task values pc => simp at harmed

/-- When the pause is entered, what is left is the reserve of the values. -/
theorem entry_of_framed (armed : s.Armed) (state : s.ppm.state = .last) :
    stage.values.length = slots.toNat ∧ s.ppm.sum.toNat = reserve stage.values := by
  have described := framed.described
  have harmed : stage.armed := described.armed ▸ armed
  have hsum : s.ppm.sum = stage.sum slots := framed.fixed ▸ described.sum
  have hvalid : stage.Valid slots := framed.fixed ▸ described.valid
  rw [described.state] at state
  cases stage with
  | closing values => exact ⟨hvalid, hsum ▸ toNat_left_eq_reserve bound hvalid small⟩
  | pulse | low | resting => simp at state
  | posted | task => simp at harmed

/-- While the task delays, its delay and the rest are the reserve of the values. -/
theorem delayed_of_framed (pending : s.Given ∨ s.TaskBusy) :
    stage.values.length = slots.toNat ∧
      1000 * s.ppm.waittime.toNat + s.ppm.sum.toNat = reserve stage.values := by
  have described := framed.described
  have hsum : s.ppm.sum = stage.sum slots := framed.fixed ▸ described.sum
  have hvalid : stage.Valid slots := framed.fixed ▸ described.valid
  simp only [Sys.Given, Sys.TaskBusy, described.given, described.pc] at pending
  have hwait (idle : stage.given ∨ ¬ stage.armed) :
      s.ppm.waittime = left slots stage.values / 1000 := framed.fixed ▸ described.waittime idle
  cases stage with
  | pulse | low | closing | resting => simp at pending
  | posted values =>
    refine ⟨hvalid.1, ?_⟩
    rw [hwait (by simp), hsum]
    exact (toNat_whole_add_rest _).trans (toNat_left_eq_reserve bound hvalid.1 small)
  | task values pc =>
    refine ⟨hvalid.1, ?_⟩
    rw [hwait (by simp), hsum]
    exact (toNat_whole_add_rest _).trans (toNat_left_eq_reserve bound hvalid.1 small)

theorem budgeted_of_framed (table : ∀ value ∈ s.ppm.slot, value.toNat ≤ 1000) :
    Budgeted slots.toNat s := by
  have current := framed.isCurrent
  have emitted : Emitted s.ppm.log stage.values := ⟨_, current, samples_frame slots stage⟩
  refine ⟨?_, ?_, noBorrow_of_framed framed bound small table, ?_, ?_⟩
  · exact fun _ => by rw [framed.fixed, toNat_budget bound]
  · exact fun armed state => ⟨_, current, spent_of_framed framed bound small armed state⟩
  · exact fun armed state => ⟨_, emitted, entry_of_framed framed bound small armed state⟩
  · exact fun pending => ⟨_, emitted, delayed_of_framed framed bound small pending⟩

end Framed

/-! ## Runs -/

theorem Stalled.budgeted (stalled : Stalled s) (n : ℕ) : Budgeted n s := by
  have notArmed : ¬ s.Armed := by simp [Sys.Armed, stalled.armed]
  have notGiven : ¬ s.Given := by simp [Sys.Given, stalled.given]
  have notBusy : ¬ s.TaskBusy := not_not_intro stalled.pc
  refine ⟨?_, ?_, ?_, ?_, ?_⟩
  · exact fun pending => (not_or.mpr ⟨notArmed, not_or.mpr ⟨notGiven, notBusy⟩⟩ pending).elim
  · exact fun armed => absurd armed notArmed
  · exact fun armed => absurd armed notArmed
  · exact fun armed => absurd armed notArmed
  · exact fun pending => (not_or.mpr ⟨notGiven, notBusy⟩ pending).elim

/-- A stalled generator stays so: only slots can still be written. -/
theorem Stalled.step (stalled : Stalled s) (enabled : step s label = some t) : Stalled t := by
  have running := stalled.fault
  cases label with
  | timer ret woken => simp [PpmGenerator.step, running, stalled.armed] at enabled
  | task ret =>
    rw [step_task ret running, ppmTask_take_blocked stalled.pc stalled.given] at enabled
    cases enabled
  | write index value =>
    simp only [PpmGenerator.step, running, Option.isSome_none, Bool.false_eq_true, if_false,
      Option.some.injEq] at enabled
    exact enabled ▸ ⟨rfl, stalled.armed, stalled.given, stalled.pc⟩

/-- Every slot and every value that was read is at most 1000. -/
abbrev Small (s : Sys) : Prop := SlotsMeet (fun _ value => value.toNat ≤ 1000) s

/-- What every run keeps, whatever the timer answers. -/
def Kept (slots : UInt32) (s : Sys) : Prop :=
  s.fault.isSome ∨ Stalled s ∨ ∃ stage, Framed slots s stage ∧ Small s

theorem Kept.step {slots : UInt32} (kept : Kept slots s)
    (writes : label.Writes fun _ value => value.toNat ≤ 1000) (enabled : step s label = some t) :
    Kept slots t := by
  rcases kept with fault | stalled | ⟨stage, framed, small⟩
  · simp [PpmGenerator.step, fault] at enabled
  · exact .inr (.inl (stalled.step enabled))
  · rcases step_cases framed.described enabled with
      ⟨succeeds, -⟩ | ⟨-, ret, -, fault⟩ | ⟨-, -, stalled⟩
    · obtain ⟨label', accepted, same, labels⟩ := exists_accepted_of_not_fails succeeds
      have enabled' := same.trans enabled
      -- The label that stands for the step writes the same value.
      have writes' : label'.Writes fun _ value => value.toNat ≤ 1000 := by
        rcases labels with rfl | rfl
        · exact writes
        · cases label <;> exact writes
      obtain ⟨-, stage', framed', -⟩ := framed_step framed accepted enabled'
      exact .inr (.inr ⟨stage', framed', slotsMeet_step framed small accepted writes' enabled'⟩)
    · exact .inl (by rw [fault]; rfl)
    · exact .inr (.inl stalled)

theorem kept_boot (created : Created ppm) (slots : 1 ≤ ppm.slots.toNat) (accepted : ¬ ret < 0)
    (table : ∀ value ∈ ppm.slot, value.toNat ≤ 1000) : Kept ppm.slots (boot ret ppm) := by
  refine .inr (.inr ⟨_, framed_boot created slots accepted, ?_⟩)
  rw [boot, ppmStart_of_nonneg accepted]
  exact ⟨fun index value held => table value (List.mem_of_getElem? held), by simp [created.log]⟩

/-- **The budget of a frame.** In every run from `ppm_start` on, in which slots are
rewritten with values of at most 1000 and any call of `timer_oneshot` may fail, every
state in which no assertion has fired keeps the budget: up to the pause what is left
and what was armed are 2000 for each channel and 500, nothing wraps, and the pause
gets the reserve of the values that were emitted. After a failure that no assertion
reports nothing is armed or pending any more, and there is no frame to speak of. -/
theorem frame_budget (created : Created ppm) (slots : 1 ≤ ppm.slots.toNat)
    (bound : 2000 * ppm.slots.toNat + 500 < 2 ^ 32) (accepted : ¬ ret < 0)
    (table : ∀ value ∈ ppm.slot, value.toNat ≤ 1000)
    (writes : ∀ label ∈ labels, label.Writes fun _ value => value.toNat ≤ 1000)
    (run : Run step (boot ret ppm) labels s) (running : s.fault = none) :
    Budgeted ppm.slots.toNat s := by
  have kept : Kept ppm.slots s :=
    run.invariant writes (kept_boot created slots accepted table) fun writes kept enabled =>
      kept.step writes enabled
  rcases kept with fault | stalled | ⟨stage, framed, small⟩
  · simp [running] at fault
  · exact stalled.budgeted _
  · have stored : ∀ value ∈ s.ppm.slot, value.toNat ≤ 1000 := by
      intro value member
      obtain ⟨index, read⟩ := List.mem_iff_getElem?.mp member
      exact small.slot index value read
    exact budgeted_of_framed framed bound (framed.values_meet small) stored

/-- The closing pulse of one channel whose slot was rewritten during its first pulse. -/
theorem frame_budget_oneChannel :
    ∃ s, Run step (boot 0 (oneChannel 0)) [.write 0 700, .timer 0 0, .timer 0 0] s ∧
      s.ppm.state = .last ∧ Budgeted 1 s := by
  obtain ⟨s, run, checked⟩ := exists_run_of_check step (boot 0 (oneChannel 0))
    [.write 0 700, .timer 0 0, .timer 0 0] (fun s => s.ppm.state = .last ∧ s.fault = none)
    (by decide)
  obtain ⟨state, running⟩ := of_decide_eq_true checked
  exact ⟨s, run, state, frame_budget (created_oneChannel 0) (by decide) (by decide) (by decide)
    (by simp [oneChannel]) (by simp [Label.Writes]) run running⟩

end TestSystem.PpmGenerator
