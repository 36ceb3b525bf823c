import TestSystem.PpmGenerator.Pending

/-!
# The waveform of a frame

Whatever is written into the slots while a frame runs, the frame emits its
channels in order: a pulse, then a low phase with the value the slot held when
the phase began, and a closing pulse after the last channel.
-/

namespace TestSystem.PpmGenerator

open TestSystem.Transition

/-! ## Reading a log -/

/-- The pin level and the duration of every one-shot. -/
def shots (events : List Event) : List (Bool × ℕ) :=
  events.filterMap fun
    | .oneshot high us => some (high, us.toNat)
    | _ => none

/-- The index and the value of every slot that is read. -/
def samples (events : List Event) : List (ℕ × UInt32) :=
  events.filterMap fun
    | .sample index value => some (index, value)
    | _ => none

/-- The pulse and the low phase of a channel. -/
def channelShots (value : UInt32) : List (Bool × ℕ) := [(true, 500), (false, 500 + value.toNat)]

/-- The one-shots of a frame up to and including the closing pulse. -/
def frameShots (values : List UInt32) : List (Bool × ℕ) :=
  values.flatMap channelShots ++ [(true, 500)]

/-- The slots of a frame, each read once and in order. -/
def frameSamples (values : List UInt32) : List (ℕ × UInt32) :=
  values.mapIdx fun index value => (index, value)

@[simp] theorem shots_append (first second : List Event) :
    shots (first ++ second) = shots first ++ shots second := List.filterMap_append

@[simp] theorem samples_append (first second : List Event) :
    samples (first ++ second) = samples first ++ samples second := List.filterMap_append

theorem mem_samples_iff {events : List Event} {index : ℕ} {value : UInt32} :
    (index, value) ∈ samples events ↔ .sample index value ∈ events := by
  simp only [samples, List.mem_filterMap]
  constructor
  · rintro ⟨e, member, he⟩
    cases e <;> simp at he
    obtain ⟨rfl, rfl⟩ := he
    exact member
  · intro member
    exact ⟨_, member, rfl⟩

section Values

variable {values : List UInt32}

theorem toNat_add_minTime {value : UInt32} (small : value.toNat ≤ 1000) :
    (value + 500).toNat = 500 + value.toNat := by
  rw [UInt32.toNat_add]
  simp
  omega

theorem shots_channelsEvents (small : ∀ value ∈ values, value.toNat ≤ 1000) :
    shots (channelsEvents values) = values.flatMap channelShots := by
  induction values using List.reverseRecOn with
  | nil => rfl
  | append_singleton values value ih =>
    have hlast : (value + 500).toNat = 500 + value.toNat :=
      toNat_add_minTime (small value (by simp))
    have hinit := ih fun v member => small v (by simp [member])
    rw [channelsEvents_append_singleton, shots_append, hinit]
    simp [shots, channelEvents, pulseEvents, channelShots, hlast]

theorem samples_channelsEvents : samples (channelsEvents values) = frameSamples values := by
  induction values using List.reverseRecOn with
  | nil => rfl
  | append_singleton values value ih =>
    rw [channelsEvents_append_singleton, samples_append, ih]
    simp [samples, channelEvents, pulseEvents, frameSamples, List.mapIdx_append]

@[simp] theorem samples_pulseEvents : samples pulseEvents = [] := rfl

@[simp] theorem shots_pulseEvents : shots pulseEvents = [(true, 500)] := rfl

end Values

/-! ## What the slots hold -/

/-- A write puts a value that meets the condition into its slot. -/
def Label.Writes (Q : ℕ → UInt32 → Prop) : Label → Prop
  | .write index value => Q index value
  | _ => True

/-- The condition holds of every slot and of every value that was read. -/
structure SlotsMeet (Q : ℕ → UInt32 → Prop) (s : Sys) : Prop where
  slot : ∀ index value, s.ppm.slot[index]? = some value → Q index value
  sampled : ∀ index value, .sample index value ∈ s.ppm.log → Q index value

variable {ppm : Ppm} {s t : Sys} {labels : List Label} {Q : ℕ → UInt32 → Prop}

/-- A step that reads a slot finds the value in the table and begins the low phase with
it. -/
theorem sample_of_step {slots : UInt32} {stage stage' : Stage} {label : Label} {new : List Event}
    (change : (new = [] ∧ stage' = stage ∧ ∃ index value, label = .write index value) ∨
      (Move slots s.ppm.slot stage new stage' ∧ t.ppm.slot = s.ppm.slot))
    {index : ℕ} {value : UInt32} (sampled : .sample index value ∈ new) :
    s.ppm.slot[index]? = some value ∧
      new = [.sample index value, .level false, .oneshot false (value + 500)] := by
  rcases change with ⟨rfl, -⟩ | ⟨move, -⟩
  · simp at sampled
  · exact ⟨move.sample sampled, move.eq_of_sample sampled⟩

theorem slotsMeet_step {slots : UInt32} {stage : Stage} {label : Label}
    (framed : Framed slots s stage) (meets : SlotsMeet Q s) (accepted : label.Accepted)
    (writes : label.Writes Q) (enabled : step s label = some t) : SlotsMeet Q t := by
  obtain ⟨new, stage', -, hlog, change⟩ := framed_step framed accepted enabled
  refine ⟨fun index value held => ?_, fun index value sampled => ?_⟩
  · rcases change with ⟨-, -, index', value', rfl⟩ | ⟨-, hslot⟩
    · have hslot : t.ppm.slot = s.ppm.slot.set index' value' := by
        have hstep := enabled
        rw [step, framed.described.fault] at hstep
        obtain rfl := Option.some.inj hstep
        rfl
      rw [hslot, List.getElem?_set] at held
      split at held
      · next same =>
        obtain ⟨-, rfl⟩ : index' < s.ppm.slot.length ∧ value' = value := by simpa using held
        exact same ▸ writes
      · exact meets.slot index value held
    · exact meets.slot index value (hslot ▸ held)
  · rw [hlog] at sampled
    rcases List.mem_append.mp sampled with before | now
    · exact meets.sampled index value before
    · exact meets.slot index value (sample_of_step change now).1

theorem slotsMeet_of_run (created : Created ppm) (slots : 1 ≤ ppm.slots.toNat)
    (run : GoodRun ppm labels s) (table : ∀ index value, ppm.slot[index]? = some value →
      Q index value) (writes : ∀ label ∈ labels, label.Writes Q) : SlotsMeet Q s := by
  obtain ⟨ret, accepted, run, succeeds⟩ := run
  have start : SlotsMeet Q (boot ret ppm) := by
    rw [boot, ppmStart_of_nonneg accepted]
    exact ⟨table, by simp [created.log]⟩
  -- A step needs the frame too, to know that it reads a slot only.
  suffices both : (∃ stage, Framed ppm.slots s stage) ∧ SlotsMeet Q s from both.2
  refine run.invariant (C := fun label => label.Accepted ∧ label.Writes Q)
    (I := fun s => (∃ stage, Framed ppm.slots s stage) ∧ SlotsMeet Q s)
    (fun label member => ⟨succeeds label member, writes label member⟩)
    ⟨⟨_, framed_boot created slots accepted⟩, start⟩ ?_
  rintro t label u ⟨ok, writes⟩ ⟨⟨stage, framed⟩, meets⟩ enabled
  obtain ⟨-, stage', framed', -⟩ := framed_step framed ok enabled
  exact ⟨⟨stage', framed'⟩, slotsMeet_step framed meets ok writes enabled⟩

/-! ## Frames -/

/-- The event drives the pin or reads a slot. -/
def Event.Drives : Event → Prop
  | .level _ | .sample _ _ => True
  | _ => False

/-- The frame emits `n` channels in order: the pulse, the read of the slot and, at once,
the low phase with the value that was read. Then comes the closing pulse. After it the pin
is driven low and left alone, and no slot is read. -/
def EmitsFrame (n : ℕ) (frame : List Event) : Prop :=
  ∃ values after, values.length = n ∧
    frame = channelsEvents values ++ pulseEvents ++ .level false :: after ∧
    shots (channelsEvents values ++ pulseEvents) = frameShots values ∧
    ∀ e ∈ after, ¬ e.Drives

/-- The frame has emitted a part of this, up to the closing pulse. -/
def EmitsPrefix (n : ℕ) (frame : List Event) : Prop :=
  ∃ values, values.length = n ∧ frame <+: channelsEvents values ++ pulseEvents ∧
    shots (channelsEvents values ++ pulseEvents) = frameShots values

theorem not_drives_pauseEvents (rest : UInt32) : ∀ e ∈ pauseEvents rest, ¬ e.Drives := by
  unfold pauseEvents
  split_ifs <;> simp [Event.Drives]

/-- A value of a frame is among its samples. -/
theorem mem_frameSamples {values : List UInt32} {value : UInt32} (member : value ∈ values) :
    ∃ index, (index, value) ∈ frameSamples values := by
  obtain ⟨index, bound, rfl⟩ := List.mem_iff_getElem.mp member
  exact ⟨index, List.mem_mapIdx.mpr ⟨index, bound, rfl⟩⟩

theorem shots_closed {values : List UInt32} (small : ∀ value ∈ values, value.toNat ≤ 1000) :
    shots (channelsEvents values ++ pulseEvents) = frameShots values := by
  simp [shots_channelsEvents small, frameShots]

/-- The closing pulse of a frame ends, whatever pause follows. -/
theorem emitsFrame_of_closing {n : ℕ} {values : List UInt32} {after : List Event}
    (all : values.length = n) (small : ∀ value ∈ values, value.toNat ≤ 1000)
    (rest : ∀ e ∈ after, ¬ e.Drives) :
    EmitsFrame n (channelsEvents values ++ pulseEvents ++ .level false :: after) :=
  ⟨values, after, all, rfl, shots_closed small, rest⟩

/-- Whatever channels follow, they begin with a pulse, as the closing pulse does. -/
theorem channelsEvents_append_isPrefix (values more : List UInt32) :
    channelsEvents values ++ pulseEvents <+: channelsEvents (values ++ more) ++ pulseEvents := by
  simp only [channelsEvents, List.mapIdx_append, List.flatten_append, List.append_assoc]
  apply (List.prefix_append_right_inj _).mpr
  cases more with
  | nil => simp
  | cons value more => simp [List.mapIdx_cons, channelEvents]

/-- Channels that are out begin every frame that continues with more of them. -/
theorem emitsPrefix_of_channels {n : ℕ} {values : List UInt32} (some_left : values.length ≤ n)
    (small : ∀ value ∈ values, value.toNat ≤ 1000) :
    EmitsPrefix n (channelsEvents values) ∧
      EmitsPrefix n (channelsEvents values ++ pulseEvents) := by
  -- The channels to come may be given any values.
  have length : (values ++ List.replicate (n - values.length) 0).length = n := by
    simp
    omega
  have pulse := channelsEvents_append_isPrefix values (List.replicate (n - values.length) 0)
  have emitted : shots (channelsEvents (values ++ List.replicate (n - values.length) 0) ++
      pulseEvents) = frameShots (values ++ List.replicate (n - values.length) 0) := by
    apply shots_closed
    intro value member
    rcases List.mem_append.mp member with old | new
    · exact small value old
    · simp [List.eq_of_mem_replicate new]
  exact ⟨⟨_, length, (List.prefix_append _ _).trans pulse, emitted⟩, ⟨_, length, pulse, emitted⟩⟩

/-- At every stage the frame has emitted a part of its channels or all of them. -/
theorem Stage.emits {slots : UInt32} {stage : Stage} (valid : stage.Valid slots)
    (small : ∀ value ∈ stage.values, value.toNat ≤ 1000) :
    EmitsPrefix slots.toNat (stage.frame slots) ∨ EmitsFrame slots.toNat (stage.frame slots) := by
  cases stage with
  | pulse values => exact .inl (emitsPrefix_of_channels (Nat.le_of_lt valid) small).2
  | low values => exact .inl (emitsPrefix_of_channels valid small).1
  | closing values => exact .inl (emitsPrefix_of_channels valid.le small).2
  | posted values => exact .inr (emitsFrame_of_closing valid.1 small (by simp [Event.Drives]))
  | resting values => exact .inr (emitsFrame_of_closing valid.1 small (by simp [Event.Drives]))
  | task values pc =>
    right
    simp only [Stage.frame, List.append_assoc]
    rw [← List.append_assoc]
    apply emitsFrame_of_closing valid.1 small
    split_ifs <;> simp [Event.Drives]

/-- The values a stage names are values that were read. -/
theorem Stage.mem_frame_of_mem_values {slots : UInt32} {stage : Stage} {value : UInt32}
    (member : value ∈ stage.values) :
    ∃ index, .sample index value ∈ stage.frame slots := by
  obtain ⟨index, sampled⟩ := mem_frameSamples member
  rw [← samples_channelsEvents, mem_samples_iff] at sampled
  refine ⟨index, ?_⟩
  cases stage <;> simp only [Stage.frame, List.mem_append] <;>
    simp only [Stage.values] at sampled <;> simp [sampled]

/-- The values a stage names meet what all values that were read meet. -/
theorem Framed.values_meet {slots : UInt32} {stage : Stage} {P : UInt32 → Prop}
    (framed : Framed slots s stage) (meets : SlotsMeet (fun _ value => P value) s) :
    ∀ value ∈ stage.values, P value := by
  intro value member
  obtain ⟨index, sampled⟩ : ∃ index, .sample index value ∈ stage.frame slots :=
    Stage.mem_frame_of_mem_values member
  exact meets.sampled index value (framed.isCurrent.mem_log sampled)

end TestSystem.PpmGenerator
