import TestSystem.PpmGenerator.Waveform

/-!
# The period of a frame and its gap

The budget of a frame is spent on its channels; what is left is the pause. The
pause hands whole milliseconds to the task and drops the rest of the budget, so
the period is the budget only when nothing is dropped, and the gap after the
closing pulse is longer than every channel only when enough is left.
-/

namespace TestSystem.PpmGenerator

open TestSystem.Transition

/-! ## Time -/

/-- The microseconds an event lasts; a tick is a millisecond. -/
def Event.elapsed : Event → ℕ
  | .oneshot _ us => us.toNat
  | .delayed ticks => 1000 * ticks.toNat
  | _ => 0

/-- The time that passes during a list of events. -/
def elapsed (events : List Event) : ℕ := (events.map Event.elapsed).sum

@[simp] theorem elapsed_append (first second : List Event) :
    elapsed (first ++ second) = elapsed first + elapsed second := by
  simp [elapsed]

@[simp] theorem elapsed_cons (e : Event) (events : List Event) :
    elapsed (e :: events) = e.elapsed + elapsed events := by
  simp [elapsed]

@[simp] theorem elapsed_nil : elapsed [] = 0 := rfl

/-- What a table of slot values leaves of the budget. -/
def reserve (values : List UInt32) : ℕ := (values.map fun value => 1000 - value.toNat).sum

/-- How long the pause lasts when this much is left: whole milliseconds, or less
than one. -/
def pauseTime (rest : ℕ) : ℕ := if 1000 ≤ rest then 1000 * (rest / 1000) else rest

theorem elapsed_pauseEvents (rest : UInt32) :
    elapsed (pauseEvents rest) = pauseTime rest.toNat := by
  have hwhole : (1000 : UInt32) ≤ rest ↔ 1000 ≤ rest.toNat := UInt32.le_iff_toNat_le
  unfold pauseEvents pauseTime
  split_ifs with h1 h2 h3 h4 <;> simp_all [Event.elapsed]

section Values

variable {slots : UInt32} {values : List UInt32}

theorem elapsed_channelsEvents (small : ∀ value ∈ values, value.toNat ≤ 1000) :
    elapsed (channelsEvents values) + reserve values = 2000 * values.length := by
  induction values using List.reverseRecOn with
  | nil => rfl
  | append_singleton values value ih =>
    have hlast : (value + 500).toNat = 500 + value.toNat :=
      toNat_add_minTime (small value (by simp))
    have hsmall := small value (by simp)
    have hinit := ih fun v member => small v (by simp [member])
    rw [channelsEvents_append_singleton, elapsed_append]
    simp [reserve, channelEvents, pulseEvents, Event.elapsed, hlast] at hinit ⊢
    omega

theorem toNat_cost (small : ∀ value ∈ values, value.toNat ≤ 1000) :
    (cost values).toNat = elapsed (channelsEvents values) % 2 ^ 32 := by
  induction values using List.reverseRecOn with
  | nil => rfl
  | append_singleton values value ih =>
    have hlast : (value + 500).toNat = 500 + value.toNat :=
      toNat_add_minTime (small value (by simp))
    have hinit := ih fun v member => small v (by simp [member])
    rw [cost_append_singleton, channelsEvents_append_singleton, elapsed_append, UInt32.toNat_add,
      UInt32.toNat_add, hinit]
    simp [channelEvents, pulseEvents, Event.elapsed, hlast]
    omega

/-- What is left when the pause is entered is the reserve, in the arithmetic of
the source. -/
theorem toNat_left (all : values.length = slots.toNat)
    (small : ∀ value ∈ values, value.toNat ≤ 1000) :
    (left slots values).toNat = reserve values % 2 ^ 32 := by
  have hspent := elapsed_channelsEvents small
  have hcost := toNat_cost small
  rw [all] at hspent
  simp only [left, budget, ppmMaxTime, ppmMinTime, UInt32.toNat_sub, UInt32.toNat_add,
    UInt32.toNat_mul, UInt32.reduceToNat, hcost]
  omega

end Values

/-! ## Frames of a fixed table -/

variable {ppm : Ppm} {s : Sys} {labels : List Label} {frame : List Event}

/-- With no write every complete frame carries the table. -/
theorem frame_eq_completeFrame (created : Created ppm) (slots : 1 ≤ ppm.slots.toNat)
    (run : GoodRun ppm labels s) (quiet : ∀ label ∈ labels, label.Quiet)
    (isFrame : IsFrame s.ppm.log frame) : frame = completeFrame ppm.slots ppm.slot := by
  obtain ⟨stage, framed⟩ := run.framed created slots
  have meets : SlotsMeet (fun index value => ppm.slot[index]? = some value) s := by
    apply slotsMeet_of_run created slots run fun index value held => held
    intro label member
    have hquiet := quiet label member
    cases label <;> simp_all [Label.Quiet, Label.Writes]
  obtain ⟨values, all, rfl⟩ := framed.closed frame isFrame.mem_closed
  have htable : values = ppm.slot := by
    apply List.ext_getElem (all.trans created.slot.symm)
    intro index bound bound'
    have sampled : (index, values[index]) ∈ frameSamples values :=
      List.mem_mapIdx.mpr ⟨index, bound, rfl⟩
    rw [← samples_channelsEvents, mem_samples_iff] at sampled
    have held := meets.sampled index values[index]
      (isFrame.mem_log (by simp [completeFrame, sampled]))
    rw [List.getElem?_eq_getElem bound'] at held
    exact (Option.some.inj held).symm
  rw [htable]

/-- Every generator completes a frame in some run. -/
theorem exists_frame (created : Created ppm) (slots : 1 ≤ ppm.slots.toNat) :
    ∃ labels s frame, GoodRun ppm labels s ∧ (∀ label ∈ labels, label.Quiet) ∧
      IsFrame s.ppm.log frame := by
  have accepted : ¬ (0 : Int32) < 0 := by decide
  obtain ⟨labels, s, run, conditions, completes⟩ :=
    exists_run_completing (framed_boot created slots accepted)
  have hpos : 0 < (cut isStarted s.ppm.log).closed.length := Nat.zero_lt_of_lt completes
  obtain ⟨frame, member⟩ := List.exists_mem_of_length_pos hpos
  exact ⟨labels, s, frame, ⟨0, accepted, run, fun label h => (conditions label h).1⟩,
    fun label h => (conditions label h).2, isFrame_of_mem_closed member⟩

/-- A property of complete frames holds throughout all runs of a fixed table
exactly when it holds of the frame that carries the table. -/
theorem forall_frame_iff {P : List Event → Prop} (created : Created ppm)
    (slots : 1 ≤ ppm.slots.toNat) :
    (∀ labels s frame, GoodRun ppm labels s → (∀ label ∈ labels, label.Quiet) →
      IsFrame s.ppm.log frame → P frame) ↔ P (completeFrame ppm.slots ppm.slot) := by
  constructor
  · intro holds
    obtain ⟨labels, s, frame, run, quiet, isFrame⟩ := exists_frame created slots
    rw [← frame_eq_completeFrame created slots run quiet isFrame]
    exact holds labels s frame run quiet isFrame
  · intro holds labels s frame run quiet isFrame
    rw [frame_eq_completeFrame created slots run quiet isFrame]
    exact holds

/-! ## The period -/

/-- Between two executions of `ppm_start` that follow one another always passes
the budget that `ppm_start` puts into `sum`. -/
def ConstantPeriod (ppm : Ppm) : Prop :=
  ∀ labels s frame, GoodRun ppm labels s → (∀ label ∈ labels, label.Quiet) →
    IsFrame s.ppm.log frame →
      elapsed frame =
        (ppmMaxTime.toNat + ppmMinTime.toNat) * ppm.slots.toNat + ppmMinTime.toNat

theorem elapsed_completeFrame {slots : UInt32} {values : List UInt32}
    (all : values.length = slots.toNat) (small : ∀ value ∈ values, value.toNat ≤ 1000) :
    elapsed (completeFrame slots values) + reserve values =
      2000 * slots.toNat + 500 + pauseTime (reserve values % 2 ^ 32) := by
  have hspent := elapsed_channelsEvents small
  have hpause := elapsed_pauseEvents (left slots values)
  rw [toNat_left all small] at hpause
  simp only [completeFrame, elapsed_append, elapsed_cons, hpause]
  simp [pulseEvents, Event.elapsed]
  omega

theorem pauseTime_eq_iff (rest : ℕ) : pauseTime rest = rest ↔ rest < 1000 ∨ 1000 ∣ rest := by
  unfold pauseTime
  split_ifs <;> omega

theorem reserve_le (values : List UInt32) : reserve values ≤ 1000 * values.length := by
  induction values with
  | nil => rfl
  | cons value values ih =>
    simp only [reserve, List.map_cons, List.sum_cons, List.length_cons] at ih ⊢
    omega

/-- **When the period is constant.** The time between two frame starts is the
budget exactly when the budget leaves less than a millisecond or whole
milliseconds for the pause. -/
theorem constantPeriod_iff (created : Created ppm) (slots : 1 ≤ ppm.slots.toNat)
    (bound : 2000 * ppm.slots.toNat + 500 < 2 ^ 32)
    (small : ∀ value ∈ ppm.slot, value.toNat ≤ 1000) :
    ConstantPeriod ppm ↔ reserve ppm.slot < 1000 ∨ 1000 ∣ reserve ppm.slot := by
  have helapsed := elapsed_completeFrame created.slot small
  have hreserve := reserve_le ppm.slot
  -- Within the bound the budget does not wrap.
  have hfits : reserve ppm.slot % 2 ^ 32 = reserve ppm.slot :=
    Nat.mod_eq_of_lt (by rw [created.slot] at hreserve; omega)
  rw [hfits] at helapsed
  -- All frames are alike, so one equation of numbers is left.
  rw [ConstantPeriod, forall_frame_iff created slots, ← pauseTime_eq_iff]
  simp only [ppmMaxTime, ppmMinTime, UInt32.reduceToNat]
  omega

/-- A generator with two channels, as `ppm_init` hands it over. -/
def twoChannels (first second : UInt32) : Ppm :=
  { oneChannel first with slots := 2, slot := [first, second] }

theorem created_twoChannels (first second : UInt32) : Created (twoChannels first second) :=
  ⟨rfl, rfl, rfl, rfl, rfl⟩

/-- Whole milliseconds are left. -/
theorem constantPeriod_twoChannels : ConstantPeriod (twoChannels 500 500) :=
  (constantPeriod_iff (created_twoChannels 500 500) (by decide) (by decide)
    (by simp [twoChannels])).mpr
    (by decide)

/-- Two channels with 0 and 500 leave 1500 microseconds. Half a millisecond of
them is dropped, and every frame takes 4000 instead of 4500. -/
theorem not_constantPeriod_twoChannels :
    (∀ labels s frame, GoodRun (twoChannels 0 500) labels s →
      (∀ label ∈ labels, label.Quiet) → IsFrame s.ppm.log frame → elapsed frame = 4000) ∧
      ¬ ConstantPeriod (twoChannels 0 500) := by
  have created := created_twoChannels 0 500
  have slots : 1 ≤ (twoChannels 0 500).slots.toNat := by decide
  refine ⟨(forall_frame_iff created slots).mpr (by decide), ?_⟩
  rw [ConstantPeriod, forall_frame_iff created slots]
  decide

/-! ## The gap -/

/-- The pin is driven. -/
def isLevel : Event → Bool
  | .level _ => true
  | _ => false

/-- The phases of the pin: each drive begins one, which lasts until the next. -/
def waveform : List Event → List (Bool × ℕ)
  | [] => []
  | .level high :: events =>
    (high, elapsed (events.takeWhile fun e => !isLevel e)) :: waveform events
  | _ :: events => waveform events

theorem waveform_append_level (first second : List Event) (high : Bool) :
    waveform (first ++ .level high :: second) =
      waveform first ++ waveform (.level high :: second) := by
  -- The level ends the phase before it, whatever follows.
  have hstop (events : List Event) :
      (events ++ .level high :: second).takeWhile (fun e => !isLevel e) =
        events.takeWhile fun e => !isLevel e := by
    induction events with
    | nil => rfl
    | cons e events ih => simp [List.takeWhile_cons, ih]
  induction first with
  | nil => rfl
  | cons e first ih =>
    cases e with
    | level high' => simp only [List.cons_append, waveform, ih, hstop]
    | started | sample | oneshot | give | delayed =>
      simpa only [List.cons_append, waveform] using ih

theorem waveform_channelsEvents {values : List UInt32}
    (small : ∀ value ∈ values, value.toNat ≤ 1000) :
    waveform (channelsEvents values) = values.flatMap channelShots := by
  induction values using List.reverseRecOn with
  | nil => rfl
  | append_singleton values value ih =>
    have hlast : (value + 500).toNat = 500 + value.toNat :=
      toNat_add_minTime (small value (by simp))
    rw [channelsEvents_append_singleton, channelEvents, pulseEvents, List.cons_append,
      waveform_append_level, ih fun v member => small v (by simp [member])]
    simp [waveform, isLevel, Event.elapsed, channelShots, hlast]

theorem waveform_pauseEvents (rest : UInt32) :
    waveform (.level false :: pauseEvents rest) = [(false, pauseTime rest.toNat)] := by
  have hfree : (pauseEvents rest).takeWhile (fun e => !isLevel e) = pauseEvents rest ∧
      waveform (pauseEvents rest) = [] := by
    unfold pauseEvents
    split_ifs <;> simp [isLevel, waveform]
  rw [waveform, hfree.1, hfree.2, elapsed_pauseEvents]

/-- The waveform of a complete frame ends with the gap. -/
theorem waveform_completeFrame {slots : UInt32} {values : List UInt32}
    (all : values.length = slots.toNat) (small : ∀ value ∈ values, value.toNat ≤ 1000) :
    waveform (completeFrame slots values) =
      frameShots values ++ [(false, pauseTime (reserve values % 2 ^ 32))] := by
  rw [completeFrame, waveform_append_level, pulseEvents, waveform_append_level,
    waveform_channelsEvents small, waveform_pauseEvents, toNat_left all small]
  simp [frameShots, waveform, isLevel, Event.elapsed]

/-- The frame shows `n + 1` separate pulses, and the gap after the last is longer
than every low phase before it. -/
def Delimited (n : ℕ) (frame : List Event) : Prop :=
  ∃ phases gap, waveform frame = phases ++ [(false, gap)] ∧
    (∀ low, (false, low) ∈ phases → low < gap) ∧
    (∀ phase ∈ waveform frame, 0 < phase.2) ∧
    (waveform frame).map Prod.fst = (List.replicate (n + 1) [true, false]).flatten

/-- Every complete frame is delimited. -/
def AlwaysDelimited (ppm : Ppm) : Prop :=
  ∀ labels s frame, GoodRun ppm labels s → (∀ label ∈ labels, label.Quiet) →
    IsFrame s.ppm.log frame → Delimited ppm.slots.toNat frame

theorem mem_frameShots_low {values : List UInt32} {low : ℕ} :
    (false, low) ∈ frameShots values ↔ ∃ value ∈ values, low = 500 + value.toNat := by
  simp [frameShots, channelShots]

theorem levels_frameShots (values : List UInt32) (gap : ℕ) :
    (frameShots values ++ [(false, gap)]).map Prod.fst =
      (List.replicate (values.length + 1) [true, false]).flatten := by
  induction values with
  | nil => rfl
  | cons value values ih =>
    rw [List.length_cons, List.replicate_succ, List.flatten_cons, ← ih]
    simp [frameShots, channelShots]

/-- The gap alone decides whether a frame is delimited. -/
theorem delimited_completeFrame_iff {slots : UInt32} {values : List UInt32}
    (some_slot : 1 ≤ slots.toNat) (all : values.length = slots.toNat)
    (small : ∀ value ∈ values, value.toNat ≤ 1000) :
    Delimited slots.toNat (completeFrame slots values) ↔
      ∀ value ∈ values, 500 + value.toNat < pauseTime (reserve values % 2 ^ 32) := by
  have hwave := waveform_completeFrame all small
  constructor
  · rintro ⟨phases, gap, hsplit, hlonger, -, -⟩ value member
    obtain ⟨rfl, hgap⟩ := List.append_inj' (hwave.symm.trans hsplit) rfl
    obtain ⟨-, rfl⟩ : false = false ∧ pauseTime (reserve values % 2 ^ 32) = gap := by
      simpa using hgap
    exact hlonger _ (mem_frameShots_low.mpr ⟨value, member, rfl⟩)
  · intro hlonger
    refine ⟨_, _, hwave, ?_, ?_, ?_⟩
    · intro low member
      obtain ⟨value, held, rfl⟩ := mem_frameShots_low.mp member
      exact hlonger value held
    · obtain ⟨value, held⟩ := List.exists_mem_of_length_pos (all ▸ some_slot)
      have hgap := hlonger value held
      rw [hwave]
      intro phase member
      rcases List.mem_append.mp member with earlier | last
      · simp only [frameShots, channelShots, List.mem_append, List.mem_flatMap, List.mem_cons,
          List.not_mem_nil, or_false] at earlier
        rcases earlier with ⟨value, -, rfl | rfl⟩ | rfl <;> dsimp only <;> omega
      · obtain rfl := List.mem_singleton.mp last
        exact Nat.zero_lt_of_lt hgap
    · rw [hwave, levels_frameShots, all]

theorem lt_pauseTime_iff (rest value : ℕ) (small : value ≤ 1000) :
    500 + value < pauseTime rest ↔
      2000 ≤ rest ∨ (value < 500 ∧ (1000 ≤ rest ∨ 500 + value < rest)) := by
  unfold pauseTime
  split_ifs <;> omega

/-- **When frames are delimited.** The gap is longer than every channel exactly
when two milliseconds are left, or one and every slot is below 500, or less than
one that still exceeds every channel. The last needs a single channel or a
wrapped budget: two slots below 500 leave more than a millisecond. -/
theorem alwaysDelimited_iff (created : Created ppm) (slots : 1 ≤ ppm.slots.toNat)
    (small : ∀ value ∈ ppm.slot, value.toNat ≤ 1000) :
    AlwaysDelimited ppm ↔
      2000 ≤ reserve ppm.slot % 2 ^ 32 ∨
        ∀ value ∈ ppm.slot, value.toNat < 500 ∧
          (1000 ≤ reserve ppm.slot % 2 ^ 32 ∨ 500 + value.toNat < reserve ppm.slot % 2 ^ 32) := by
  rw [AlwaysDelimited, forall_frame_iff created slots,
    delimited_completeFrame_iff slots created.slot small]
  constructor
  · intro hlonger
    by_cases two : 2000 ≤ reserve ppm.slot % 2 ^ 32
    · exact .inl two
    · right
      intro value member
      exact ((lt_pauseTime_iff _ _ (small value member)).mp (hlonger value member)).resolve_left two
  · intro enough value member
    exact (lt_pauseTime_iff _ _ (small value member)).mpr (enough.imp_right fun h => h value member)

/-- A generator with three channels, as `ppm_init` hands it over. -/
def threeChannels (first second third : UInt32) : Ppm :=
  { oneChannel first with slots := 3, slot := [first, second, third] }

theorem created_threeChannels (first second third : UInt32) :
    Created (threeChannels first second third) := ⟨rfl, rfl, rfl, rfl, rfl⟩

/-- The values `ppm_init` writes leave enough. -/
theorem alwaysDelimited_threeChannels : AlwaysDelimited (threeChannels 0 200 200) :=
  (alwaysDelimited_iff (created_threeChannels 0 200 200) (by decide)
    (by simp [threeChannels])).mpr (.inl (by decide))

/-- Three channels at the upper limit leave nothing: the closing pulse runs into
the first pulse of the next frame. -/
theorem not_alwaysDelimited_threeChannels :
    (∀ labels s frame, GoodRun (threeChannels 1000 1000 1000) labels s →
      (∀ label ∈ labels, label.Quiet) → IsFrame s.ppm.log frame →
        (waveform frame).getLast? = some (false, 0)) ∧
      ¬ AlwaysDelimited (threeChannels 1000 1000 1000) := by
  have created := created_threeChannels 1000 1000 1000
  have slots : 1 ≤ (threeChannels 1000 1000 1000).slots.toNat := by decide
  refine ⟨(forall_frame_iff created slots).mpr (by decide), ?_⟩
  rw [AlwaysDelimited, forall_frame_iff created slots]
  rintro ⟨-, -, -, -, positive, -⟩
  exact absurd positive (by decide)

end TestSystem.PpmGenerator
