import TestSystem.RemoteControl.Pulses

/-!
# Pulses across a wrap of the counter

The handler has a branch for a reading that is not above the one before it. The
branch adds `UINT16_MAX`, which is neither the period that `rc_setup` configures
nor that of a counter over 16 bits. So a pulse is measured exactly if the
counter does not wrap between its two edges.
-/

namespace TestSystem.RemoteControl

open TestSystem.Counter TestSystem.Transition

/-- What a driver whose counter has this period reports for an edge at instant `t`. -/
def readingOf (period t : ℕ) : UInt64 := UInt64.ofNat (t % period)

/-- Two edges of channel `c` follow one another at instants `t` and `t'`, with other
interrupts between them. The second is accepted, and the stored width is the
elapsed time. -/
structure MeasuredExactly (rc : Rc) (c : Fin rcMaxChannels) (period t t' : ℕ)
    (between : List Event) : Prop where
  accepted : AcceptedEdge rc c (.edge c (readingOf period t) :: between)
    (.edge c (readingOf period t'))
  value : ((run rc (.edge c (readingOf period t) :: between ++
    [.edge c (readingOf period t')])).channelAt c).value.toNat = t' - t
  corret : ((run rc (.edge c (readingOf period t) :: between ++
    [.edge c (readingOf period t')])).channelAt c).corret
  retry : ((run rc (.edge c (readingOf period t) :: between ++
    [.edge c (readingOf period t')])).channelAt c).retry

variable {rc : Rc} {c : Fin rcMaxChannels} {period t t' : ℕ} {between : List Event}

/-! ## What `raw` holds when the second edge comes -/

theorem raw_run_of_foreign (rc : Rc) (foreign : ∀ e ∈ between, capturedAt c e = none) :
    ((run rc between).channelAt c).raw = (rc.channelAt c).raw := by
  induction between using List.reverseRecOn with
  | nil => rfl
  | append_singleton between e ih =>
    have hinit := ih fun e' member => foreign e' (by simp [member])
    have last : capturedAt c e = none := foreign e (by simp)
    rw [run_append_singleton]
    -- Neither an overflow nor an edge of another channel writes `raw`.
    cases e with
    | overflow => rw [handle_overflow_channel, overflowChannel_raw, hinit]
    | edge channel time =>
      have other : channel ≠ c := by
        intro own
        simp [capturedAt, own] at last
      rw [handle_other_channel (by simp [concerns, ownSignal, other]), hinit]

theorem raw_between (rc : Rc) (c : Fin rcMaxChannels) (time : UInt64)
    (foreign : ∀ e ∈ between, capturedAt c e = none) :
    ((run rc (.edge c time :: between)).channelAt c).raw = time.toUInt32 := by
  have hrun : run rc (.edge c time :: between) = run (handle rc (.edge c time)) between := rfl
  rw [hrun, raw_run_of_foreign _ foreign, handle_edge_channel]
  rfl

/-! ## The difference of the two readings -/

theorem readingOf_toUInt32_toNat (bound : period ≤ 65536) (pos : 0 < period) (t : ℕ) :
    (readingOf period t).toUInt32.toNat = t % period := by
  have hlt : t % period < period := Nat.mod_lt t pos
  simp only [readingOf, UInt64.toNat_toUInt32, UInt64.toNat_ofNat']
  omega

section Readings

variable (bound : period ≤ 65536) (later : t < t') (short : t' - t < period)
include bound later short

/-- Without a wrap the difference is the elapsed time. -/
theorem pulse_of_same_turn (same : t / period = t' / period) :
    (pulse (readingOf period t).toUInt32 (readingOf period t')).toNat = t' - t := by
  have hread := readingOf_toUInt32_toNat bound (by omega) t
  have hread' := readingOf_toUInt32_toNat bound (by omega) t'
  have hrise := reading_of_same_turn (Nat.le_of_lt later) same
  have above : (readingOf period t').toUInt32 > (readingOf period t).toUInt32 := by
    rw [gt_iff_lt, UInt32.lt_iff_toNat_lt, hread, hread']
    omega
  rw [pulse, if_pos above, UInt32.toNat_sub_of_le _ _ (UInt32.le_of_lt above), hread, hread']
  omega

/-- Over a wrap the difference is that of a counter whose period is 65535. -/
theorem pulse_of_wrap (wraps : t / period ≠ t' / period) :
    (pulse (readingOf period t).toUInt32 (readingOf period t')).toNat + period =
      t' - t + 65535 := by
  have hread := readingOf_toUInt32_toNat bound (by omega) t
  have hread' := readingOf_toUInt32_toNat bound (by omega) t'
  have hfall := reading_of_wrap (Nat.le_of_lt later) short wraps
  have hlt : t % period < period := Nat.mod_lt t (by omega)
  have notAbove : ¬ (readingOf period t').toUInt32 > (readingOf period t).toUInt32 := by
    rw [gt_iff_lt, UInt32.lt_iff_toNat_lt, hread, hread']
    omega
  rw [pulse, if_neg notAbove, UInt32.toNat_add, UInt32.toNat_sub, hread, hread']
  simp only [UInt32.reduceToNat]
  omega

end Readings

/-! ## Which pulses are measured -/

theorem measuredExactly_iff_pulse (foreign : ∀ e ∈ between, capturedAt c e = none)
    (width : InWindow (t' - t)) :
    MeasuredExactly rc c period t t' between ↔
      (pulse (readingOf period t).toUInt32 (readingOf period t')).toNat = t' - t := by
  have raw := raw_between rc c (readingOf period t) foreign
  constructor
  · intro measured
    have hvalue := measured.value
    rw [value_of_acceptedEdge measured.accepted, widthOf, raw] at hvalue
    exact hvalue
  · intro exact_width
    have accepts : Accepts ((run rc (.edge c (readingOf period t) :: between)).channelAt c)
        (readingOf period t') := by
      rwa [accepts_iff_inWindow, raw, exact_width]
    have accepted : AcceptedEdge rc c (.edge c (readingOf period t) :: between)
        (.edge c (readingOf period t')) := ⟨_, rfl, accepts⟩
    have hlast : (run rc (.edge c (readingOf period t) :: between ++
        [.edge c (readingOf period t')])).channelAt c =
          rcIRQHandler (readingOf period t')
            ((run rc (.edge c (readingOf period t) :: between)).channelAt c) := by
      rw [run_append_singleton, handle_edge_channel]
    refine ⟨accepted, ?_, ?_, ?_⟩
    · rw [value_of_acceptedEdge accepted, widthOf, raw, exact_width]
    · rw [hlast, rcIRQHandler_of_accepts accepts]
    · rw [hlast, rcIRQHandler_of_accepts accepts]

/-- **A pulse is measured exactly if the counter does not wrap within it**, whether the
counter has the configured period or runs over 16 bits. -/
theorem measuredExactly_iff (periods : period = capturePeriod ∨ period = 65536)
    (later : t < t') (width : InWindow (t' - t))
    (foreign : ∀ e ∈ between, capturedAt c e = none) :
    MeasuredExactly rc c period t t' between ↔ t / period = t' / period := by
  have wide : t' - t < 2200 := width.2
  have bound : period ≤ 65536 := by
    rcases periods with rfl | rfl <;> simp [capturePeriod]
  have long : 2200 < period ∧ period ≠ 65535 := by
    rcases periods with rfl | rfl <;> simp [capturePeriod]
  have short : t' - t < period := wide.trans long.1
  rw [measuredExactly_iff_pulse foreign width]
  constructor
  · intro exact_width
    by_contra wraps
    -- The difference would be the elapsed time for a period of 65535 only.
    have hwrap := pulse_of_wrap bound later short wraps
    omega
  · exact pulse_of_same_turn bound later short

/-- A pulse of 1500 µs with an overflow callback and an edge of another channel in it. -/
theorem measuredExactly_oneTurn :
    MeasuredExactly oneChannel 0 24000 3000 4500 [.overflow, .edge 1 3700] :=
  (measuredExactly_iff (.inl rfl) (by decide) (by decide) (by simp [capturedAt])).mpr (by decide)

/-- A pulse of 1000 µs across a wrap is rejected with the configured period, and is one
microsecond short with a counter over 16 bits. -/
theorem not_measuredExactly_wrap :
    ¬ MeasuredExactly oneChannel 0 24000 23500 24500 [.overflow] ∧
      ¬ MeasuredExactly oneChannel 0 65536 65000 66000 [.overflow] := by
  constructor
  · rw [measuredExactly_iff_pulse (by simp [capturedAt]) (by decide)]
    decide
  · rw [measuredExactly_iff_pulse (by simp [capturedAt]) (by decide)]
    decide

end TestSystem.RemoteControl
