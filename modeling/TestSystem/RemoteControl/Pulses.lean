import TestSystem.Counter.Periodic
import TestSystem.RemoteControl.Freshness

/-!
# Pulses nobody sent

The capture driver reports the instant of an edge modulo the period of its
counter, and the handler subtracts the reading before it. Two histories make it
accept a width that no two edges had: the first edge is measured against the
zero that `rc_setup` stored, and a loss of the signal for more than a period
aliases into the window. There is no third.
-/

namespace TestSystem.RemoteControl

open TestSystem.Counter TestSystem.Transition

/-- The capture of channel `c` that an event reports. -/
def capturedAt (c : Fin rcMaxChannels) : Event → Option UInt64
  | .edge channel time => if channel = c then some time else none
  | .overflow => none

/-- What the driver reports for an edge at instant `t`. -/
def reading (t : ℕ) : UInt64 := UInt64.ofNat (t % capturePeriod)

/-- The edges of channel `c` in the history are those at the instants, in order. -/
structure Reports (c : Fin rcMaxChannels) (instants : List ℕ) (events : List Event) : Prop where
  rising : instants.Pairwise (· < ·)
  readings : events.filterMap (capturedAt c) = instants.map reading

/-- Every accepted edge has an edge before it, and the stored width is the time
between the two; every width handed out is the time between two edges that
follow one another. -/
structure NoInventedPulse (rc : Rc) (c : Fin rcMaxChannels) (instants : List ℕ)
    (events : List Event) : Prop where
  accepted : ∀ pre e post, events = pre ++ e :: post → AcceptedEdge rc c pre e →
    ∃ k t t', (pre.filterMap (capturedAt c)).length = k + 1 ∧ instants[k]? = some t ∧
      instants[k + 1]? = some t' ∧ ((run rc (pre ++ [e])).channelAt c).value.toNat = t' - t
  handedOut : ∀ pre post, events = pre ++ post → rcGet (run rc pre) c ≠ 0 →
    ∃ k t t', instants[k]? = some t ∧ instants[k + 1]? = some t' ∧
      (rcGet (run rc pre) c).toNat = t' - t

/-- The width lies in the window of a pulse. -/
def InWindow (width : ℕ) : Prop := 480 < width ∧ width < 2200

instance (width : ℕ) : Decidable (InWindow width) := inferInstanceAs (Decidable (_ ∧ _))

/-- The first reading does not look like a pulse, nor does the rise of the reading
over a gap of a whole period or more. -/
structure NoAlias (instants : List ℕ) : Prop where
  first : ∀ t rest, instants = t :: rest → ¬ InWindow (t % capturePeriod)
  gap : ∀ pre t t' post, instants = pre ++ t :: t' :: post → capturePeriod ≤ t' - t →
    ¬ InWindow (t' % capturePeriod - t % capturePeriod)

/-! ## Arithmetic of readings -/

theorem reading_toUInt32_toNat (t : ℕ) : (reading t).toUInt32.toNat = t % capturePeriod := by
  have hlt : t % capturePeriod < 24000 := Nat.mod_lt t (by decide)
  simp only [reading, UInt64.toNat_toUInt32, UInt64.toNat_ofNat']
  omega

section Reading

variable {channel : RcChannel} {t t' : ℕ}

theorem pulse_reading_of_lt (raw : channel.raw = (reading t).toUInt32)
    (rises : t % capturePeriod < t' % capturePeriod) :
    (pulse channel.raw (reading t')).toNat = t' % capturePeriod - t % capturePeriod := by
  have above : (reading t').toUInt32 > (reading t).toUInt32 := by
    rw [gt_iff_lt, UInt32.lt_iff_toNat_lt, reading_toUInt32_toNat, reading_toUInt32_toNat]
    exact rises
  rw [raw, pulse, if_pos above, UInt32.toNat_sub_of_le _ _ (UInt32.le_of_lt above),
    reading_toUInt32_toNat, reading_toUInt32_toNat]

/-- The branch for an overflow adds far more than a pulse lasts. -/
theorem pulse_reading_of_le (raw : channel.raw = (reading t).toUInt32)
    (falls : t' % capturePeriod ≤ t % capturePeriod) :
    2200 ≤ (pulse channel.raw (reading t')).toNat := by
  have notAbove : ¬ (reading t').toUInt32 > (reading t).toUInt32 := by
    rw [gt_iff_lt, UInt32.lt_iff_toNat_lt, reading_toUInt32_toNat, reading_toUInt32_toNat]
    exact Nat.not_lt.mpr falls
  have hlt : t % capturePeriod < 24000 := Nat.mod_lt t (by decide)
  have hlt' : t' % capturePeriod < 24000 := Nat.mod_lt t' (by decide)
  rw [raw, pulse, if_neg notAbove, UInt32.toNat_add, UInt32.toNat_sub, reading_toUInt32_toNat,
    reading_toUInt32_toNat]
  simp only [UInt32.reduceToNat]
  omega

theorem accepts_iff_inWindow (time : UInt64) :
    Accepts channel time ↔ InWindow (pulse channel.raw time).toNat := by
  simp [Accepts, InWindow, rcMin, rcMax, UInt32.lt_iff_toNat_lt]

/-- The handler compares the rise of the reading with the window. -/
theorem accepts_reading_iff (raw : channel.raw = (reading t).toUInt32) :
    Accepts channel (reading t') ↔ InWindow (t' % capturePeriod - t % capturePeriod) := by
  rw [accepts_iff_inWindow]
  rcases Nat.lt_or_ge (t % capturePeriod) (t' % capturePeriod) with rises | falls
  · rw [pulse_reading_of_lt raw rises]
  · have large := pulse_reading_of_le raw falls
    constructor
    · rintro ⟨-, small⟩
      omega
    · rintro ⟨wide, -⟩
      omega

theorem rises_of_inWindow (window : InWindow (t' % capturePeriod - t % capturePeriod)) :
    t % capturePeriod < t' % capturePeriod := by
  have := window.1
  omega

end Reading

/-! ## Edges and their instants -/

variable {rc : Rc} {c : Fin rcMaxChannels} {instants : List ℕ} {events pre post : List Event}
  {time : UInt64}

/-- `raw` holds the reading of the latest edge, and zero before the first. -/
theorem raw_run (setUp : SetUp rc c) (events : List Event) :
    ((run rc events).channelAt c).raw =
      ((events.filterMap (capturedAt c)).getLastD 0).toUInt32 := by
  induction events using List.reverseRecOn with
  | nil => simpa using setUp.channel.1
  | append_singleton events e ih =>
    rw [run_append_singleton]
    cases e with
    | overflow =>
      rw [handle_overflow_channel, overflowChannel_raw, ih]
      simp [capturedAt]
    | edge channel time =>
      by_cases own : channel = c
      · subst own
        rw [handle_edge_channel]
        simp [rcIRQHandler, capturedAt]
      · rw [handle_other_channel (by simp [concerns, ownSignal, own]), ih]
        simp [capturedAt, own]

/-- The instant of an edge in the history, and what `raw` holds when it comes. -/
theorem Reports.exists_instant (setUp : SetUp rc c)
    (reports : Reports c instants (pre ++ .edge c time :: post)) :
    ∃ before t' after, instants = before ++ t' :: after ∧ time = reading t' ∧
      (pre.filterMap (capturedAt c)).length = before.length ∧
      ((run rc pre).channelAt c).raw = (reading (before.getLastD 0)).toUInt32 := by
  have hreadings := reports.readings
  rw [List.filterMap_append, List.filterMap_cons_some (b := time) (by simp [capturedAt])]
    at hreadings
  obtain ⟨before, rest, rfl, hbefore, hrest⟩ := List.map_eq_append_iff.mp hreadings.symm
  obtain ⟨t', after, rfl, rfl, -⟩ := List.map_eq_cons_iff.mp hrest
  refine ⟨before, t', after, rfl, rfl, by simp [← hbefore], ?_⟩
  rw [raw_run setUp, ← hbefore]
  rcases List.eq_nil_or_concat before with rfl | ⟨before, t, rfl⟩
  · rfl
  · simp

/-- The edge of an instant in the history. -/
theorem Reports.exists_edge (before : List ℕ) {after : List ℕ} {t' : ℕ}
    (reports : Reports c (before ++ t' :: after) events) :
    ∃ pre post, events = pre ++ .edge c (reading t') :: post ∧
      pre.filterMap (capturedAt c) = before.map reading := by
  have hreadings := reports.readings
  rw [List.map_append, List.map_cons] at hreadings
  obtain ⟨pre, rest, rfl, hpre, hrest⟩ := List.filterMap_eq_append_iff.mp hreadings
  obtain ⟨skipped, e, post, rfl, hskipped, he, -⟩ := List.filterMap_eq_cons_iff.mp hrest
  obtain rfl : e = .edge c (reading t') := by
    cases e with
    | overflow => cases he
    | edge channel time =>
      by_cases own : channel = c
      · simpa [capturedAt, own] using he
      · simp [capturedAt, own] at he
  refine ⟨pre ++ skipped, post, by simp, ?_⟩
  rw [List.filterMap_append, hpre, List.filterMap_eq_nil_iff.mpr hskipped, List.append_nil]

/-- The width stored for an accepted edge. -/
theorem value_of_acceptedEdge {e : Event} (accepted : AcceptedEdge rc c pre e) :
    ((run rc (pre ++ [e])).channelAt c).value = widthOf rc c pre e := by
  obtain ⟨time, rfl, accepts⟩ := accepted
  rw [run_append_singleton, handle_edge_channel, rcIRQHandler_of_accepts accepts]
  rfl

/-! ## When widths are true -/

/-- Without an aliasing gap an accepted width is the time since the edge before. -/
theorem NoAlias.accepted (noAlias : NoAlias instants) (setUp : SetUp rc c)
    (reports : Reports c instants events) {e : Event} (split : events = pre ++ e :: post)
    (meets : AcceptedEdge rc c pre e) :
    ∃ k t t', (pre.filterMap (capturedAt c)).length = k + 1 ∧ instants[k]? = some t ∧
      instants[k + 1]? = some t' ∧ (widthOf rc c pre e).toNat = t' - t := by
  obtain ⟨time, rfl, accepts⟩ := meets
  subst split
  obtain ⟨before, t', after, rfl, rfl, hlength, raw⟩ := reports.exists_instant setUp
  have window := (accepts_reading_iff raw).mp accepts
  rcases List.eq_nil_or_concat before with rfl | ⟨before, t, rfl⟩
  · -- A first edge would be measured against the zero in `raw`.
    exact absurd window (noAlias.first t' after rfl)
  · simp only [List.concat_eq_append, List.getLastD_concat] at raw window
    have later : t < t' := by
      have rising := reports.rising
      simp only [List.concat_eq_append, List.append_assoc, List.singleton_append] at rising
      exact (List.pairwise_cons.mp (List.pairwise_append.mp rising).2.1).1 t' (by simp)
    -- Over a longer gap the reading would have risen into the window by alias.
    have short : t' - t < capturePeriod := by
      by_contra long
      exact noAlias.gap before t t' after (by simp) (Nat.le_of_not_lt long) window
    have rises := rises_of_inWindow window
    refine ⟨before.length, t, t', by simpa using hlength, by simp, by simp, ?_⟩
    calc (widthOf rc c pre (.edge c (reading t'))).toNat
      _ = t' % capturePeriod - t % capturePeriod := pulse_reading_of_lt raw rises
      _ = t' - t := (reading_sub_eq_iff (by decide) (Nat.le_of_lt later) rises).mpr short

theorem NoAlias.noInventedPulse (noAlias : NoAlias instants) (setUp : SetUp rc c)
    (reports : Reports c instants events) : NoInventedPulse rc c instants events where
  accepted pre e post split meets := by
    rw [value_of_acceptedEdge meets]
    exact noAlias.accepted setUp reports split meets
  handedOut pre post split nonzero := by
    have fresh := fresh_run setUp pre
    have corret : ((run rc pre).channelAt c).corret := by
      by_contra hfalse
      exact nonzero (by simp [rcGet, hfalse])
    -- What `rc_get` returns is the width of the latest accepted edge.
    obtain ⟨past, e, since, latest, -⟩ := fresh.corret.mp corret
    have whole : events = past ++ e :: (since ++ post) := by simp [split, latest.split]
    obtain ⟨k, t, t', -, hk, hk', width⟩ := noAlias.accepted setUp reports whole latest.meets
    refine ⟨k, t, t', hk, hk', ?_⟩
    rw [← width, ← fresh.value latest]
    simp [rcGet, corret]

theorem NoInventedPulse.noAlias (honest : NoInventedPulse rc c instants events)
    (setUp : SetUp rc c) (reports : Reports c instants events) : NoAlias instants where
  first t rest hinstants window := by
    subst hinstants
    obtain ⟨pre, post, rfl, hpre⟩ := Reports.exists_edge [] reports
    have raw : ((run rc pre).channelAt c).raw = (reading 0).toUInt32 := by
      rw [raw_run setUp, hpre]
      rfl
    have accepts := (accepts_reading_iff raw).mpr window
    -- An accepted first edge has no edge before it.
    obtain ⟨k, -, -, hlength, -⟩ := honest.accepted pre _ post rfl ⟨_, rfl, accepts⟩
    simp [hpre] at hlength
  gap before t t' after hinstants long window := by
    subst hinstants
    obtain ⟨pre, post, rfl, hpre⟩ :=
      Reports.exists_edge (before ++ [t]) (by simpa using reports)
    have raw : ((run rc pre).channelAt c).raw = (reading t).toUInt32 := by
      rw [raw_run setUp, hpre]
      simp
    have accepts := (accepts_reading_iff raw).mpr window
    have rises := rises_of_inWindow window
    have meets : AcceptedEdge rc c pre (.edge c (reading t')) := ⟨_, rfl, accepts⟩
    -- The stored width is less than a period, the elapsed time is not.
    obtain ⟨k, u, u', hlength, hk, hk', width⟩ := honest.accepted pre _ post rfl meets
    obtain rfl : before.length = k := by simpa [hpre] using hlength
    obtain rfl : t = u := by simpa using hk
    obtain rfl : t' = u' := by simpa using hk'
    rw [value_of_acceptedEdge meets] at width
    have same : t' % capturePeriod - t % capturePeriod = t' - t := by
      rw [← width]
      exact (pulse_reading_of_lt raw rises).symm
    have short := (reading_sub_eq_iff (by decide) (by omega) rises).mp same
    omega

/-- **Exactly the two aliases invent a pulse.** -/
theorem noInventedPulse_iff (setUp : SetUp rc c) (reports : Reports c instants events) :
    NoInventedPulse rc c instants events ↔ NoAlias instants :=
  ⟨fun honest => honest.noAlias setUp reports, fun noAlias => noAlias.noInventedPulse setUp reports⟩

/-- Two pulses, with a gap of less than a period between them. -/
theorem noInventedPulse_twoPulses :
    NoInventedPulse oneChannel 0 [3000, 4500, 23000, 24200]
      [.edge 0 3000, .edge 0 4500, .overflow, .edge 0 23000, .edge 0 200] := by
  have reports : Reports 0 [3000, 4500, 23000, 24200]
      [.edge 0 3000, .edge 0 4500, .overflow, .edge 0 23000, .edge 0 200] :=
    ⟨by decide, by decide⟩
  refine (noInventedPulse_iff setUp_oneChannel reports).mpr ⟨?_, ?_⟩
  · rintro t rest heq
    obtain ⟨rfl, -⟩ := List.cons.inj heq
    decide
  · intro pre t t' post heq long
    -- No two instants that follow one another are a period apart.
    have near : [3000, 4500, 23000, 24200].IsChain fun t t' => ¬ capturePeriod ≤ t' - t := by
      decide
    rw [heq] at near
    exact absurd long (List.isChain_append_cons_cons.mp near).2.1

/-- The first edge, and an edge 25 ms after another, make up a pulse of 1 ms. -/
theorem not_noInventedPulse_oneChannel :
    SetUp oneChannel 0 ∧
    (Reports 0 [1000] [.edge 0 1000] ∧ ¬ NoInventedPulse oneChannel 0 [1000] [.edge 0 1000]) ∧
    (Reports 0 [0, 25000] [.edge 0 0, .edge 0 1000] ∧
      ¬ NoInventedPulse oneChannel 0 [0, 25000] [.edge 0 0, .edge 0 1000]) := by
  have reports : Reports 0 [1000] [.edge 0 1000] := ⟨by decide, by decide⟩
  have reports' : Reports 0 [0, 25000] [.edge 0 0, .edge 0 1000] := ⟨by decide, by decide⟩
  refine ⟨setUp_oneChannel, ⟨reports, fun honest => ?_⟩, reports', fun honest => ?_⟩
  · have noAlias := honest.noAlias setUp_oneChannel reports
    exact noAlias.first 1000 [] rfl (by decide)
  · have noAlias := honest.noAlias setUp_oneChannel reports'
    exact noAlias.gap [] 0 25000 [] rfl (by decide) (by decide)

end TestSystem.RemoteControl
