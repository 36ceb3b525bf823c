import TestSystem.RemoteControl.Decoder
import TestSystem.Transition.Latest

/-!
# How long a width stays valid

A channel hands out the width of its latest accepted edge until the timer has
overflowed twice after that edge. The flags of the channel encode the count of
overflows: `retry` says that there was none, `corret` that there was at most
one.
-/

namespace TestSystem.RemoteControl

open TestSystem.Transition

/-- The event is an edge of channel `c` that the handler accepts after `past`. -/
def AcceptedEdge (rc : Rc) (c : Fin rcMaxChannels) (past : List Event) (e : Event) : Prop :=
  ∃ time, e = .edge c time ∧ Accepts ((run rc past).channelAt c) time

/-- The width the handler computes for an edge of channel `c` after `past`. -/
def widthOf (rc : Rc) (c : Fin rcMaxChannels) (past : List Event) : Event → UInt32
  | .edge _ time => pulse ((run rc past).channelAt c).raw time
  | .overflow => 0

/-- The event is an edge of channel `c` or an overflow. -/
def concerns (c : Fin rcMaxChannels) (e : Event) : Bool := (ownSignal c e).isSome

section Handlers

variable {channel : RcChannel} {time : UInt64}

theorem rcIRQHandler_of_accepts (accepts : Accepts channel time) :
    rcIRQHandler time channel =
      { channel with
        value := pulse channel.raw time
        corret := true
        retry := true
        raw := time.toUInt32 } := by
  have inWindow : pulse channel.raw time > rcMin ∧ pulse channel.raw time < rcMax := accepts
  simp [rcIRQHandler, inWindow]

theorem rcIRQHandler_of_not_accepts (rejects : ¬ Accepts channel time) :
    rcIRQHandler time channel = { channel with raw := time.toUInt32 } := by
  have outside : ¬ (pulse channel.raw time > rcMin ∧ pulse channel.raw time < rcMax) := rejects
  simp only [rcIRQHandler, if_neg outside]

theorem overflowChannel_raw (channel : RcChannel) :
    (overflowChannel channel).raw = channel.raw := by
  unfold overflowChannel
  split <;> rfl

end Handlers

variable {rc : Rc} {c : Fin rcMaxChannels} {events : List Event} {e : Event}

theorem handle_overflow_channel (rc : Rc) :
    (handle rc .overflow).channelAt c = overflowChannel (rc.channelAt c) := by
  simpa [ownSignal, RcChannel.respond] using handle_channel (c := c) rc .overflow

theorem handle_edge_channel (rc : Rc) (time : UInt64) :
    (handle rc (.edge c time)).channelAt c = rcIRQHandler time (rc.channelAt c) := by
  simpa [ownSignal, RcChannel.respond] using handle_channel (c := c) rc (.edge c time)

theorem handle_other_channel (other : concerns c e = false) (rc : Rc) :
    (handle rc e).channelAt c = rc.channelAt c := by
  have hown : ownSignal c e = none := by simpa [concerns] using other
  rw [handle_channel, hown, Option.elim_none]

theorem not_acceptedEdge_overflow : ¬ AcceptedEdge rc c events .overflow := by
  rintro ⟨time, isEdge, -⟩
  cases isEdge

/-- At least one edge was accepted, and fewer than `n` overflows followed the
latest. -/
def AgeBelow (rc : Rc) (c : Fin rcMaxChannels) (n : ℕ) (events : List Event) : Prop :=
  ∃ pre e post, Latest (AcceptedEdge rc c) events pre e post ∧ post.count .overflow < n

/-- The flags and the width of a channel, in terms of the latest accepted edge. -/
structure Fresh (rc : Rc) (c : Fin rcMaxChannels) (events : List Event)
    (channel : RcChannel) : Prop where
  corret : channel.corret ↔ AgeBelow rc c 2 events
  retry : channel.retry ↔ AgeBelow rc c 1 events
  value : ∀ {pre e post}, Latest (AcceptedEdge rc c) events pre e post →
    channel.value = widthOf rc c pre e

/-! ## What one event does to the age -/

theorem not_ageBelow_nil {n : ℕ} : ¬ AgeBelow rc c n [] := by
  rintro ⟨pre, e, post, latest, -⟩
  exact not_latest_nil latest

theorem not_ageBelow_zero : ¬ AgeBelow rc c 0 events := by
  rintro ⟨pre, e, post, -, below⟩
  exact Nat.not_lt_zero _ below

theorem ageBelow_append_of_accepted {n : ℕ} (accepted : AcceptedEdge rc c events e) (pos : 0 < n) :
    AgeBelow rc c n (events ++ [e]) :=
  ⟨events, e, [], (latest_append_of_meets accepted).mpr ⟨rfl, rfl, rfl⟩, by simpa using pos⟩

/-- An overflow makes the width one overflow older. -/
theorem ageBelow_append_overflow {n : ℕ} :
    AgeBelow rc c (n + 1) (events ++ [.overflow]) ↔ AgeBelow rc c n events := by
  have hcount (post : List Event) :
      (post ++ [Event.overflow]).count .overflow = post.count .overflow + 1 := by simp
  constructor
  · rintro ⟨pre, a, post, latest, below⟩
    obtain ⟨post', rfl, latest'⟩ := (latest_append_of_not_meets not_acceptedEdge_overflow).mp latest
    rw [hcount] at below
    exact ⟨pre, a, post', latest', Nat.lt_of_succ_lt_succ below⟩
  · rintro ⟨pre, a, post, latest, below⟩
    refine ⟨pre, a, post ++ [.overflow], ?_, ?_⟩
    · -- The overflow is no edge, so the latest edge stays the latest.
      exact (latest_append_of_not_meets not_acceptedEdge_overflow).mpr ⟨post, rfl, latest⟩
    · rw [hcount]
      exact Nat.succ_lt_succ below

/-- A rejected edge and an edge of another channel leave the age. -/
theorem ageBelow_append_of_not_accepted {n : ℕ} (misses : ¬ AcceptedEdge rc c events e)
    (isEdge : e ≠ .overflow) : AgeBelow rc c n (events ++ [e]) ↔ AgeBelow rc c n events := by
  have hcount (post : List Event) :
      (post ++ [e]).count Event.overflow = post.count .overflow := by
    simp [isEdge]
  constructor
  · rintro ⟨pre, a, post, latest, below⟩
    obtain ⟨post', rfl, latest'⟩ := (latest_append_of_not_meets misses).mp latest
    exact ⟨pre, a, post', latest', hcount post' ▸ below⟩
  · rintro ⟨pre, a, post, latest, below⟩
    refine ⟨pre, a, post ++ [e], (latest_append_of_not_meets misses).mpr ⟨post, rfl, latest⟩, ?_⟩
    rwa [hcount]

/-! ## The flags follow the age -/

theorem Fresh.of_kept {channel channel' : RcChannel} (fresh : Fresh rc c events channel)
    (misses : ¬ AcceptedEdge rc c events e) (isEdge : e ≠ .overflow)
    (corret : channel'.corret = channel.corret) (retry : channel'.retry = channel.retry)
    (value : channel'.value = channel.value) : Fresh rc c (events ++ [e]) channel' where
  corret := by rw [corret, ageBelow_append_of_not_accepted misses isEdge, fresh.corret]
  retry := by rw [retry, ageBelow_append_of_not_accepted misses isEdge, fresh.retry]
  value latest := by
    obtain ⟨post, -, latest⟩ := (latest_append_of_not_meets misses).mp latest
    rw [value, fresh.value latest]

theorem Fresh.accepted {time : UInt64} (accepts : Accepts ((run rc events).channelAt c) time) :
    Fresh rc c (events ++ [.edge c time]) (rcIRQHandler time ((run rc events).channelAt c)) := by
  have meets : AcceptedEdge rc c events (.edge c time) := ⟨time, rfl, accepts⟩
  rw [rcIRQHandler_of_accepts accepts]
  refine ⟨?_, ?_, ?_⟩
  · simpa using ageBelow_append_of_accepted meets Nat.two_pos
  · simpa using ageBelow_append_of_accepted meets Nat.one_pos
  · intro pre e post latest
    obtain ⟨rfl, rfl, rfl⟩ := (latest_append_of_meets meets).mp latest
    rfl

theorem Fresh.overflow {channel : RcChannel} (fresh : Fresh rc c events channel) :
    Fresh rc c (events ++ [.overflow]) (overflowChannel channel) where
  corret := by
    rw [ageBelow_append_overflow, ← fresh.retry]
    by_cases retry : channel.retry
    · -- `retry` is spent, `corret` stays: it was set together with `retry`.
      have corret : channel.corret := by
        obtain ⟨pre, e, post, latest, below⟩ := fresh.retry.mp retry
        exact fresh.corret.mpr ⟨pre, e, post, latest, Nat.lt_succ_of_lt below⟩
      simp [overflowChannel, retry, corret]
    · simp [overflowChannel, retry]
  retry := by
    rw [ageBelow_append_overflow]
    by_cases retry : channel.retry <;> simp [overflowChannel, retry, not_ageBelow_zero]
  value latest := by
    obtain ⟨post, -, latest⟩ := (latest_append_of_not_meets not_acceptedEdge_overflow).mp latest
    have hvalue : (overflowChannel channel).value = channel.value := by
      unfold overflowChannel
      split <;> rfl
    rw [hvalue, fresh.value latest]

/-- The flags of a channel tell the age of its width after every history. -/
theorem fresh_run (setUp : SetUp rc c) (events : List Event) :
    Fresh rc c events ((run rc events).channelAt c) := by
  induction events using List.reverseRecOn with
  | nil =>
    obtain ⟨-, hretry, hcorret⟩ := setUp.channel
    refine ⟨?_, ?_, fun latest => absurd latest not_latest_nil⟩
    · simp [hcorret, not_ageBelow_nil]
    · simp [hretry, not_ageBelow_nil]
  | append_singleton events e ih =>
    rw [run_append_singleton]
    cases e with
    | overflow =>
      rw [handle_overflow_channel]
      exact ih.overflow
    | edge channel time =>
      by_cases own : channel = c
      · subst own
        rw [handle_edge_channel]
        by_cases accepts : Accepts ((run rc events).channelAt channel) time
        · exact .accepted accepts
        · have misses : ¬ AcceptedEdge rc channel events (.edge channel time) := by
            rintro ⟨time', heq, accepts'⟩
            cases heq
            exact accepts accepts'
          rw [rcIRQHandler_of_not_accepts accepts]
          exact ih.of_kept misses (by simp) rfl rfl rfl
      · have misses : ¬ AcceptedEdge rc c events (.edge channel time) := by
          rintro ⟨time', heq, -⟩
          cases heq
          exact own rfl
        rw [handle_other_channel (by simp [concerns, ownSignal, own])]
        exact ih.of_kept misses (by simp) rfl rfl rfl

/-! ## What `rc_get` returns -/

theorem widthOf_mem_window (accepted : AcceptedEdge rc c events e) :
    rcMin < widthOf rc c events e ∧ widthOf rc c events e < rcMax := by
  obtain ⟨time, rfl, accepts⟩ := accepted
  exact accepts

theorem run_channel_eq_of_filter_eq {events' : List Event}
    (agree : events.filter (concerns c) = events'.filter (concerns c)) :
    (run rc events).channelAt c = (run rc events').channelAt c := by
  -- What does not concern the channel has no signal for it.
  have own (es : List Event) :
      es.filterMap (ownSignal c) = (es.filter (concerns c)).filterMap (ownSignal c) := by
    rw [List.filterMap_filter]
    apply List.filterMap_congr
    intro e _
    cases h : ownSignal c e <;> simp [concerns, h]
  rw [run_channel, run_channel, own events, own events', agree]

/-- **A width is handed out while it is fresh.** After every history of a channel
that was set up, `rc_get` is nonzero exactly when an edge was accepted and fewer
than two overflows followed the latest accepted one; it is then the width of
that edge, and it lies in the window. Events of other channels do not count. -/
theorem rcGet_fresh (setUp : SetUp rc c) (events : List Event) :
    (rcGet (run rc events) c ≠ 0 ↔
      ∃ pre e post, Latest (AcceptedEdge rc c) events pre e post ∧
        post.count .overflow < 2) ∧
    (∀ pre e post, Latest (AcceptedEdge rc c) events pre e post → post.count .overflow < 2 →
      rcGet (run rc events) c = widthOf rc c pre e ∧
        480 < rcGet (run rc events) c ∧ rcGet (run rc events) c < 2200) ∧
    ∀ events', events'.filter (concerns c) = events.filter (concerns c) →
      rcGet (run rc events') c = rcGet (run rc events) c := by
  have fresh := fresh_run setUp events
  have handedOut {pre e post} (latest : Latest (AcceptedEdge rc c) events pre e post)
      (young : post.count .overflow < 2) : rcGet (run rc events) c = widthOf rc c pre e := by
    have corret := fresh.corret.mpr ⟨pre, e, post, latest, young⟩
    simp [rcGet, corret, fresh.value latest]
  refine ⟨⟨?_, ?_⟩, ?_, ?_⟩
  · intro nonzero
    have corret : ((run rc events).channelAt c).corret := by
      by_contra hfalse
      exact nonzero (by simp [rcGet, hfalse])
    exact fresh.corret.mp corret
  · -- A width of zero would not lie in the window.
    rintro ⟨pre, e, post, latest, young⟩ zero
    have window := (widthOf_mem_window latest.meets).1
    rw [← handedOut latest young, zero] at window
    exact absurd window (by decide)
  · intro pre e post latest young
    have window := widthOf_mem_window latest.meets
    rw [← handedOut latest young] at window
    exact ⟨handedOut latest young, window⟩
  · intro events' agree
    simp only [rcGet, run_channel_eq_of_filter_eq agree]

/-- The object `rc_init` returns. -/
def cleared : Rc := ⟨Vector.replicate 8 ⟨none, 0, 0, false, false⟩⟩

/-- Channel 0 after `rc_init` and one `rc_setup`. -/
def oneChannel : Rc := (rcSetup ⟨0, 0, 0⟩ cleared ⟨fun _ => none, fun _ => none⟩ 5).1

theorem setUp_oneChannel : SetUp oneChannel 0 :=
  ⟨⟨0, 0, 0⟩, cleared, ⟨fun _ => none, fun _ => none⟩, 5, by decide +kernel, by decide,
    by decide, rfl⟩

/-- A pulse of 1500 µs, an edge of another channel and one overflow. -/
theorem rcGet_fresh_oneChannel :
    rcGet (run oneChannel [.edge 0 3000, .edge 0 4500, .edge 1 700, .overflow]) 0 = 1500 ∧
      ∃ pre e post, Latest (AcceptedEdge oneChannel 0)
        [.edge 0 3000, .edge 0 4500, .edge 1 700, .overflow] pre e post ∧
          post.count .overflow < 2 := by
  have width : rcGet (run oneChannel [.edge 0 3000, .edge 0 4500, .edge 1 700, .overflow]) 0 =
      1500 := by decide +kernel
  have nonzero : rcGet (run oneChannel [.edge 0 3000, .edge 0 4500, .edge 1 700, .overflow]) 0 ≠
      0 := by
    rw [width]
    decide
  exact ⟨width, (rcGet_fresh setUp_oneChannel _).1.mp nonzero⟩

end TestSystem.RemoteControl
