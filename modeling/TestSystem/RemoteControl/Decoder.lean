import TestSystem.Transition.Projection

/-!
# The remote control decoder

`src/vf610/remote_control.c` measures the pulses of up to eight channels. Each
edge of a channel is captured with a counter value; the difference to the edge
before it is the width of a pulse when it lies in the accepted window. Two
flags of a channel tell whether its last width is still valid, and the overflow
interrupt of the timer ages them.
-/

namespace TestSystem.RemoteControl

open TestSystem.Transition

/-- `RC_MAX_CHANNELS`. -/
abbrev rcMaxChannels : ℕ := 8

/-- `RC_MIN` in microseconds. -/
def rcMin : UInt32 := 480

/-- `RC_MAX` in microseconds. -/
def rcMax : UInt32 := 2200

/-- The period `rc_setup` gives to the capture counter, in microseconds. -/
def capturePeriod : ℕ := 24000

/-- `struct rc_channel`, less its pointer back to the object, which nothing
reads. A capture unit is known by a number. -/
structure RcChannel where
  capture : Option ℕ
  raw : UInt32
  value : UInt32
  retry : Bool
  corret : Bool
  deriving DecidableEq, Repr

/-- `struct rc`, less its timer. -/
structure Rc where
  channel : Vector RcChannel rcMaxChannels
  deriving DecidableEq, Repr

/-- `rc->channel[c]`. -/
def Rc.channelAt (rc : Rc) (c : Fin rcMaxChannels) : RcChannel := rc.channel[c]

/-- What the capture driver holds: the channel a unit's callback reports to, and
the unit's period. -/
structure Captures where
  callback : ℕ → Option (Fin rcMaxChannels)
  period : ℕ → Option ℕ

/-! ## The interrupts -/

/-- `tmp` of `rc_IRQHandler`: the difference of two captures, with the branch for
an overflow of the counter. -/
def pulse (raw : UInt32) (time : UInt64) : UInt32 :=
  let tmp_1 := raw
  let tmp_0 := time.toUInt32
  -- Equal readings take the branch for an overflow, which assumes a counter of 16 bits.
  if tmp_0 > tmp_1 then tmp_0 - tmp_1 else (65535 - tmp_1) + tmp_0

/-- The difference lies in the window of a pulse. -/
def Accepts (channel : RcChannel) (time : UInt64) : Prop :=
  rcMin < pulse channel.raw time ∧ pulse channel.raw time < rcMax

instance (channel : RcChannel) (time : UInt64) : Decidable (Accepts channel time) :=
  inferInstanceAs (Decidable (_ ∧ _))

/-- An edge ends a pulse and begins the next; only a width in range is stored. -/
def rcIRQHandler (time : UInt64) (channel : RcChannel) : RcChannel :=
  let tmp := pulse channel.raw time
  let channel :=
    if tmp > rcMin ∧ tmp < rcMax then
      { channel with value := tmp, corret := true, retry := true }
    else channel
  -- `raw` is kept for the next edge whether this one was accepted or not.
  { channel with raw := time.toUInt32 }

/-- The body of the loop of `rc_OverfowHandler`. -/
def overflowChannel (channel : RcChannel) : RcChannel :=
  if channel.retry then { channel with retry := false } else { channel with corret := false }

/-- When the counter wraps, every channel is aged. -/
def rcOverfowHandler (rc : Rc) : Rc := { rc with channel := rc.channel.map overflowChannel }

/-! ## Setting up and reading -/

/-- `rc_init`: the memory is cleared. -/
def rcInit (allocated : Bool) (ret : Int32) : Option Rc :=
  if ¬ allocated then none
  else
    let rc : Rc := { channel := Vector.replicate rcMaxChannels ⟨none, 0, 0, false, false⟩ }
    if ret < 0 then none else some rc

/-- What the driver answers to one `rc_setup`, and the value that the variable
`ret` happens to hold before it is assigned. -/
structure Answer where
  setCallback : Int32
  setPeriod : Int32
  unassigned : Int32
  deriving DecidableEq, Repr

/-- The loop over the channels: the first whose capture unit is `NULL`. -/
def freeIndex (rc : Rc) : Option (Fin rcMaxChannels) :=
  (List.finRange rcMaxChannels).find? fun index => (rc.channelAt index).capture.isNone

/-- `rc->channel[index]` is written. -/
def Rc.setChannel (rc : Rc) (index : Fin rcMaxChannels) (channel : RcChannel) : Rc :=
  { rc with channel := rc.channel.set index channel }

/-- `rc_setup`, given what the driver of the capture unit answers. -/
def rcSetup (answer : Answer) (rc : Rc) (captures : Captures) (capture : ℕ) :
    Rc × Captures × Int32 :=
  match freeIndex rc with
  -- `ret` is returned without having been assigned.
  | none => (rc, captures, answer.unassigned)
  | some index =>
    let channel : RcChannel :=
      { capture := some capture, raw := 0, value := 0, retry := false, corret := false }
    let rc := rc.setChannel index channel
    if answer.setCallback < 0 then
      (rc.setChannel index { channel with capture := none }, captures, answer.setCallback)
    else
      let captures :=
        { captures with callback := Function.update captures.callback capture (some index) }
      -- On this error the channel keeps its capture unit and its callback.
      if answer.setPeriod < 0 then (rc, captures, answer.setPeriod)
      else
        let captures :=
          { captures with period := Function.update captures.period capture (some capturePeriod) }
        (rc, captures, Int32.ofNat index)

/-- The width of the last pulse, and 0 where there is none. -/
def rcGet (rc : Rc) (channel : Fin rcMaxChannels) : UInt32 :=
  if (rc.channelAt channel).corret then (rc.channelAt channel).value else 0

/-- `rc_setup` has succeeded with channel `c` and left the object `rc`. -/
def SetUp (rc : Rc) (c : Fin rcMaxChannels) : Prop :=
  ∃ answer before captures capture,
    freeIndex before = some c ∧ ¬ answer.setCallback < 0 ∧ ¬ answer.setPeriod < 0 ∧
      (rcSetup answer before captures capture).1 = rc

/-! ## Histories -/

/-- An interrupt that reaches the object. -/
inductive Event
  /-- An edge of a channel is captured. -/
  | edge (channel : Fin rcMaxChannels) (time : UInt64)
  /-- The timer overflows. -/
  | overflow
  deriving DecidableEq, Repr

/-- One interrupt. -/
def handle (rc : Rc) : Event → Rc
  | .edge channel time => rc.setChannel channel (rcIRQHandler time (rc.channelAt channel))
  | .overflow => rcOverfowHandler rc

/-- The object after the interrupts, in order. -/
def run (rc : Rc) (events : List Event) : Rc := events.foldl handle rc

/-- An interrupt as one channel sees it. -/
inductive Signal
  | edge (time : UInt64)
  | overflow
  deriving DecidableEq, Repr

/-- What one channel makes of a signal. -/
def RcChannel.respond (channel : RcChannel) : Signal → RcChannel
  | .edge time => rcIRQHandler time channel
  | .overflow => overflowChannel channel

/-- The edges of other channels do not concern channel `c`. -/
def ownSignal (c : Fin rcMaxChannels) : Event → Option Signal
  | .edge channel time => if channel = c then some (.edge time) else none
  | .overflow => some .overflow

variable {rc : Rc} {c : Fin rcMaxChannels} {events : List Event} {e : Event}

@[simp] theorem run_nil : run rc [] = rc := rfl

@[simp] theorem run_append_singleton : run rc (events ++ [e]) = handle (run rc events) e := by
  simp [run]

theorem handle_channel (rc : Rc) (e : Event) :
    (handle rc e).channelAt c =
      (ownSignal c e).elim (rc.channelAt c) fun signal => (rc.channelAt c).respond signal := by
  cases e with
  | edge channel time =>
    by_cases same : channel = c
    · subst same
      simp [handle, ownSignal, Rc.setChannel, Rc.channelAt, RcChannel.respond]
    · -- Another channel is another entry of the array.
      have hne : (channel : ℕ) ≠ c := fun h => same (Fin.ext h)
      simp [handle, ownSignal, Rc.setChannel, Rc.channelAt, same, Vector.getElem_set_ne _ _ hne]
  | overflow => simp [handle, ownSignal, rcOverfowHandler, Rc.channelAt, RcChannel.respond]

/-- **A channel sees only its own edges and the overflows.** -/
theorem run_channel (rc : Rc) (events : List Event) :
    (run rc events).channelAt c =
      (events.filterMap (ownSignal c)).foldl RcChannel.respond (rc.channelAt c) :=
  view_foldl (fun rc : Rc => rc.channelAt c) handle_channel rc events

/-- A channel that was just set up has seen no edge and holds no width. -/
theorem SetUp.channel (setUp : SetUp rc c) :
    (rc.channelAt c).raw = 0 ∧ (rc.channelAt c).retry = false ∧
      (rc.channelAt c).corret = false := by
  obtain ⟨answer, before, captures, capture, hfree, callback, period, rfl⟩ := setUp
  simp only [rcSetup, hfree, callback, period, ↓reduceIte]
  simp [Rc.setChannel, Rc.channelAt]

end TestSystem.RemoteControl
