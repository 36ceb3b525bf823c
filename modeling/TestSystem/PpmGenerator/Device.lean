import Mathlib

/-!
# The PPM generator

`src/vf610/ppm.c` drives one pin from a one-shot timer. A frame is a row of
channels, each a short high pulse and a low phase that carries the value of the
channel's slot, then a closing pulse and a pause. The interrupt of the timer
moves a five-state machine from one edge to the next.

The pin, the one-shot timer and the semaphore are fields of the generator here,
where the source holds pointers to them. The log records what the generator
does to them, oldest first; no function reads it.
-/

namespace TestSystem.PpmGenerator

/-- `PPM_MIN_TIME` in microseconds. -/
def ppmMinTime : UInt32 := 500

/-- `PPM_MAX_TIME` in microseconds. -/
def ppmMaxTime : UInt32 := 1500

/-- `enum ppm_state`. -/
inductive PpmState
  | stoped | start | data | last | pause
  deriving DecidableEq, Repr

/-- What the generator and its task do to the outside. -/
inductive Event
  /-- `ppm_start` is entered; `busy` tells that the timer was armed or the
  semaphore given at that moment. -/
  | started (busy : Bool)
  /-- The pin is driven. -/
  | level (high : Bool)
  /-- `ppm_data` reads a slot. -/
  | sample (index : ℕ) (value : UInt32)
  /-- `timer_oneshot` arms the timer while the pin has the given level. -/
  | oneshot (high : Bool) (us : UInt32)
  /-- `xSemaphoreGiveFromISR`; `full` tells that the semaphore was given already. -/
  | give (full : Bool)
  /-- `vTaskDelayUntil` returns after this many ticks. -/
  | delayed (ticks : UInt32)
  deriving DecidableEq, Repr

/-- The assertions of the source, and a read outside the slot table. -/
inductive Fault
  | pos
  | ret (ret : Int32)
  | slotBound
  deriving DecidableEq, Repr

/-- `struct ppm`. -/
structure Ppm where
  slots : UInt32
  slot : List UInt32
  timer : Option UInt32
  pin : Bool
  sem : Bool
  waittime : UInt32
  pos : UInt32
  state : PpmState
  sum : UInt32
  log : List Event
  deriving DecidableEq, Repr

/-! ## Drivers and kernel -/

/-- `gpioPin_setPin`. -/
def gpioPinSetPin (ppm : Ppm) : Ppm :=
  { ppm with pin := true, log := ppm.log ++ [.level true] }

/-- `gpioPin_clearPin`. -/
def gpioPinClearPin (ppm : Ppm) : Ppm :=
  { ppm with pin := false, log := ppm.log ++ [.level false] }

/-- `timer_oneshot` with the value the driver returns: a negative one means that
nothing was armed. -/
def timerOneshot (ret : Int32) (us : UInt32) (ppm : Ppm) : Ppm × Int32 :=
  if ret < 0 then (ppm, ret)
  else ({ ppm with timer := some us, log := ppm.log ++ [.oneshot ppm.pin us] }, ret)

/-- The semaphore is binary: giving a given one changes nothing. -/
def xSemaphoreGiveFromISR (ppm : Ppm) : Ppm :=
  { ppm with sem := true, log := ppm.log ++ [.give ppm.sem] }

/-! ## The functions of the source

Each takes the value that its call of `timer_oneshot` returns. -/

/-- The pin goes high for `PPM_MIN_TIME`, which the budget of the frame pays. -/
def ppmStartTransfer (ret : Int32) (ppm : Ppm) : Ppm × Int32 :=
  let ppm := gpioPinSetPin ppm
  let ppm := { ppm with sum := ppm.sum - ppmMinTime }
  let (ppm, ret) := timerOneshot ret ppmMinTime ppm
  if ret < 0 then (ppm, ret) else (ppm, 0)

/-- The slot value is held in an `int32_t`, whose sum with `PPM_MIN_TIME` goes
to the unsigned budget and to the timer. -/
def ppmData (ret : Int32) (ppm : Ppm) : Except Fault (Ppm × Int32) :=
  if ppm.pos < ppm.slots then
    match ppm.slot[ppm.pos.toNat]? with
    | none => .error .slotBound
    | some value =>
      -- `uint32_t` to `int32_t`: values from 2 ^ 31 on become negative.
      let time : Int32 := value.toInt32
      let ppm := { ppm with log := ppm.log ++ [Event.sample ppm.pos.toNat value] }
      let ppm := { ppm with
        pos := ppm.pos + 1
        state := .data
        sum := ppm.sum - (time + ppmMinTime.toInt32).toUInt32 }
      let ppm := gpioPinClearPin ppm
      let (ppm, ret) := timerOneshot ret (time + ppmMinTime.toInt32).toUInt32 ppm
      if ret < 0 then .ok (ppm, ret) else .ok (ppm, 0)
  else .error .pos

/-- The closing pulse of a frame. -/
def ppmLast (ret : Int32) (ppm : Ppm) : Ppm × Int32 := ppmStartTransfer ret ppm

/-- The timer is armed with what the task has left of the pause. -/
def ppmEndPause (ret : Int32) (ppm : Ppm) : Ppm × Int32 :=
  let (ppm, ret) := timerOneshot ret ppm.sum ppm
  if ret < 0 then (ppm, ret) else (ppm, 0)

/-- A frame begins: the state, the position and the budget are reset. -/
def ppmStart (ret : Int32) (ppm : Ppm) : Ppm × Int32 :=
  let ppm := { ppm with log := ppm.log ++ [Event.started (ppm.timer.isSome || ppm.sem)] }
  let ppm := { ppm with
    state := .start
    pos := 0
    sum := ppmMaxTime * ppm.slots + ppmMinTime * ppm.slots + ppmMinTime }
  ppmStartTransfer ret ppm

/-- Returns the scheduler flag, which the kernel sets to `woken` on a give. The
results of `ppm_endPause` and `ppm_start` are dropped. -/
def ppmPause (ret woken : Int32) (ppm : Ppm) : Ppm × Int32 :=
  let ppm := gpioPinClearPin ppm
  let ppm := { ppm with waittime := ppm.sum / 1000 }
  if ppm.waittime > 0 then
    let ppm := { ppm with sum := ppm.sum - ppm.waittime * 1000 }
    -- The rest of the budget is left for the task to wait for.
    (xSemaphoreGiveFromISR ppm, woken)
  else if ppm.sum > 0 then
    ((ppmEndPause ret ppm).1, 0)
  else
    ((ppmStart ret ppm).1, 0)

/-- `CONFIG_ASSERT(ret == 0)` and the return after it. -/
def assertRet (result : Ppm × Int32) : Except Fault (Ppm × Bool) :=
  if result.2 = 0 then .ok (result.1, false) else .error (.ret result.2)

/-- The interrupt of the one-shot timer. -/
def timerHandler (ret woken : Int32) (ppm : Ppm) : Except Fault (Ppm × Bool) :=
  match ppm.state with
  | .start => do
    let result ← ppmData ret { ppm with state := .data }
    assertRet result
  | .data =>
    if ppm.pos < ppm.slots then
      assertRet (ppmStartTransfer ret { ppm with state := .start })
    else
      assertRet (ppmLast ret { ppm with state := .last })
  | .last =>
    let (ppm, ret) := ppmPause ret woken { ppm with state := .pause }
    .ok (ppm, ret ≠ 0)
  | .pause => assertRet (ppmStart ret { ppm with state := .start })
  | .stoped => .ok (ppm, false)

/-! ## What each function does when the timer accepts -/

section Specs

variable {ret : Int32} {ppm : Ppm}

theorem timerOneshot_of_nonneg (accepted : ¬ ret < 0) (us : UInt32) :
    timerOneshot ret us ppm =
      ({ ppm with timer := some us, log := ppm.log ++ [.oneshot ppm.pin us] }, ret) := by
  simp [timerOneshot, accepted]

/-- The start pulse of a channel, and the closing pulse. -/
theorem ppmStartTransfer_of_nonneg (accepted : ¬ ret < 0) :
    ppmStartTransfer ret ppm =
      ({ ppm with
          timer := some 500
          pin := true
          sum := ppm.sum - 500
          log := ppm.log ++ [.level true, .oneshot true 500] }, 0) := by
  simp [ppmStartTransfer, timerOneshot_of_nonneg accepted, accepted, gpioPinSetPin, ppmMinTime]

/-- The low phase of a channel. -/
theorem ppmData_of_nonneg (accepted : ¬ ret < 0) (inRange : ppm.pos < ppm.slots)
    {value : UInt32} (read : ppm.slot[ppm.pos.toNat]? = some value) :
    ppmData ret ppm =
      .ok ({ ppm with
          timer := some (value + 500)
          pin := false
          pos := ppm.pos + 1
          state := .data
          sum := ppm.sum - (value + 500)
          log := ppm.log ++
            [.sample ppm.pos.toNat value, .level false, .oneshot false (value + 500)] }, 0) := by
  simp [ppmData, inRange, read, timerOneshot_of_nonneg accepted, accepted, gpioPinClearPin]
  rfl

theorem ppmEndPause_of_nonneg (accepted : ¬ ret < 0) :
    ppmEndPause ret ppm =
      ({ ppm with timer := some ppm.sum, log := ppm.log ++ [.oneshot ppm.pin ppm.sum] }, 0) := by
  simp [ppmEndPause, timerOneshot_of_nonneg accepted, accepted]

/-- The budget of a frame, in the arithmetic of the source. -/
def budget (slots : UInt32) : UInt32 :=
  ppmMaxTime * slots + ppmMinTime * slots + ppmMinTime

/-- A new frame: the budget is set and the first start pulse is out. -/
theorem ppmStart_of_nonneg (accepted : ¬ ret < 0) :
    ppmStart ret ppm =
      ({ ppm with
          timer := some 500
          pin := true
          pos := 0
          state := .start
          sum := budget ppm.slots - 500
          log := ppm.log ++ [.started (ppm.timer.isSome || ppm.sem),
            .level true, .oneshot true 500] }, 0) := by
  simp [ppmStart, ppmStartTransfer_of_nonneg accepted, budget]

/-! The interrupt, state by state. -/

theorem timerHandler_start (ret woken : Int32) (ppm : Ppm) (accepted : ¬ ret < 0)
    (state : ppm.state = .start) (inRange : ppm.pos < ppm.slots) {value : UInt32}
    (read : ppm.slot[ppm.pos.toNat]? = some value) :
    timerHandler ret woken ppm =
      .ok ({ ppm with
          timer := some (value + 500)
          pin := false
          pos := ppm.pos + 1
          state := .data
          sum := ppm.sum - (value + 500)
          log := ppm.log ++
            [.sample ppm.pos.toNat value, .level false, .oneshot false (value + 500)] },
        false) := by
  simp only [timerHandler, state]
  rw [ppmData_of_nonneg accepted (by exact inRange) (by exact read)]
  rfl

/-- More channels follow. -/
theorem timerHandler_data_next (ret woken : Int32) (ppm : Ppm) (accepted : ¬ ret < 0)
    (state : ppm.state = .data) (inRange : ppm.pos < ppm.slots) :
    timerHandler ret woken ppm =
      .ok ({ ppm with
          timer := some 500
          pin := true
          state := .start
          sum := ppm.sum - 500
          log := ppm.log ++ [.level true, .oneshot true 500] }, false) := by
  simp [timerHandler, state, inRange, ppmStartTransfer_of_nonneg accepted, assertRet]

/-- The last channel is out. -/
theorem timerHandler_data_last (ret woken : Int32) (ppm : Ppm) (accepted : ¬ ret < 0)
    (state : ppm.state = .data) (all : ¬ ppm.pos < ppm.slots) :
    timerHandler ret woken ppm =
      .ok ({ ppm with
          timer := some 500
          pin := true
          state := .last
          sum := ppm.sum - 500
          log := ppm.log ++ [.level true, .oneshot true 500] }, false) := by
  simp [timerHandler, state, all, ppmLast, ppmStartTransfer_of_nonneg accepted, assertRet]

/-- A pause of a millisecond or more goes to the task. -/
theorem timerHandler_last_give (ret woken : Int32) (ppm : Ppm) (state : ppm.state = .last)
    (whole : 0 < ppm.sum / 1000) :
    timerHandler ret woken ppm =
      .ok ({ ppm with
          pin := false
          sem := true
          waittime := ppm.sum / 1000
          state := .pause
          sum := ppm.sum - ppm.sum / 1000 * 1000
          log := ppm.log ++ [.level false, .give ppm.sem] }, woken ≠ 0) := by
  simp [timerHandler, state, ppmPause, gpioPinClearPin, whole, xSemaphoreGiveFromISR]

/-- A shorter pause goes to the one-shot timer. -/
theorem timerHandler_last_rest (ret woken : Int32) (ppm : Ppm) (accepted : ¬ ret < 0)
    (state : ppm.state = .last) (short : ¬ 0 < ppm.sum / 1000) (some_left : 0 < ppm.sum) :
    timerHandler ret woken ppm =
      .ok ({ ppm with
          timer := some ppm.sum
          pin := false
          waittime := ppm.sum / 1000
          state := .pause
          log := ppm.log ++ [.level false, .oneshot false ppm.sum] }, false) := by
  simp [timerHandler, state, ppmPause, gpioPinClearPin, short, some_left,
    ppmEndPause_of_nonneg accepted]

/-- With nothing left the next frame starts at once. -/
theorem timerHandler_last_direct (ret woken : Int32) (ppm : Ppm) (accepted : ¬ ret < 0)
    (state : ppm.state = .last) (none_left : ppm.sum = 0) :
    timerHandler ret woken ppm =
      .ok ({ ppm with
          timer := some 500
          pin := true
          waittime := 0
          pos := 0
          state := .start
          sum := budget ppm.slots - 500
          log := ppm.log ++ [.level false, .started (ppm.timer.isSome || ppm.sem),
            .level true, .oneshot true 500] }, false) := by
  simp [timerHandler, state, ppmPause, gpioPinClearPin, none_left, ppmStart_of_nonneg accepted]

theorem timerHandler_pause (ret woken : Int32) (ppm : Ppm) (accepted : ¬ ret < 0)
    (state : ppm.state = .pause) :
    timerHandler ret woken ppm =
      .ok ({ ppm with
          timer := some 500
          pin := true
          pos := 0
          state := .start
          sum := budget ppm.slots - 500
          log := ppm.log ++ [.started (ppm.timer.isSome || ppm.sem),
            .level true, .oneshot true 500] }, false) := by
  simp [timerHandler, state, ppmStart_of_nonneg accepted, assertRet]

end Specs

end TestSystem.PpmGenerator
