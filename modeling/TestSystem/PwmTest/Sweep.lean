import TestSystem.Counter.Sweep

/-!
# Duty cycles and deadlines that sweep

`ledTask` in the `test.c` of six boards and `pwmTask` of `src/vf610/pwmtest.c` move a
duty cycle up and down between two ends, `irqhandle` of `src/vf610/timer.c` does so with
the time to its next interrupt. The tasks turn before they reach an end, the interrupt
after it; all are sweeps between two heights.
-/

namespace TestSystem.PwmTest

open TestSystem.Counter

/-- The variables `up` and `n`. The boards give `n` different types. -/
@[ext]
structure Ramp where
  up : Bool
  n : ℤ
  deriving DecidableEq, Repr

/-- The branch of the two tasks: the turn at `top` or at 0 is one step ahead. -/
def Ramp.sweep (top d : ℤ) (s : Ramp) : Ramp :=
  if s.up then { up := if s.n ≥ top - d then false else s.up, n := s.n + d }
  else { up := if s.n ≤ d then true else s.up, n := s.n - d }

/-- The loop of `pwmTask`, up to `pwm_setDutyCycle`. -/
def pwmTask : Ramp → Ramp := Ramp.sweep 20000 500

/-- The variables of `ledTask`, with the last argument of `pwm_setDutyCycle` and the count of
`gpioPin_togglePin`. -/
structure Led where
  ramp : Ramp
  waittime : ℕ
  lastWakeUpTime : UInt32
  dutyCycle : Option ℤ
  toggles : ℕ
  deriving DecidableEq

/-- The variables before the loop. -/
def Led.start (lastWakeUpTime : UInt32) : Led where
  ramp := ⟨true, 10000⟩
  waittime := 20
  lastWakeUpTime := lastWakeUpTime
  dutyCycle := none
  toggles := 0

/-- `CONFIG_PWM` and `CONFIG_GPIO`. -/
structure Config where
  pwm : Bool
  gpio : Bool

/-- `vTaskDelayUntil`, with `waittime` milliseconds. -/
def Led.delay (portTICK_PERIOD_MS : ℕ) (s : Led) : Led :=
  { s with lastWakeUpTime := s.lastWakeUpTime + UInt32.ofNat (s.waittime / portTICK_PERIOD_MS) }

/-- A round of the loop of `ledTask`. A round in which `pwm_setDutyCycle` fails has no end:
the assertion stops it. -/
def ledRound (config : Config) (portTICK_PERIOD_MS : ℕ) (s : Led) : Led :=
  let ramp := s.ramp.sweep 20000 400
  let s := { s with ramp := ramp, dutyCycle := if config.pwm then some ramp.n else s.dutyCycle }
  let s :=
    if ramp.n = 0 ∨ ramp.n = 20000 then
      { s with waittime := 1000, toggles := if config.gpio then s.toggles + 1 else s.toggles }
    else { s with waittime := 20 }
  s.delay portTICK_PERIOD_MS

/-- The boards whose `test.c` has a duty cycle in `ledTask`. -/
inductive Board
  | vf610 | stm32 | imx6 | s32k | am57xx | linux
  deriving DecidableEq

namespace Board

/-- On s32k the pin stays as it is: the call at the ends is commented out. -/
def s32kRound (config : Config) (portTICK_PERIOD_MS : ℕ) (s : Led) : Led :=
  let ramp := s.ramp.sweep 20000 400
  let s := { s with ramp := ramp, dutyCycle := if config.pwm then some ramp.n else s.dutyCycle }
  let s :=
    if ramp.n = 0 ∨ ramp.n = 20000 then { s with waittime := 1000 } else { s with waittime := 20 }
  s.delay portTICK_PERIOD_MS

/-- On am57xx and linux nothing is done with `n` but to wait. -/
def bareRound (portTICK_PERIOD_MS : ℕ) (s : Led) : Led :=
  let ramp := s.ramp.sweep 20000 400
  let s := { s with ramp := ramp }
  let s :=
    if ramp.n = 0 ∨ ramp.n = 20000 then { s with waittime := 1000 } else { s with waittime := 20 }
  s.delay portTICK_PERIOD_MS

/-- A round of `ledTask` of each board. -/
def ledTask (config : Config) (portTICK_PERIOD_MS : ℕ) : Board → Led → Led
  | vf610 => ledRound config portTICK_PERIOD_MS
  | stm32 => ledRound config portTICK_PERIOD_MS
  | imx6 => ledRound config portTICK_PERIOD_MS
  | s32k => s32kRound config portTICK_PERIOD_MS
  | am57xx => bareRound portTICK_PERIOD_MS
  | linux => bareRound portTICK_PERIOD_MS

/-- What of the configuration makes a difference to the board. -/
def effective (config : Config) : Board → Config
  | vf610 | stm32 | imx6 => config
  | s32k => { config with gpio := false }
  | am57xx | linux => { pwm := false, gpio := false }

end Board

/-- The interrupt of the timer, up to `timer_oneshot`. -/
def irqhandle (s : Ramp) : Ramp :=
  let n := if s.up then s.n + 100 else s.n - 100
  { up := if n ≥ 1500 then false else if n ≤ 500 then true else s.up, n := n }

/-! ## One step -/

/-- A sweep of `steps` steps of `d` from `low`, after `k` steps. -/
def rampAt (low d : ℤ) (steps k : ℕ) : Ramp :=
  { up := decide (Rising steps k), n := low + d * height steps k }

variable {d : ℤ} {steps k : ℕ}

theorem Ramp.eq_of_iff {s t : Ramp} (up : s.up = true ↔ t.up = true) (n : s.n = t.n) : s = t :=
  Ramp.ext (Bool.eq_iff_iff.mpr up) n

/-- The turn is one step ahead of the end. -/
theorem ahead_of_top (hd : 0 < d) (rising : Rising steps k) :
    d * height steps k ≥ steps * d - d ↔ height steps (k + 1) = steps := by
  have next := height_succ_of_rising rising
  have split : (steps : ℤ) * d - d = d * ((steps : ℤ) - 1) := by ring
  have bound := height_le steps (k + 1)
  rw [ge_iff_le, split, mul_le_mul_iff_right₀ hd]
  omega

theorem ahead_of_bottom (hd : 0 < d) (pos : 0 < steps) (falling : ¬ Rising steps k) :
    d * height steps k ≤ d ↔ height steps (k + 1) = 0 := by
  have next := height_succ_of_falling pos falling
  have one : d * height steps k ≤ d * 1 ↔ (height steps k : ℤ) ≤ 1 := mul_le_mul_iff_right₀ hd
  rw [mul_one] at one
  rw [one]
  omega

theorem sweep_rampAt (hd : 0 < d) (pos : 0 < steps) :
    (rampAt 0 d steps k).sweep (steps * d) d = rampAt 0 d steps (k + 1) := by
  have turns := rising_succ_iff (k := k) pos
  apply Ramp.eq_of_iff
  · by_cases rising : Rising steps k
    · have ahead := ahead_of_top hd rising
      by_cases last : height steps (k + 1) = steps <;>
        simp [rampAt, Ramp.sweep, rising, turns, ahead, last]
    · have ahead := ahead_of_bottom hd pos rising
      by_cases last : height steps (k + 1) = 0 <;>
        simp [rampAt, Ramp.sweep, rising, turns, ahead, last]
  · by_cases rising : Rising steps k
    · have next := height_succ_of_rising rising
      simp only [rampAt, Ramp.sweep, rising, decide_true, if_true, next]
      push_cast
      ring
    · have next := height_succ_of_falling pos rising
      simp only [rampAt, Ramp.sweep, rising, decide_false, Bool.false_eq_true, if_false, ← next]
      push_cast
      ring

/-- The interrupt turns when it is at an end. -/
theorem irqhandle_rampAt : irqhandle (rampAt 500 100 10 k) = rampAt 500 100 10 (k + 1) := by
  have turns := rising_succ_iff (n := 10) (k := k) (by decide)
  have moved : (irqhandle (rampAt 500 100 10 k)).n = (rampAt 500 100 10 (k + 1)).n := by
    by_cases rising : Rising 10 k
    · have next := height_succ_of_rising rising
      simp only [rampAt, irqhandle, rising, decide_true, if_true, next]
      push_cast
      ring
    · have next := height_succ_of_falling (by decide) rising
      simp only [rampAt, irqhandle, rising, decide_false, Bool.false_eq_true, if_false, ← next]
      push_cast
      ring
  apply Ramp.eq_of_iff _ moved
  -- The deadline has moved before it is compared with the ends.
  have turned : (irqhandle (rampAt 500 100 10 k)).up =
      if (rampAt 500 100 10 (k + 1)).n ≥ 1500 then false
      else if (rampAt 500 100 10 (k + 1)).n ≤ 500 then true else (rampAt 500 100 10 k).up := by
    rw [← moved]
    rfl
  have bound := height_le 10 (k + 1)
  rw [turned]
  simp only [rampAt]
  by_cases rising : Rising 10 k
  · have next := height_succ_of_rising rising
    split_ifs <;> simp [turns, rising] <;> omega
  · have next := height_succ_of_falling (by decide) rising
    split_ifs <;> simp [turns, rising] <;> omega

/-! ## Any number of steps -/

/-- From above the upper end the deadline goes down to the lower end. -/
theorem irqhandle_descent (early : k < 196) : irqhandle^[k] ⟨false, 20100⟩ =
    ⟨false, 20100 - 100 * k⟩ := by
  induction k with
  | zero => rfl
  | succ k ih =>
    rw [Function.iterate_succ_apply', ih (Nat.lt_of_succ_lt early)]
    apply Ramp.eq_of_iff
    · simp only [irqhandle, Bool.false_eq_true, if_false]
      split_ifs <;> simp
      omega
    · simp only [irqhandle, Bool.false_eq_true, if_false]
      push_cast
      ring

/-- The first interrupt finds `n` above the upper end and `up` set. -/
theorem irqhandle_iterate_start : irqhandle^[197] ⟨true, 20000⟩ = rampAt 500 100 10 0 := by
  have first : irqhandle ⟨true, 20000⟩ = ⟨false, 20100⟩ := rfl
  rw [show 197 = 195 + 1 + 1 from rfl, Function.iterate_succ_apply, first,
    Function.iterate_succ_apply', irqhandle_descent (by decide)]
  decide

theorem irqhandle_iterate (k : ℕ) :
    irqhandle^[197 + k] ⟨true, 20000⟩ = rampAt 500 100 10 k := by
  induction k with
  | zero => exact irqhandle_iterate_start
  | succ k ih => rw [← Nat.add_assoc, Function.iterate_succ_apply', ih, irqhandle_rampAt]

/-- **The deadlines of the timer.** They go down from 20100 to 500 and then up and down
between 500 and 1500, by 100 at each interrupt. -/
theorem irqhandle_deadlines (k : ℕ) :
    (k < 196 → (irqhandle^[k + 1] ⟨true, 20000⟩).n = 20100 - 100 * k) ∧
      (196 ≤ k → (irqhandle^[k + 1] ⟨true, 20000⟩).n = 500 + 100 * height 10 (k - 196)) ∧
      500 ≤ (irqhandle^[k + 1] ⟨true, 20000⟩).n ∧
      (irqhandle^[k + 1] ⟨true, 20000⟩).n ≤ 20100 := by
  rcases Nat.lt_or_ge k 196 with early | late
  · have first : irqhandle ⟨true, 20000⟩ = ⟨false, 20100⟩ := rfl
    rw [Function.iterate_succ_apply, first, irqhandle_descent early]
    refine ⟨fun _ => rfl, fun late => absurd late (Nat.not_le.mpr early), ?_, ?_⟩
    · simp only
      omega
    · simp only
      omega
  · obtain ⟨j, rfl⟩ := Nat.exists_eq_add_of_le late
    have bound := height_le 10 j
    rw [Nat.add_right_comm, irqhandle_iterate]
    simp only [rampAt, Nat.add_sub_cancel_left]
    exact ⟨fun early => by omega, fun _ => trivial, by omega, by omega⟩

/-! ## The LED task -/

/-- The wait after round `i`. -/
def waitAfter (i : ℕ) : ℕ := if 50 ∣ 25 + (i + 1) then 1000 else 20

/-- The ticks that the task waits in its first `k` rounds. -/
def waited (portTICK_PERIOD_MS k : ℕ) : ℕ :=
  ∑ i ∈ Finset.range k, waitAfter i / portTICK_PERIOD_MS

variable {config : Config} {portTICK_PERIOD_MS : ℕ} {start : UInt32}

/-- The boards differ in what they do at a duty cycle, not in the duty cycles. -/
theorem ledTask_eq_ledRound (board : Board) :
    board.ledTask config portTICK_PERIOD_MS =
      ledRound (board.effective config) portTICK_PERIOD_MS := by
  cases board with
  | vf610 | stm32 | imx6 => rfl
  | s32k => simp [Board.ledTask, Board.effective, ledRound, Board.s32kRound, funext_iff]
  | am57xx | linux =>
    simp [Board.ledTask, Board.effective, ledRound, Board.bareRound, funext_iff]

theorem at_end_rampAt (k : ℕ) :
    (rampAt 0 400 50 k).n = 0 ∨ (rampAt 0 400 50 k).n = 20000 ↔ 50 ∣ k := by
  rw [← at_end_iff (n := 50) (by decide)]
  simp only [rampAt]
  omega

/-- The state of the task after `k` rounds. -/
def ledAfter (config : Config) (portTICK_PERIOD_MS : ℕ) (start : UInt32) (k : ℕ) : Led where
  ramp := rampAt 0 400 50 (25 + k)
  waittime := if k = 0 then 20 else waitAfter (k - 1)
  lastWakeUpTime := start + UInt32.ofNat (waited portTICK_PERIOD_MS k)
  dutyCycle := if config.pwm ∧ k ≠ 0 then some (400 * height 50 (25 + k)) else none
  toggles := if config.gpio then (25 + k) / 50 else 0

theorem ledRound_ledAfter (k : ℕ) :
    ledRound config portTICK_PERIOD_MS (ledAfter config portTICK_PERIOD_MS start k) =
      ledAfter config portTICK_PERIOD_MS start (k + 1) := by
  have ramp : (rampAt 0 400 50 (25 + k)).sweep 20000 400 = rampAt 0 400 50 (25 + (k + 1)) :=
    sweep_rampAt (by decide) (by decide)
  have duty : (rampAt 0 400 50 (25 + (k + 1))).n = 400 * height 50 (25 + (k + 1)) := zero_add _
  have ends := at_end_rampAt (25 + (k + 1))
  rw [duty] at ends
  have counts : (25 + (k + 1)) / 50 = (25 + k) / 50 + if 50 ∣ 25 + (k + 1) then 1 else 0 :=
    Nat.succ_div
  have sum : waited portTICK_PERIOD_MS (k + 1) =
      waited portTICK_PERIOD_MS k + waitAfter k / portTICK_PERIOD_MS := Finset.sum_range_succ _ _
  unfold ledRound
  simp only [ledAfter, Led.delay, ramp, ends, duty, counts, sum, UInt32.ofNat_add, waitAfter,
    Nat.add_sub_cancel, Nat.succ_ne_zero, if_false, ← UInt32.add_assoc]
  by_cases turn : 50 ∣ 25 + (k + 1) <;> cases config.pwm <;> cases config.gpio <;> simp [turn]

theorem ledTask_iterate (board : Board) (k : ℕ) :
    (board.ledTask config portTICK_PERIOD_MS)^[k] (Led.start start) =
      ledAfter (board.effective config) portTICK_PERIOD_MS start k := by
  induction k with
  | zero => simp [Led.start, ledAfter, waited]; decide
  | succ k ih =>
    rw [Function.iterate_succ_apply', ih, ledTask_eq_ledRound, ledRound_ledAfter]

/-- A hundred rounds wait at each end once. -/
theorem waited_add_period (k : ℕ) : waited portTICK_PERIOD_MS (k + 100) =
    waited portTICK_PERIOD_MS k + (2 * (1000 / portTICK_PERIOD_MS) +
      98 * (20 / portTICK_PERIOD_MS)) := by
  have again (i : ℕ) : waitAfter (100 + i) = waitAfter i := by
    have same : 50 ∣ 25 + (100 + i + 1) ↔ 50 ∣ 25 + (i + 1) := by omega
    simp only [waitAfter, same]
  have ends : (Finset.filter (fun i => 50 ∣ 25 + (i + 1)) (Finset.range 100)).card = 2 := by
    decide
  have others : (Finset.filter (fun i => ¬ 50 ∣ 25 + (i + 1)) (Finset.range 100)).card = 98 := by
    decide
  have whole : waited portTICK_PERIOD_MS 100 =
      2 * (1000 / portTICK_PERIOD_MS) + 98 * (20 / portTICK_PERIOD_MS) := by
    unfold waited waitAfter
    simp only [apply_ite (· / portTICK_PERIOD_MS), Finset.sum_ite, Finset.sum_const, ends, others,
      smul_eq_mul]
  rw [Nat.add_comm k, waited, Finset.sum_range_add]
  simp only [again]
  rw [← waited, ← waited, whole, Nat.add_comm]

/-- A hundred rounds are one sweep up and down. -/
theorem ramp_add_period (k : ℕ) : rampAt 0 400 50 (25 + (k + 100)) = rampAt 0 400 50 (25 + k) := by
  have again : height 50 (25 + k + 2 * 50) = height 50 (25 + k) := periodic_height 50 _
  have rises : Rising 50 (25 + k + 2 * 50) ↔ Rising 50 (25 + k) := by
    rw [Rising, phase, Nat.add_mod_right, ← phase, ← Rising]
  rw [← Nat.add_assoc]
  apply Ramp.eq_of_iff
  · simp only [rampAt, decide_eq_true_iff]
    exact rises
  · simp only [rampAt]
    rw [again]

theorem le_waitAfter (k : ℕ) : 20 ≤ waitAfter k := by
  unfold waitAfter
  split <;> decide

/-- **The LED sweeps between 0 and 20000.** After `k` rounds the duty cycle is on a
triangle wave of a hundred rounds, so that `n` neither wraps nor leaves the range. The board
sets it, toggles the pin once at each end, or does not, as it is configured and written. The
task waits longer at the two ends, in each round at least a tick, and one sweep up and down
always takes the same time. -/
theorem led_sweeps (board : Board) (config : Config) {portTICK_PERIOD_MS : ℕ}
    (period : 0 < portTICK_PERIOD_MS ∧ portTICK_PERIOD_MS ≤ 20) (k : ℕ) (start : UInt32) :
    ((board.ledTask config portTICK_PERIOD_MS)^[k] (Led.start start)).ramp.n =
        400 * height 50 (25 + k) ∧
      height 50 (25 + k) ≤ 50 ∧
      ((board.ledTask config portTICK_PERIOD_MS)^[k + 1] (Led.start start)).dutyCycle =
        (if (board.effective config).pwm then
          some ((board.ledTask config portTICK_PERIOD_MS)^[k + 1] (Led.start start)).ramp.n
        else none) ∧
      ((board.ledTask config portTICK_PERIOD_MS)^[k] (Led.start start)).toggles =
        (if (board.effective config).gpio then (25 + k) / 50 else 0) ∧
      ((board.ledTask config portTICK_PERIOD_MS)^[k + 1] (Led.start start)).waittime =
        (if ((board.ledTask config portTICK_PERIOD_MS)^[k + 1] (Led.start start)).ramp.n = 0 ∨
          ((board.ledTask config portTICK_PERIOD_MS)^[k + 1] (Led.start start)).ramp.n = 20000
        then 1000 else 20) ∧
      1 ≤ ((board.ledTask config portTICK_PERIOD_MS)^[k + 1] (Led.start start)).waittime /
        portTICK_PERIOD_MS ∧
      ((board.ledTask config portTICK_PERIOD_MS)^[k + 100] (Led.start start)).ramp =
        ((board.ledTask config portTICK_PERIOD_MS)^[k] (Led.start start)).ramp ∧
      ((board.ledTask config portTICK_PERIOD_MS)^[k + 100] (Led.start start)).lastWakeUpTime =
        ((board.ledTask config portTICK_PERIOD_MS)^[k] (Led.start start)).lastWakeUpTime +
          UInt32.ofNat (2 * (1000 / portTICK_PERIOD_MS) + 98 * (20 / portTICK_PERIOD_MS)) := by
  simp only [ledTask_iterate]
  refine ⟨zero_add _, height_le 50 _, ?_, rfl, ?_, ?_, ?_, ?_⟩
  · have duty : (rampAt 0 400 50 (25 + (k + 1))).n = 400 * height 50 (25 + (k + 1)) := zero_add _
    simp [ledAfter, duty]
  · simp only [ledAfter, at_end_rampAt, Nat.succ_ne_zero, if_false]
    rfl
  · have waits : (ledAfter (board.effective config) portTICK_PERIOD_MS start (k + 1)).waittime =
        waitAfter k := by simp [ledAfter]
    rw [waits, Nat.one_le_div_iff period.1]
    exact period.2.trans (le_waitAfter k)
  · exact ramp_add_period k
  · simp only [ledAfter, waited_add_period, UInt32.ofNat_add, UInt32.add_assoc]

/-- After 25 rounds a board with an LED has toggled the pin once, and s32k has not. -/
theorem led_sweeps_first :
    ((Board.vf610.ledTask ⟨true, true⟩ 1)^[25] (Led.start 0)).toggles = 1 ∧
      ((Board.s32k.ledTask ⟨true, true⟩ 1)^[25] (Led.start 0)).toggles = 0 :=
  ⟨(led_sweeps .vf610 ⟨true, true⟩ (by decide) 25 0).2.2.2.1,
    (led_sweeps .s32k ⟨true, true⟩ (by decide) 25 0).2.2.2.1⟩

end TestSystem.PwmTest
