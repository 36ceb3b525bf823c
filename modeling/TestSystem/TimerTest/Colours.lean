import TestSystem.Counter.Sweep
import Mathlib

/-!
# The colours of the timer test

Without a PWM unit the timer interrupt of `src/s32k/timer.c` and `src/kv4x/timer.c` dims
three LEDs itself: it sets their pins, waits a part of `MAX_TIME`, clears them, waits the
rest, and changes the part by a step. When the LEDs have become dark it goes on to the
next colour. A set pin is a dark LED.

The part is a `float` of C. What the interrupt does with it is a parameter, of which the
facts are assumed that hold for its arithmetic.
-/

namespace TestSystem.TimerTest.Colours

/-- `MAX_TIME`. -/
def maxTime : ℕ := 21000

/-- The arithmetic on the variable `n`. -/
structure Brightness (F : Type*) where
  /-- `MAX_TIME / 2`. -/
  start : F
  zero : F
  one : F
  /-- `n += 0.05` and `n -= 0.05`. -/
  raise : F → F
  lower : F → F
  /-- `n >= 1.0` and `n <= 0`. -/
  atTop : F → Bool
  atBottom : F → Bool
  /-- `MAX_TIME - (n * MAX_TIME)`. -/
  duty : F → ℕ

/-- The variables of the file, the pins, and the time that the timer was given. -/
structure Lamp (F : Type*) where
  on : Bool
  up : Bool
  n : F
  state : ℕ
  rgbPins : BitVec 32
  pins : Fin 3 → Bool
  armed : ℕ
  deriving DecidableEq

variable {F : Type*} (b : Brightness F)

/-- After `timertest_init`. -/
def boot : Lamp F where
  on := true
  up := true
  n := b.start
  state := 0
  rgbPins := 1
  pins _ := true
  armed := maxTime / 2

/-- `switch (state++)`. -/
def colourOf (rgbPins : BitVec 32) : ℕ → BitVec 32
  | 0 => 1
  | 1 => 2
  | 2 => 4
  | 3 => 3
  | 4 => 6
  | 5 => 5
  | 6 => 7
  | _ => rgbPins

/-- The second `if (on)`. -/
def move (s : Lamp F) : Lamp F :=
  let n := if s.up then b.raise s.n else b.lower s.n
  if b.atTop n then { s with n := b.one, up := false }
  else if b.atBottom n then
    let state := if s.state = 7 then 0 else s.state
    { s with
      n := b.zero
      up := true
      rgbPins := colourOf s.rgbPins state
      state := state + 1 }
  else { s with n := n }

/-- The timer has elapsed: the pins change and it is armed for the other part of the period. -/
def irqhandle (adjust : ℕ → ℕ) (s : Lamp F) : Lamp F :=
  -- The selected pins are set or cleared, the others keep their level.
  let s := { s with pins := fun i => if s.rgbPins.getLsbD i then s.on else s.pins i }
  let s := if s.on then move b s else s
  let m := adjust (b.duty s.n)
  { s with armed := if s.on then m else maxTime - m, on := !s.on }

namespace S32k

/-- The time is used as it is computed. -/
def adjust (m : ℕ) : ℕ := m

end S32k

namespace Kv4x

/-- No phase is empty. -/
def adjust (m : ℕ) : ℕ :=
  let m := if m = 0 then 100 else m
  if m = maxTime then maxTime - 100 else m

end Kv4x

/-- The brightness goes from one end to the other in a fixed number of steps, and
yields a part of `MAX_TIME`. The first step starts above the upper end. -/
structure Steps (b : Brightness F) where
  rise : ℕ
  fall : ℕ
  rise_pos : 0 < rise
  fall_pos : 0 < fall
  first : b.atTop (b.raise b.start) = true
  rises : ∀ i, i + 1 < rise →
    b.atTop (b.raise^[i + 1] b.zero) = false ∧ b.atBottom (b.raise^[i + 1] b.zero) = false
  top : b.atTop (b.raise^[rise] b.zero) = true
  falls : ∀ i, i + 1 < fall →
    b.atTop (b.lower^[i + 1] b.one) = false ∧ b.atBottom (b.lower^[i + 1] b.one) = false
  bottom : b.atTop (b.lower^[fall] b.one) = false ∧ b.atBottom (b.lower^[fall] b.one) = true
  duty_zero : b.duty b.zero ≤ maxTime
  duty_one : b.duty b.one ≤ maxTime
  duty_between : ∀ n, b.atTop n = false → b.atBottom n = false → b.duty n ≤ maxTime

variable {b} (steps : Steps b)

namespace Steps

/-- How many rounds one fade takes. -/
def period : ℕ := steps.fall + steps.rise

/-- The brightness and the direction after so many moves. -/
def levelAt : ℕ → F × Bool
  | 0 => (b.start, true)
  | j + 1 =>
    if j % steps.period < steps.fall then (b.lower^[j % steps.period] b.one, false)
    else (b.raise^[j % steps.period - steps.fall] b.zero, true)

/-- How often the LEDs have become dark. -/
def bottoms : ℕ → ℕ
  | 0 => 0
  | j + 1 => (j + steps.rise) / steps.period

end Steps

/-- The colour after the LEDs have become dark so often. -/
def colourAt : ℕ → BitVec 32
  | 0 => 1
  | c + 1 => colourOf 0 (c % 7)

/-- The state of the machine after the LEDs have become dark so often. -/
def stateAt : ℕ → ℕ
  | 0 => 0
  | c + 1 => c % 7 + 1

theorem colourOf_of_lt (rgbPins : BitVec 32) {k : ℕ} (inside : k < 7) :
    colourOf rgbPins k = colourOf 0 k := by
  interval_cases k <;> rfl

/-- The colours follow each other in the order of the cases, over and over. -/
theorem next_colour (c : ℕ) (rgbPins : BitVec 32) :
    (colourOf rgbPins (if stateAt c = 7 then 0 else stateAt c) = colourAt (c + 1)) ∧
      (if stateAt c = 7 then 0 else stateAt c) + 1 = stateAt (c + 1) := by
  cases c with
  | zero => exact ⟨rfl, rfl⟩
  | succ c =>
    have wraps : (if stateAt (c + 1) = 7 then 0 else stateAt (c + 1)) = (c + 1) % 7 := by
      by_cases last : c % 7 + 1 = 7 <;> simp only [stateAt, last] <;> simp <;> omega
    rw [wraps]
    exact ⟨colourOf_of_lt rgbPins (Nat.mod_lt _ (by decide)), rfl⟩

/-! ## Moves -/

section Moves

variable {steps} {j : ℕ}

theorem Steps.period_pos : 0 < steps.period := Nat.add_pos_left steps.fall_pos _

/-- The LEDs become dark at the end of the fall. -/
theorem bottoms_succ : steps.bottoms (j + 2) =
    steps.bottoms (j + 1) + if j % steps.period + 1 = steps.fall then 1 else 0 := by
  have below : j % steps.period < steps.period := Nat.mod_lt j steps.period_pos
  have size : steps.period = steps.fall + steps.rise := rfl
  have fall := steps.fall_pos
  have whole := Nat.div_add_mod j steps.period
  have next : steps.period ∣ j + steps.rise + 1 ↔ j % steps.period + 1 = steps.fall := by
    have shift : j + steps.rise + 1 =
        j % steps.period + steps.rise + 1 + steps.period * (j / steps.period) := by omega
    rw [shift, Nat.dvd_add_left (Nat.dvd_mul_right _ _)]
    constructor
    · intro whole
      -- The sum is positive and less than two periods.
      have one : j % steps.period + steps.rise + 1 = steps.period :=
        Nat.eq_of_dvd_of_lt_two_mul (Nat.succ_ne_zero _) whole (by omega)
      omega
    · intro last
      exact ⟨1, by omega⟩
  have sum : j + 1 + steps.rise = j + steps.rise + 1 := by omega
  simp only [Steps.bottoms, sum, Nat.succ_div, next]

theorem bottoms_one : steps.bottoms 1 = 0 := by
  have size : steps.period = steps.fall + steps.rise := rfl
  have fall := steps.fall_pos
  simp only [Steps.bottoms, Nat.zero_add]
  exact Nat.div_eq_of_lt (by omega)

/-- What the moves have done to the variables. -/
structure Moved (steps : Steps b) (j : ℕ) (s : Lamp F) : Prop where
  level : (s.n, s.up) = steps.levelAt j
  colour : s.rgbPins = colourAt (steps.bottoms j)
  state : s.state = stateAt (steps.bottoms j)

variable {s : Lamp F}

theorem levelAt_succ : steps.levelAt (j + 1) =
    if j % steps.period < steps.fall then (b.lower^[j % steps.period] b.one, false)
    else (b.raise^[j % steps.period - steps.fall] b.zero, true) := rfl

theorem Moved.of_top (moved : Moved steps j s) {n : F}
    (hn : (if s.up then b.raise s.n else b.lower s.n) = n) (top : b.atTop n = true)
    (level : steps.levelAt (j + 1) = (b.one, false))
    (same : steps.bottoms (j + 1) = steps.bottoms j) : Moved steps (j + 1) (move b s) := by
  have after : move b s = { s with n := b.one, up := false } := by simp [move, hn, top]
  rw [after]
  exact ⟨level.symm, by rw [same]; exact moved.colour, by rw [same]; exact moved.state⟩

theorem Moved.of_bottom (moved : Moved steps j s) {n : F}
    (hn : (if s.up then b.raise s.n else b.lower s.n) = n) (low : b.atTop n = false)
    (bottom : b.atBottom n = true) (level : steps.levelAt (j + 1) = (b.zero, true))
    (more : steps.bottoms (j + 1) = steps.bottoms j + 1) : Moved steps (j + 1) (move b s) := by
  obtain ⟨colour, state⟩ := next_colour (steps.bottoms j) s.rgbPins
  rw [← moved.state, ← more] at colour state
  have after : move b s =
      { s with
        n := b.zero
        up := true
        rgbPins := colourAt (steps.bottoms (j + 1))
        state := stateAt (steps.bottoms (j + 1)) } := by
    simp [move, hn, low, bottom, colour, state]
  rw [after]
  exact ⟨level.symm, rfl, rfl⟩

theorem Moved.of_between (moved : Moved steps j s) {n : F}
    (hn : (if s.up then b.raise s.n else b.lower s.n) = n) (low : b.atTop n = false)
    (high : b.atBottom n = false) (level : steps.levelAt (j + 1) = (n, s.up))
    (same : steps.bottoms (j + 1) = steps.bottoms j) : Moved steps (j + 1) (move b s) := by
  have after : move b s = { s with n := n } := by simp [move, hn, low, high]
  rw [after]
  exact ⟨level.symm, by rw [same]; exact moved.colour, by rw [same]; exact moved.state⟩

/-- A move of the fall, at whose end the colour changes. -/
theorem Moved.move_of_falling (moved : Moved steps (j + 1) s)
    (falling : j % steps.period < steps.fall) : Moved steps (j + 2) (move b s) := by
  have period : steps.period = steps.fall + steps.rise := rfl
  have rise := steps.rise_pos
  have level := moved.level
  have count : steps.bottoms (j + 2) = _ := bottoms_succ
  have wraps := Counter.succ_mod_eq_ite steps.period_pos j
  rw [levelAt_succ, if_pos falling] at level
  obtain ⟨n, up⟩ := Prod.mk.inj level
  have hn : (if s.up then b.raise s.n else b.lower s.n) =
      b.lower^[j % steps.period + 1] b.one := by
    simp [n, up, Function.iterate_succ_apply']
  rw [if_neg (by omega)] at wraps
  by_cases last : j % steps.period + 1 = steps.fall
  · obtain ⟨low, bottom⟩ := steps.bottom
    rw [← last] at low bottom
    apply moved.of_bottom hn low bottom
    · rw [levelAt_succ, wraps, if_neg (by omega), last, Nat.sub_self]
      rfl
    · rw [count, if_pos last]
  · obtain ⟨low, high⟩ := steps.falls (j % steps.period) (by omega)
    apply moved.of_between hn low high
    · rw [levelAt_succ, wraps, if_pos (by omega), up]
    · rw [count, if_neg last]
      rfl

/-- A move of the rise, which leaves the colour. -/
theorem Moved.move_of_rising (moved : Moved steps (j + 1) s)
    (rising : ¬ j % steps.period < steps.fall) : Moved steps (j + 2) (move b s) := by
  have period : steps.period = steps.fall + steps.rise := rfl
  have fall := steps.fall_pos
  have below : j % steps.period < steps.period := Nat.mod_lt j steps.period_pos
  have level := moved.level
  have count : steps.bottoms (j + 2) = _ := bottoms_succ
  have wraps := Counter.succ_mod_eq_ite steps.period_pos j
  rw [levelAt_succ, if_neg rising] at level
  obtain ⟨n, up⟩ := Prod.mk.inj level
  have further : j % steps.period + 1 - steps.fall = j % steps.period - steps.fall + 1 := by
    omega
  have hn : (if s.up then b.raise s.n else b.lower s.n) =
      b.raise^[j % steps.period - steps.fall + 1] b.zero := by
    simp [n, up, Function.iterate_succ_apply']
  have notLast : ¬ j % steps.period + 1 = steps.fall := by omega
  rw [if_neg notLast] at count
  by_cases last : j % steps.period + 1 = steps.period
  -- The top is where the next fall begins: the place is 0 again.
  · have top := steps.top
    rw [show steps.rise = j % steps.period - steps.fall + 1 by omega] at top
    apply moved.of_top hn top
    · rw [levelAt_succ, wraps, if_pos last, if_pos fall]
      rfl
    · exact count
  · obtain ⟨low, high⟩ := steps.rises (j % steps.period - steps.fall) (by omega)
    rw [if_neg last] at wraps
    apply moved.of_between hn low high
    · rw [levelAt_succ, wraps, if_neg (by omega), further, up]
    · exact count

/-- One move goes on to the next level, colour and state. -/
theorem Moved.move (moved : Moved steps j s) : Moved steps (j + 1) (move b s) := by
  cases j with
  | zero =>
    -- Whatever the brightness starts at, raising it leads past the upper end.
    obtain ⟨n, up⟩ := Prod.mk.inj moved.level
    apply moved.of_top (n := b.raise b.start) (by simp [n, up]) steps.first
    · rw [levelAt_succ, Nat.zero_mod, if_pos steps.fall_pos]
      rfl
    · exact bottoms_one
  | succ j =>
    by_cases falling : j % steps.period < steps.fall
    · exact moved.move_of_falling falling
    · exact moved.move_of_rising falling

end Moves

/-! ## The two interrupts of a round -/

section Rounds

variable {steps} {adjust : ℕ → ℕ} {s : Lamp F} {j : ℕ}

/-- Before the pins of the colour are set, all other LEDs are dark. -/
structure Ready (steps : Steps b) (j : ℕ) (s : Lamp F) : Prop where
  on : s.on = true
  moved : Moved steps j s
  others : ∀ i : Fin 3, s.rgbPins.getLsbD i = false → s.pins i = true

/-- All LEDs are dark for the part that the brightness leaves. -/
structure Dark (steps : Steps b) (adjust : ℕ → ℕ) (j : ℕ) (s : Lamp F) : Prop where
  on : s.on = false
  moved : Moved steps j s
  dark : ∀ i : Fin 3, s.pins i = true
  armed : s.armed = adjust (b.duty s.n)

/-- The LEDs of the colour are lit for the rest. -/
structure Lit (steps : Steps b) (adjust : ℕ → ℕ) (j : ℕ) (s : Lamp F) : Prop where
  on : s.on = true
  moved : Moved steps j s
  lit : ∀ i : Fin 3, s.pins i = !s.rgbPins.getLsbD i
  armed : s.armed = maxTime - adjust (b.duty s.n)

theorem ready_boot : Ready steps 0 (boot b) where
  on := rfl
  moved := ⟨rfl, rfl, rfl⟩
  others _ _ := rfl

theorem Lit.ready (lit : Lit steps adjust j s) : Ready steps j s where
  on := lit.on
  moved := lit.moved
  others i dark := by rw [lit.lit i, dark, Bool.not_false]

/-- The move leaves the pins, so the old colour is dark when the new one begins. -/
theorem Ready.dark (ready : Ready steps j s) :
    Dark steps adjust (j + 1) (irqhandle b adjust s) := by
  have moved : Moved steps j
      { s with pins := fun i => if s.rgbPins.getLsbD i then s.on else s.pins i } :=
    ⟨ready.moved.level, ready.moved.colour, ready.moved.state⟩
  -- The handler writes the pins of the old colour before it moves on.
  have after : irqhandle b adjust s =
      { move b { s with pins := fun i => if s.rgbPins.getLsbD i then s.on else s.pins i } with
        armed := adjust (b.duty (move b
          { s with pins := fun i => if s.rgbPins.getLsbD i then s.on else s.pins i }).n)
        on := false } := by
    have kept (s : Lamp F) : (move b s).on = s.on := by
      dsimp only [move]
      split_ifs <;> rfl
    simp only [irqhandle, ready.on, if_true, kept, Bool.not_true]
  have pins (s : Lamp F) : (move b s).pins = s.pins := by
    dsimp only [move]
    split_ifs <;> rfl
  rw [after]
  refine ⟨rfl, ⟨moved.move.level, moved.move.colour, moved.move.state⟩, fun i => ?_, rfl⟩
  simp only [pins, ready.on]
  cases selected : s.rgbPins.getLsbD i with
  | true => rfl
  | false => simpa using ready.others i selected

theorem Dark.lit (dark : Dark steps adjust j s) : Lit steps adjust j (irqhandle b adjust s) := by
  have after : irqhandle b adjust s =
      { s with
        pins := fun i => if s.rgbPins.getLsbD i then false else s.pins i
        armed := maxTime - adjust (b.duty s.n)
        on := true } := by
    simp [irqhandle, dark.on]
  rw [after]
  refine ⟨rfl, ⟨dark.moved.level, dark.moved.colour, dark.moved.state⟩, fun i => ?_, rfl⟩
  simp only [dark.dark i]
  cases s.rgbPins.getLsbD i <;> rfl

theorem ready_of_rounds (j : ℕ) : Ready steps j ((irqhandle b adjust)^[2 * j] (boot b)) := by
  induction j with
  | zero => exact ready_boot
  | succ j ih =>
    rw [Nat.mul_succ, Function.iterate_succ_apply', Function.iterate_succ_apply']
    exact ih.dark.lit.ready

/-- The computed part is a part. -/
theorem Moved.duty_le (moved : Moved steps (j + 1) s) : b.duty s.n ≤ maxTime := by
  have period := steps.period_pos
  have below : j % steps.period < steps.period := Nat.mod_lt j period
  have size : steps.period = steps.fall + steps.rise := rfl
  have level := moved.level
  rw [levelAt_succ] at level
  split at level
  case isTrue falling =>
    rw [(Prod.mk.inj level).1]
    cases place : j % steps.period with
    | zero => exact steps.duty_one
    | succ i =>
      obtain ⟨low, high⟩ := steps.falls i (by omega)
      exact steps.duty_between _ low high
  case isFalse rising =>
    rw [(Prod.mk.inj level).1]
    cases place : j % steps.period - steps.fall with
    | zero => exact steps.duty_zero
    | succ i =>
      obtain ⟨low, high⟩ := steps.rises i (by omega)
      exact steps.duty_between _ low high

end Rounds

theorem adjust_le {adjust : ℕ → ℕ} (board : adjust = S32k.adjust ∨ adjust = Kv4x.adjust) {m : ℕ}
    (part : m ≤ maxTime) : adjust m ≤ maxTime := by
  rcases board with rfl | rfl
  · exact part
  · unfold Kv4x.adjust maxTime at *
    dsimp only
    split_ifs <;> omega

/-- On the second board no phase is empty. -/
theorem adjust_inside {m : ℕ} (part : m ≤ maxTime) :
    0 < Kv4x.adjust m ∧ Kv4x.adjust m < maxTime := by
  unfold Kv4x.adjust maxTime at *
  dsimp only
  split_ifs <;> omega

/-- **The LEDs show one colour after the other.** In each round of two interrupts all LEDs
are dark first, and then exactly those of the colour are lit; the two phases add up to
`MAX_TIME`. The colours follow in the order of the switch, each for one sweep of the
brightness. On the second board neither phase is empty. -/
theorem colours_cycle {adjust : ℕ → ℕ} (board : adjust = S32k.adjust ∨ adjust = Kv4x.adjust)
    (j : ℕ) :
    (∀ i, ((irqhandle b adjust)^[2 * j + 1] (boot b)).pins i = true) ∧
      (∀ i, ((irqhandle b adjust)^[2 * j + 2] (boot b)).pins i =
        !(colourAt ((j + steps.rise) / (steps.fall + steps.rise))).getLsbD i) ∧
      ((irqhandle b adjust)^[2 * j + 1] (boot b)).armed +
        ((irqhandle b adjust)^[2 * j + 2] (boot b)).armed = maxTime ∧
      (adjust = Kv4x.adjust → 0 < ((irqhandle b adjust)^[2 * j + 1] (boot b)).armed ∧
        0 < ((irqhandle b adjust)^[2 * j + 2] (boot b)).armed) := by
  have dark : Dark steps adjust (j + 1) ((irqhandle b adjust)^[2 * j + 1] (boot b)) := by
    rw [Function.iterate_succ_apply']
    exact (ready_of_rounds j).dark
  have lit : Lit steps adjust (j + 1) ((irqhandle b adjust)^[2 * j + 2] (boot b)) := by
    rw [Function.iterate_succ_apply']
    exact dark.lit
  -- Both interrupts of a round take the part of the same brightness.
  have same : ((irqhandle b adjust)^[2 * j + 2] (boot b)).n =
      ((irqhandle b adjust)^[2 * j + 1] (boot b)).n :=
    congrArg Prod.fst (lit.moved.level.trans dark.moved.level.symm)
  have part := dark.moved.duty_le
  have fits := adjust_le board part
  refine ⟨dark.dark, fun i => ?_, ?_, fun second => ?_⟩
  · rw [lit.lit i, lit.moved.colour]
    rfl
  · rw [dark.armed, lit.armed, same]
    omega
  · subst second
    have inside := adjust_inside part
    rw [dark.armed, lit.armed, same]
    omega

/-- The brightness in twentieths. -/
def twentieths : Brightness ℤ where
  start := 210000
  zero := 0
  one := 20
  raise n := n + 1
  lower n := n - 1
  atTop n := n ≥ 20
  atBottom n := n ≤ 0
  duty n := (21000 - 1050 * n).toNat

theorem raise_twentieths (i : ℕ) : twentieths.raise^[i] twentieths.zero = i := by
  induction i with
  | zero => rfl
  | succ i ih => rw [Function.iterate_succ_apply', ih]; exact (Nat.cast_succ i).symm

theorem lower_twentieths (i : ℕ) : twentieths.lower^[i] twentieths.one = 20 - i := by
  induction i with
  | zero => rfl
  | succ i ih =>
    rw [Function.iterate_succ_apply', ih, Nat.cast_succ]
    simp only [twentieths]
    ring

/-- A sweep in twentieths, up and down in twenty steps. -/
def twentySteps : Steps twentieths where
  rise := 20
  fall := 20
  rise_pos := by decide
  fall_pos := by decide
  first := rfl
  rises i inside := by
    rw [raise_twentieths]
    simp only [twentieths, decide_eq_false_iff_not]
    omega
  top := by
    rw [raise_twentieths]
    rfl
  falls i inside := by
    rw [lower_twentieths]
    simp only [twentieths, decide_eq_false_iff_not]
    omega
  bottom := by
    rw [lower_twentieths]
    decide
  duty_zero := by decide
  duty_one := by decide
  duty_between n low high := by
    simp only [twentieths, decide_eq_false_iff_not, maxTime] at *
    omega

/-- After the first sweep the first LED alone is lit, and for 1050 of 21000. -/
theorem colours_cycle_twentySteps :
    (∀ i, ((irqhandle twentieths Kv4x.adjust)^[44] (boot twentieths)).pins i =
        !(1#32).getLsbD i) ∧
      0 < ((irqhandle twentieths Kv4x.adjust)^[44] (boot twentieths)).armed := by
  obtain ⟨-, lit, -, inside⟩ := colours_cycle twentySteps (.inr rfl) 21
  exact ⟨lit, (inside rfl).2⟩

end TestSystem.TimerTest.Colours
