import TestSystem.Counter.Countdown
import TestSystem.Transition.Run

/-!
# Sleeping through ticks

`vPortSuppressTicksAndSleep` of `src/vf610/port.c` stops the tick, lets the SysTick
counter run once over several tick periods while the processor sleeps, and afterwards
works out from the counter how many ticks have passed and how much of the current one
is left. It does so in two ways, depending on whether the counter ran out.

Both ways come to the same: the clocks since the last tick are added up, with a
constant that stands for the clocks during which the counter is stopped. So the time
that the kernel keeps is exact up to that constant, sleep after sleep.
-/

namespace TestSystem.Port

open TestSystem.Counter TestSystem.Transition

/-! ## The source -/

/-- The value of an expression of type `uint32_t`. -/
def u32 (x : ℤ) : ℕ := (x % 2 ^ 32).toNat

/-- The variables that `vPortSetupTimerInterrupt` computes. -/
structure TickConstants where
  ulTimerCountsForOneTick : ℕ
  xMaximumPossibleSuppressedTicks : ℕ
  ulStoppedTimerCompensation : ℕ

/-- The counter `portNVIC_SYSTICK_*` with the ticks that the kernel has counted. -/
structure SysTick where
  counter : Countdown
  xTickCount : ℕ
  deriving DecidableEq

/-- A write to `portNVIC_SYSTICK_LOAD_REG`, which has 24 bits. -/
def SysTick.load (value : ℕ) (c : Countdown) : Countdown := { c with load := value % 2 ^ 24 }

/-- A write to `portNVIC_SYSTICK_CURRENT_VALUE_REG` clears the counter and its flag. -/
def SysTick.clear (c : Countdown) : Countdown := { c with val := 0, flag := false }

/-- The clocks come from the configuration, and `c` is the counter as it was before, whose
value the function leaves alone. -/
def vPortSetupTimerInterrupt (cpuClockHz sysTickClockHz tickRateHz : ℕ) (c : Countdown) :
    TickConstants × Countdown :=
  ({ ulTimerCountsForOneTick := sysTickClockHz / tickRateHz
     xMaximumPossibleSuppressedTicks := 0xffffff / (sysTickClockHz / tickRateHz)
     ulStoppedTimerCompensation := 45 / (cpuClockHz / sysTickClockHz) },
    SysTick.load (u32 (sysTickClockHz / tickRateHz - 1)) c)

/-- The idle time that is asked for, within what the counter can do. -/
def clampedIdleTime (g : TickConstants) (xExpectedIdleTime : ℕ) : ℕ :=
  if g.xMaximumPossibleSuppressedTicks < xExpectedIdleTime then g.xMaximumPossibleSuppressedTicks
  else xExpectedIdleTime

/-- The reload value to wait for. -/
def reloadValue (g : TickConstants) (val xExpectedIdleTime : ℕ) : ℕ :=
  let ulReloadValue := u32 (val + u32 (g.ulTimerCountsForOneTick * u32 (xExpectedIdleTime - 1)))
  if g.ulStoppedTimerCompensation < ulReloadValue then
    u32 (ulReloadValue - g.ulStoppedTimerCompensation)
  else ulReloadValue

/-- What is left of the tick, and the ticks to step, when the counter has run out. -/
def afterTick (g : TickConstants) (ulReloadValue val xExpectedIdleTime : ℕ) : ℕ × ℕ :=
  let ulCalculatedLoadValue :=
    u32 (u32 (g.ulTimerCountsForOneTick - 1) - u32 (ulReloadValue - val))
  let ulCalculatedLoadValue :=
    if ulCalculatedLoadValue < g.ulStoppedTimerCompensation ∨
        g.ulTimerCountsForOneTick < ulCalculatedLoadValue then
      u32 (g.ulTimerCountsForOneTick - 1)
    else ulCalculatedLoadValue
  (ulCalculatedLoadValue, u32 (xExpectedIdleTime - 1))

/-- The same when something else has ended the sleep. -/
def afterOther (g : TickConstants) (val xExpectedIdleTime : ℕ) : ℕ × ℕ :=
  let ulCompletedSysTickDecrements :=
    u32 (u32 (xExpectedIdleTime * g.ulTimerCountsForOneTick) - val)
  let ulCompleteTickPeriods := ulCompletedSysTickDecrements / g.ulTimerCountsForOneTick
  (u32 (u32 (u32 (ulCompleteTickPeriods + 1) * g.ulTimerCountsForOneTick) -
    ulCompletedSysTickDecrements), ulCompleteTickPeriods)

/-- `abort` is the answer of `eTaskConfirmSleepModeStatus`. The counter runs for
`sleep` clocks while the processor sleeps and for `restart` clocks until the normal
reload value is back; everything else takes no clocks, or takes them while the counter
is stopped. The second result is the argument of `vTaskStepTick`. -/
def vPortSuppressTicksAndSleep (g : TickConstants) (s : SysTick) (xExpectedIdleTime : ℕ)
    (abort : Bool) (sleep restart : ℕ) : SysTick × ℕ :=
  let xExpectedIdleTime := clampedIdleTime g xExpectedIdleTime
  let ulReloadValue := reloadValue g s.counter.val xExpectedIdleTime
  let normal := SysTick.load (u32 (g.ulTimerCountsForOneTick - 1))
  if abort then
    let c := { SysTick.load s.counter.val s.counter with flag := false }
    let c := Countdown.clock^[restart] c
    ({ counter := normal c, xTickCount := s.xTickCount + c.flag.toNat }, 0)
  else
    let c := Countdown.clock^[sleep] (SysTick.clear (SysTick.load ulReloadValue s.counter))
    let (load, ulCompleteTickPeriods) :=
      if c.flag then afterTick g ulReloadValue c.val xExpectedIdleTime
      else afterOther g c.val xExpectedIdleTime
    -- The interrupt of a counter that ran out has been pended and adds a tick of its own.
    let pended := c.flag.toNat
    let c := Countdown.clock^[restart] (SysTick.clear (SysTick.load load c))
    ({ counter := normal c
       xTickCount := s.xTickCount + ulCompleteTickPeriods + pended + c.flag.toNat },
      ulCompleteTickPeriods)

/-! ## The arithmetic does not overflow -/

theorem u32_eq {x : ℤ} {n : ℕ} (eq : x = n) (small : n < 2 ^ 32) : u32 x = n := by
  unfold u32
  omega

/-- The constants of a tick that the counter can hold. -/
structure TickConstants.Sound (g : TickConstants) : Prop where
  counts : 2 ≤ g.ulTimerCountsForOneTick
  small : g.ulTimerCountsForOneTick ≤ 0xffffff
  max : g.xMaximumPossibleSuppressedTicks = 0xffffff / g.ulTimerCountsForOneTick
  compensation : g.ulStoppedTimerCompensation ≤ g.ulTimerCountsForOneTick

variable {g : TickConstants} {s s' : SysTick} {v E n o : ℕ}

theorem TickConstants.Sound.pos (sound : g.Sound) : 0 < g.ulTimerCountsForOneTick :=
  Nat.lt_of_lt_of_le (by decide) sound.counts

/-- A whole sleep fits into the counter. -/
theorem TickConstants.Sound.mul_le (sound : g.Sound)
    (le : E ≤ g.xMaximumPossibleSuppressedTicks) :
    E * g.ulTimerCountsForOneTick ≤ 0xffffff := by
  rw [sound.max] at le
  exact (Nat.mul_le_mul_right _ le).trans (Nat.div_mul_le_self _ _)

theorem reloadValue_eq (sound : g.Sound) (le : E ≤ g.xMaximumPossibleSuppressedTicks)
    (two : 2 ≤ E) (pos : 0 < v) (small : v ≤ g.ulTimerCountsForOneTick) :
    reloadValue g v E =
      v + (E - 1) * g.ulTimerCountsForOneTick - g.ulStoppedTimerCompensation := by
  have whole := sound.mul_le le
  have split : E * g.ulTimerCountsForOneTick =
      (E - 1) * g.ulTimerCountsForOneTick + g.ulTimerCountsForOneTick := by
    nth_rewrite 1 [← Nat.sub_add_cancel (Nat.le_of_succ_le two)]
    ring
  have one : g.ulTimerCountsForOneTick ≤ (E - 1) * g.ulTimerCountsForOneTick :=
    Nat.le_mul_of_pos_left _ (by omega)
  have compensation := sound.compensation
  have least : E - 1 ≤ (E - 1) * g.ulTimerCountsForOneTick :=
    Nat.le_mul_of_pos_right _ sound.pos
  -- From here on inside out: no step of the unsigned arithmetic wraps.
  have idle : u32 ((E : ℤ) - 1) = E - 1 := u32_eq (by omega) (by omega)
  have product : u32 ((g.ulTimerCountsForOneTick : ℤ) * u32 ((E : ℤ) - 1)) =
      (E - 1) * g.ulTimerCountsForOneTick := by
    rw [idle]
    exact u32_eq (by push_cast; ring) (by omega)
  have sum : u32 ((v : ℤ) + u32 ((g.ulTimerCountsForOneTick : ℤ) * u32 ((E : ℤ) - 1))) =
      v + (E - 1) * g.ulTimerCountsForOneTick := by
    rw [product]
    exact u32_eq (by push_cast; ring) (by omega)
  rw [reloadValue, sum, if_pos (by omega)]
  exact u32_eq (by omega) (by omega)

/-- The other end: the decrements are added up and divided into ticks. -/
theorem afterOther_eq (sound : g.Sound) (le : E ≤ g.xMaximumPossibleSuppressedTicks)
    (one : 1 ≤ E) (small : v ≤ E * g.ulTimerCountsForOneTick) :
    afterOther g v E =
      (g.ulTimerCountsForOneTick -
          (E * g.ulTimerCountsForOneTick - v) % g.ulTimerCountsForOneTick,
        (E * g.ulTimerCountsForOneTick - v) / g.ulTimerCountsForOneTick) := by
  have whole := sound.mul_le le
  have pos := sound.pos
  have product : u32 ((E : ℤ) * g.ulTimerCountsForOneTick) = E * g.ulTimerCountsForOneTick :=
    u32_eq (by push_cast; ring) (by omega)
  have decrements : u32 ((u32 ((E : ℤ) * g.ulTimerCountsForOneTick) : ℤ) - v) =
      E * g.ulTimerCountsForOneTick - v := by
    rw [product]
    exact u32_eq (by omega) (by omega)
  have period : g.ulTimerCountsForOneTick ≤ E * g.ulTimerCountsForOneTick :=
    Nat.le_mul_of_pos_left _ one
  have bound : E * g.ulTimerCountsForOneTick - v ≤ 0xffffff := by omega
  have least := Nat.div_le_self (E * g.ulTimerCountsForOneTick - v) g.ulTimerCountsForOneTick
  have parts := Nat.div_add_mod (E * g.ulTimerCountsForOneTick - v) g.ulTimerCountsForOneTick
  have rest := Nat.mod_lt (E * g.ulTimerCountsForOneTick - v) pos
  simp only [afterOther, decrements]
  -- The quotient is a number of its own, so that only sums are left for the bounds.
  generalize E * g.ulTimerCountsForOneTick - v = d at bound least parts rest ⊢
  generalize d / g.ulTimerCountsForOneTick = q at least parts ⊢
  have next : (q + 1) * g.ulTimerCountsForOneTick =
      g.ulTimerCountsForOneTick * q + g.ulTimerCountsForOneTick := by ring
  have count : u32 ((q : ℤ) + 1) = q + 1 := u32_eq (by push_cast; ring) (by omega)
  have end' : u32 ((u32 ((q : ℤ) + 1) : ℤ) * g.ulTimerCountsForOneTick) =
      g.ulTimerCountsForOneTick * q + g.ulTimerCountsForOneTick := by
    rw [count]
    exact u32_eq (by rw [← next]; push_cast; ring) (by omega)
  rw [end', u32_eq (n := g.ulTimerCountsForOneTick - d % g.ulTimerCountsForOneTick)]
  · omega
  · omega

/-- The end after the counter has run out: `o` clocks of the next period are gone. -/
theorem afterTick_eq (sound : g.Sound) (le : E ≤ g.xMaximumPossibleSuppressedTicks) (one : 1 ≤ E)
    (gone : o ≤ n) (small : n ≤ 0xffffff)
    (late : o + 1 + max g.ulStoppedTimerCompensation 1 ≤ g.ulTimerCountsForOneTick) :
    afterTick g n (n - o) E = (g.ulTimerCountsForOneTick - 1 - o, E - 1) := by
  have whole := sound.mul_le le
  have least : E ≤ E * g.ulTimerCountsForOneTick := Nat.le_mul_of_pos_right _ sound.pos
  have period : g.ulTimerCountsForOneTick ≤ E * g.ulTimerCountsForOneTick :=
    Nat.le_mul_of_pos_left _ one
  have normal : u32 ((g.ulTimerCountsForOneTick : ℤ) - 1) = g.ulTimerCountsForOneTick - 1 :=
    u32_eq (by omega) (by omega)
  have elapsed : u32 ((n : ℤ) - (n - o : ℕ)) = o := u32_eq (by omega) (by omega)
  have left : u32 ((u32 ((g.ulTimerCountsForOneTick : ℤ) - 1) : ℤ) -
      u32 ((n : ℤ) - (n - o : ℕ))) = g.ulTimerCountsForOneTick - 1 - o := by
    rw [normal, elapsed]
    exact u32_eq (by omega) (by omega)
  have steps : u32 ((E : ℤ) - 1) = E - 1 := u32_eq (by omega) (by omega)
  simp only [afterTick, left, steps]
  rw [if_neg (by omega)]

/-! ## One sleep -/

/-- The clock at which the counter of a sleep runs out. -/
def runsOut (g : TickConstants) (s : SysTick) (xExpectedIdleTime : ℕ) : ℕ :=
  reloadValue g s.counter.val (clampedIdleTime g xExpectedIdleTime) + 1

/-- The clocks since the last tick that the kernel counts at the end of a sleep. -/
def counted (g : TickConstants) (s : SysTick) (sleep : ℕ) : ℕ :=
  g.ulTimerCountsForOneTick - s.counter.val + sleep + g.ulStoppedTimerCompensation - 1

/-- The counter runs normally. -/
structure Ready (g : TickConstants) (s : SysTick) : Prop where
  load : s.counter.load = g.ulTimerCountsForOneTick - 1
  val : s.counter.val ≤ g.ulTimerCountsForOneTick

/-- A sleep of at least two ticks that does not begin or end while the counter is at
zero, is not too late after the tick that ends it, and lets the counter restart. -/
structure Gentle (g : TickConstants) (s : SysTick) (xExpectedIdleTime sleep restart : ℕ) :
    Prop where
  running : 0 < s.counter.val
  two : 2 ≤ clampedIdleTime g xExpectedIdleTime
  slept : 0 < sleep
  apart : sleep ≠ runsOut g s xExpectedIdleTime
  late : sleep + max g.ulStoppedTimerCompensation 1 ≤
    runsOut g s xExpectedIdleTime + g.ulTimerCountsForOneTick
  restarted : 0 < restart
  soon : restart ≤ g.ulTimerCountsForOneTick -
    counted g s sleep % g.ulTimerCountsForOneTick

/-- The clocks fit together: a tick is at least two clocks long, no longer than the counter
can count, and no shorter than what the compensation adds. -/
structure Fitting (cpuClockHz sysTickClockHz tickRateHz : ℕ) : Prop where
  counts : 2 ≤ sysTickClockHz / tickRateHz
  small : sysTickClockHz / tickRateHz ≤ 0xffffff
  compensation : 45 / (cpuClockHz / sysTickClockHz) ≤ sysTickClockHz / tickRateHz

/-- What the set-up leaves behind, if the counter held no more than a tick. -/
theorem sound_vPortSetupTimerInterrupt {cpuClockHz sysTickClockHz tickRateHz xTickCount : ℕ}
    {c : Countdown} (fitting : Fitting cpuClockHz sysTickClockHz tickRateHz)
    (low : c.val ≤ sysTickClockHz / tickRateHz) :
    (vPortSetupTimerInterrupt cpuClockHz sysTickClockHz tickRateHz c).1.Sound ∧
      Ready (vPortSetupTimerInterrupt cpuClockHz sysTickClockHz tickRateHz c).1
        ⟨(vPortSetupTimerInterrupt cpuClockHz sysTickClockHz tickRateHz c).2, xTickCount⟩ := by
  have counts := fitting.counts
  have small := fitting.small
  have load : u32 ((sysTickClockHz : ℤ) / tickRateHz - 1) = sysTickClockHz / tickRateHz - 1 :=
    u32_eq (by omega) (by omega)
  constructor
  · exact ⟨counts, small, rfl, fitting.compensation⟩
  · refine ⟨?_, low⟩
    simp only [vPortSetupTimerInterrupt, load, SysTick.load]
    exact Nat.mod_eq_of_lt (by omega)

instance (g : TickConstants) (s : SysTick) (E sleep restart : ℕ) :
    Decidable (Gentle g s E sleep restart) :=
  decidable_of_iff (0 < s.counter.val ∧ 2 ≤ clampedIdleTime g E ∧ 0 < sleep ∧
      sleep ≠ runsOut g s E ∧ sleep + max g.ulStoppedTimerCompensation 1 ≤
        runsOut g s E + g.ulTimerCountsForOneTick ∧ 0 < restart ∧
          restart ≤ g.ulTimerCountsForOneTick - counted g s sleep % g.ulTimerCountsForOneTick)
    ⟨fun h => ⟨h.1, h.2.1, h.2.2.1, h.2.2.2.1, h.2.2.2.2.1, h.2.2.2.2.2.1, h.2.2.2.2.2.2⟩,
      fun h => ⟨h.running, h.two, h.slept, h.apart, h.late, h.restarted, h.soon⟩⟩

theorem clampedIdleTime_le (g : TickConstants) (E : ℕ) :
    clampedIdleTime g E ≤ g.xMaximumPossibleSuppressedTicks := by
  unfold clampedIdleTime
  split <;> omega

/-- The counter when a sleep is over: it has not run out, or has and is in the next
period. -/
theorem clock_iterate_sleep {c : Countdown} {sleep : ℕ} (zero : c.val = 0) (load : 0 < c.load)
    (noFlag : c.flag = false) (slept : 0 < sleep) (apart : sleep ≠ c.load + 1)
    (late : sleep ≤ 2 * (c.load + 1)) :
    Countdown.clock^[sleep] c =
      if sleep ≤ c.load then { c with val := c.load + 1 - sleep }
      else { c with val := c.load - (sleep - (c.load + 2)), flag := true } := by
  split
  · rw [Countdown.clock_iterate_of_zero zero slept (by omega)]
    have notOut : ¬ (1 < sleep ∧ sleep = c.load + 1) := by omega
    simp [notOut, noFlag]
  -- The counter runs out after `load + 1` clocks and loads again at the next one.
  · obtain ⟨o, rfl⟩ : ∃ o, sleep = o + 1 + (c.load + 1) := ⟨sleep - c.load - 2, by omega⟩
    rw [Function.iterate_add_apply,
      Countdown.clock_iterate_of_zero zero (Nat.succ_pos _) (le_refl _)]
    rw [Countdown.clock_iterate_of_zero (by simp) (Nat.succ_pos o) (by simp only; omega)]
    have out : 1 < c.load + 1 := Nat.succ_lt_succ load
    have again : o + 1 + (c.load + 1) - (c.load + 2) = o := by omega
    simp [load, again]

/-- The reload value in numbers, and that it fits into the register. -/
theorem reload_bounds (sound : g.Sound) (ready : Ready g s) (running : 0 < s.counter.val)
    (two : 2 ≤ clampedIdleTime g E) :
    reloadValue g s.counter.val (clampedIdleTime g E) + g.ulTimerCountsForOneTick +
        g.ulStoppedTimerCompensation =
      s.counter.val + clampedIdleTime g E * g.ulTimerCountsForOneTick ∧
    reloadValue g s.counter.val (clampedIdleTime g E) ≤ 0xffffff ∧
    g.ulTimerCountsForOneTick ≤ reloadValue g s.counter.val (clampedIdleTime g E) +
      g.ulStoppedTimerCompensation := by
  have le := clampedIdleTime_le g E
  have reload := reloadValue_eq sound le two running ready.val
  have whole := sound.mul_le le
  have split : clampedIdleTime g E * g.ulTimerCountsForOneTick =
      (clampedIdleTime g E - 1) * g.ulTimerCountsForOneTick + g.ulTimerCountsForOneTick := by
    nth_rewrite 1 [← Nat.sub_add_cancel (Nat.le_of_succ_le two)]
    ring
  have one : g.ulTimerCountsForOneTick ≤
      (clampedIdleTime g E - 1) * g.ulTimerCountsForOneTick :=
    Nat.le_mul_of_pos_left _ (by omega)
  have compensation := sound.compensation
  have small := ready.val
  omega

/-- Both ends of a sleep count alike: the ticks that are stepped and pended and what is
left of the current one come from the clocks since the last tick. -/
theorem ends_eq (sound : g.Sound) (ready : Ready g s) {sleep restart : ℕ}
    (gentle : Gentle g s E sleep restart) {c : Countdown}
    (ended : c = Countdown.clock^[sleep]
      ⟨reloadValue g s.counter.val (clampedIdleTime g E), 0, false⟩) :
    ∃ stepped < clampedIdleTime g E,
      (if c.flag then afterTick g (reloadValue g s.counter.val (clampedIdleTime g E)) c.val
          (clampedIdleTime g E)
        else afterOther g c.val (clampedIdleTime g E)) =
        (g.ulTimerCountsForOneTick - counted g s sleep % g.ulTimerCountsForOneTick, stepped) ∧
      stepped + c.flag.toNat = counted g s sleep / g.ulTimerCountsForOneTick := by
  have le := clampedIdleTime_le g E
  have two := gentle.two
  have small := ready.val
  have pos := sound.pos
  have slept := gentle.slept
  have apart := gentle.apart
  have late := gentle.late
  obtain ⟨total, fits, long⟩ := reload_bounds sound ready gentle.running two
  unfold runsOut at apart late
  have count : counted g s sleep + reloadValue g s.counter.val (clampedIdleTime g E) + 1 =
      clampedIdleTime g E * g.ulTimerCountsForOneTick + sleep := by
    unfold counted
    omega
  have compensation := sound.compensation
  generalize reloadValue g s.counter.val (clampedIdleTime g E) = n at *
  rw [clock_iterate_sleep rfl (by simp only; omega) rfl slept apart (by simp only; omega)] at ended
  by_cases early : sleep ≤ n
  -- Something else ends the sleep: all the ticks are stepped.
  · rw [if_pos early] at ended
    subst ended
    have value : counted g s sleep =
        clampedIdleTime g E * g.ulTimerCountsForOneTick - (n + 1 - sleep) := by omega
    refine ⟨counted g s sleep / g.ulTimerCountsForOneTick, ?_, ?_, rfl⟩
    · rw [Nat.div_lt_iff_lt_mul pos]
      omega
    · rw [if_neg (by simp), value]
      exact afterOther_eq sound le (by omega) (by simp only; omega)
  -- The tick ends it: the last one is pended and not stepped.
  · rw [if_neg early] at ended
    subst ended
    obtain ⟨o, rfl⟩ : ∃ o, sleep = n + 2 + o := ⟨sleep - n - 2, by omega⟩
    have value : counted g s (n + 2 + o) =
        (o + 1) + clampedIdleTime g E * g.ulTimerCountsForOneTick := by omega
    have below : o + 1 < g.ulTimerCountsForOneTick := by omega
    refine ⟨clampedIdleTime g E - 1, by omega, ?_, ?_⟩
    · have beyond : n + 2 + o - (n + 2) = o := by omega
      have inPeriod : o ≤ n := by omega
      have notLate : o + 1 + max g.ulStoppedTimerCompensation 1 ≤ g.ulTimerCountsForOneTick := by
        omega
      simp only [if_true, beyond, value, Nat.add_mul_mod_self_right, Nat.mod_eq_of_lt below]
      rw [afterTick_eq sound le (by omega) inPeriod fits notLate, Nat.sub_sub, Nat.add_comm 1 o]
    · rw [value, Nat.add_mul_div_right _ _ pos, Nat.div_eq_of_lt below]
      simp only [Bool.toNat_true]
      omega

/-- The whole function, when the sleep is not abandoned. -/
theorem sleep_eq (sound : g.Sound) (ready : Ready g s) {sleep restart : ℕ}
    (gentle : Gentle g s E sleep restart) :
    ∃ stepped < clampedIdleTime g E,
      vPortSuppressTicksAndSleep g s E false sleep restart =
        ({ counter :=
            { load := g.ulTimerCountsForOneTick - 1
              val := g.ulTimerCountsForOneTick -
                counted g s sleep % g.ulTimerCountsForOneTick + 1 - restart
              flag := false }
           xTickCount := s.xTickCount + counted g s sleep / g.ulTimerCountsForOneTick },
          stepped) := by
  have small := sound.small
  have fits := (reload_bounds sound ready gentle.running gentle.two).2.1
  have rest := Nat.mod_lt (counted g s sleep) sound.pos
  obtain ⟨stepped, below, ends, ticks⟩ := ends_eq sound ready gentle rfl
  refine ⟨stepped, below, ?_⟩
  have started : SysTick.clear (SysTick.load
      (reloadValue g s.counter.val (clampedIdleTime g E)) s.counter) =
        ⟨reloadValue g s.counter.val (clampedIdleTime g E), 0, false⟩ := by
    simp only [SysTick.clear, SysTick.load, Nat.mod_eq_of_lt (by omega :
      reloadValue g s.counter.val (clampedIdleTime g E) < 2 ^ 24)]
  have normal (c : Countdown) : SysTick.load (u32 ((g.ulTimerCountsForOneTick : ℤ) - 1)) c =
      { c with load := g.ulTimerCountsForOneTick - 1 } := by
    have value : u32 ((g.ulTimerCountsForOneTick : ℤ) - 1) = g.ulTimerCountsForOneTick - 1 :=
      u32_eq (by have := sound.pos; omega) (by omega)
    rw [value, SysTick.load, Nat.mod_eq_of_lt (by omega)]
  -- The counter restarts with what is left of the tick, and has not run out since.
  have restarted (c : Countdown) :
      Countdown.clock^[restart] (SysTick.clear (SysTick.load
        (g.ulTimerCountsForOneTick - counted g s sleep % g.ulTimerCountsForOneTick) c)) =
      { load := g.ulTimerCountsForOneTick - counted g s sleep % g.ulTimerCountsForOneTick
        val := g.ulTimerCountsForOneTick - counted g s sleep % g.ulTimerCountsForOneTick + 1 -
          restart
        flag := false } := by
    have soon := gentle.soon
    have notOut : ¬ (1 < restart ∧ restart = g.ulTimerCountsForOneTick -
        counted g s sleep % g.ulTimerCountsForOneTick + 1) := by omega
    rw [SysTick.load, Nat.mod_eq_of_lt (by omega), SysTick.clear,
      Countdown.clock_iterate_of_zero rfl gentle.restarted (by simp only; omega)]
    simp [notOut]
  simp only [vPortSuppressTicksAndSleep, started, ends, restarted, normal]
  simp [Nat.add_assoc, ticks]

/-- A sleep that ends before the counter has loaded is taken for one that lasted: the
counter reads zero, and all the ticks are stepped at once. -/
theorem stepped_of_no_clock (sound : g.Sound) (two : 2 ≤ clampedIdleTime g E) (restart : ℕ) :
    (vPortSuppressTicksAndSleep g s E false 0 restart).2 = clampedIdleTime g E := by
  have ended := afterOther_eq sound (clampedIdleTime_le g E) (Nat.le_of_succ_le two)
    (Nat.zero_le _)
  have whole : clampedIdleTime g E * g.ulTimerCountsForOneTick / g.ulTimerCountsForOneTick =
      clampedIdleTime g E := Nat.mul_div_cancel _ sound.pos
  simp [vPortSuppressTicksAndSleep, SysTick.clear, SysTick.load, ended, whole]

/-! ## Kernel time -/

/-- The time of the kernel in clocks: the ticks counted and what has passed of the
current one. -/
def kernelTime (g : TickConstants) (s : SysTick) : ℤ :=
  s.xTickCount * g.ulTimerCountsForOneTick +
    if s.counter.val = 0 then 0 else g.ulTimerCountsForOneTick - s.counter.val

/-- A clock while the system is awake: the interrupt of the counter counts a tick. -/
def awakeClock (s : SysTick) : SysTick where
  counter := s.counter.clock
  xTickCount := s.xTickCount + if s.counter.val = 1 then 1 else 0

/-- The timer runs for some clocks, or the idle task asks for a sleep. -/
inductive IdleAct
  | awake (clocks : ℕ)
  | idle (xExpectedIdleTime : ℕ) (abort : Bool) (sleep restart : ℕ)

/-- What one act does to the timer and the tick count. -/
def idleStep (g : TickConstants) (s : SysTick) : IdleAct → Option SysTick
  | .awake clocks => some (awakeClock^[clocks] s)
  | .idle E abort sleep restart => some (vPortSuppressTicksAndSleep g s E abort sleep restart).1

/-- Every sleep is gentle, and one that is abandoned ends before the tick. -/
def Undisturbed (g : TickConstants) (s : SysTick) : IdleAct → Prop
  | .awake _ => True
  | .idle E abort sleep restart =>
    if abort then restart < s.counter.val else Gentle g s E sleep restart

instance (g : TickConstants) (s : SysTick) (act : IdleAct) : Decidable (Undisturbed g s act) :=
  match act with
  | .awake _ => isTrue trivial
  | .idle _ abort sleep restart =>
    inferInstanceAs (Decidable (if abort then restart < s.counter.val
      else Gentle g s _ sleep restart))

/-- The clocks that the counter runs for. -/
def elapsed : IdleAct → ℕ
  | .awake clocks => clocks
  | .idle _ abort sleep restart => if abort then restart else sleep + restart

/-- The act is a sleep that was not abandoned. -/
def IsSleep : IdleAct → Bool
  | .awake _ => false
  | .idle _ abort _ _ => !abort

/-- While the system is awake the kernel's time goes on by a clock with each clock. -/
theorem awakeClock_time (sound : g.Sound) (ready : Ready g s) :
    Ready g (awakeClock s) ∧ kernelTime g (awakeClock s) = kernelTime g s + 1 := by
  have counts := sound.counts
  obtain ⟨load, val⟩ := ready
  by_cases zero : s.counter.val = 0
  · have next : awakeClock s = { s with
        counter := { s.counter with val := g.ulTimerCountsForOneTick - 1 } } := by
      simp [awakeClock, Countdown.clock_of_zero zero, zero, load]
    rw [next]
    refine ⟨⟨load, Nat.sub_le _ _⟩, ?_⟩
    simp only [kernelTime, zero, if_true]
    rw [if_neg (by omega)]
    omega
  · have next : s.counter.clock.val = s.counter.val - 1 ∧
        s.counter.clock.load = s.counter.load := by
      simp [Countdown.clock_of_pos (Nat.pos_of_ne_zero zero)]
    refine ⟨⟨next.2.trans load, next.1.trans_le (by omega)⟩, ?_⟩
    unfold kernelTime awakeClock
    by_cases last : s.counter.val = 1
    · -- The tick: a whole period is counted and the next one begins.
      simp [next.1, last]
      ring_nf
      omega
    · simp only [next.1, last, if_false, zero]
      rw [if_neg (by omega)]
      push_cast
      ring_nf
      omega

theorem awakeClock_iterate (sound : g.Sound) (ready : Ready g s) (n : ℕ) :
    Ready g (awakeClock^[n] s) ∧ kernelTime g (awakeClock^[n] s) = kernelTime g s + n := by
  induction n with
  | zero => simpa using ready
  | succ n ih =>
    obtain ⟨ready', time⟩ := awakeClock_time sound ih.1
    rw [Function.iterate_succ_apply']
    refine ⟨ready', ?_⟩
    rw [time, ih.2]
    push_cast
    ring

/-- An abandoned sleep is a stretch of normal counting. -/
theorem abort_time (sound : g.Sound) (ready : Ready g s) {sleep restart : ℕ}
    (short : restart < s.counter.val) :
    Ready g (vPortSuppressTicksAndSleep g s E true sleep restart).1 ∧
      kernelTime g (vPortSuppressTicksAndSleep g s E true sleep restart).1 =
        kernelTime g s + restart := by
  have val := ready.val
  have counts := sound.counts
  have small := sound.small
  have value : u32 ((g.ulTimerCountsForOneTick : ℤ) - 1) = g.ulTimerCountsForOneTick - 1 :=
    u32_eq (by omega) (by omega)
  have notOut : ¬ (0 < restart ∧ restart = s.counter.val) := by omega
  have result : (vPortSuppressTicksAndSleep g s E true sleep restart).1 =
      { counter :=
          { load := g.ulTimerCountsForOneTick - 1
            val := s.counter.val - restart
            flag := false }
        xTickCount := s.xTickCount } := by
    simp only [vPortSuppressTicksAndSleep, value, if_true]
    rw [Countdown.clock_iterate (by simp only [SysTick.load]; omega)]
    simp only [SysTick.load, notOut, decide_false, Bool.or_false, Bool.toNat_false, add_zero]
    rw [Nat.mod_eq_of_lt (by omega)]
  rw [result]
  refine ⟨⟨rfl, by simp only; omega⟩, ?_⟩
  simp only [kernelTime]
  rw [if_neg (by omega), if_neg (by omega)]
  omega

/-- A sleep adds the clocks that the counter ran for and a constant. -/
theorem sleep_time (sound : g.Sound) (ready : Ready g s) {sleep restart : ℕ}
    (gentle : Gentle g s E sleep restart) :
    Ready g (vPortSuppressTicksAndSleep g s E false sleep restart).1 ∧
      kernelTime g (vPortSuppressTicksAndSleep g s E false sleep restart).1 =
        kernelTime g s + (sleep + restart) + (g.ulStoppedTimerCompensation - 2) := by
  have soon := gentle.soon
  have restarted := gentle.restarted
  have running := gentle.running
  have slept := gentle.slept
  have val := ready.val
  have parts := Nat.div_add_mod (counted g s sleep) g.ulTimerCountsForOneTick
  have rest := Nat.mod_lt (counted g s sleep) sound.pos
  obtain ⟨stepped, -, result⟩ := sleep_eq sound ready gentle
  rw [result]
  refine ⟨⟨rfl, by simp only; omega⟩, ?_⟩
  have count : (counted g s sleep : ℤ) = g.ulTimerCountsForOneTick - s.counter.val + sleep +
      g.ulStoppedTimerCompensation - 1 := by
    unfold counted
    omega
  have whole : (g.ulTimerCountsForOneTick : ℤ) *
      (counted g s sleep / g.ulTimerCountsForOneTick : ℕ) +
        (counted g s sleep % g.ulTimerCountsForOneTick : ℕ) = counted g s sleep := by
    exact_mod_cast parts
  simp only [kernelTime]
  rw [if_neg (by omega), if_neg (by omega)]
  rw [Nat.cast_add, add_mul, mul_comm ((counted g s sleep / g.ulTimerCountsForOneTick : ℕ) : ℤ)]
  omega

variable {acts : List IdleAct} {act : IdleAct}

theorem idleStep_time (sound : g.Sound) (ready : Ready g s) (undisturbed : Undisturbed g s act)
    (enabled : idleStep g s act = some s') :
    Ready g s' ∧ kernelTime g s' = kernelTime g s + elapsed act +
      (IsSleep act).toNat * (g.ulStoppedTimerCompensation - 2) := by
  cases act with
  | awake clocks =>
    obtain rfl := Option.some.inj enabled
    simpa [elapsed, IsSleep] using awakeClock_iterate sound ready clocks
  | idle E abort sleep restart =>
    obtain rfl := Option.some.inj enabled
    cases abort with
    | true =>
      have short : restart < s.counter.val := by simpa [Undisturbed] using undisturbed
      simpa [elapsed, IsSleep] using abort_time sound ready short
    | false =>
      have gentle : Gentle g s E sleep restart := by simpa [Undisturbed] using undisturbed
      simpa [elapsed, IsSleep] using sleep_time sound ready gentle

/-- Over any mixture of waking, abandoned sleeps and sleeps, whatever ends them, the
kernel's time gains a constant with each sleep and nothing else. -/
theorem time_of_run (sound : g.Sound) (ready : Ready g s) (run : Run (idleStep g) s acts s')
    (undisturbed : Along (Undisturbed g) (idleStep g) s acts) :
    Ready g s' ∧ kernelTime g s' = kernelTime g s + (acts.map elapsed).sum +
      acts.countP IsSleep * (g.ulStoppedTimerCompensation - 2) := by
  induction run with
  | nil => simpa using ready
  | @snoc acts t act u prior enabled ih =>
    obtain ⟨before, last⟩ := (along_append_singleton prior).mp undisturbed
    obtain ⟨readyBefore, timeBefore⟩ := ih before
    obtain ⟨readyAfter, timeAfter⟩ := idleStep_time sound readyBefore last enabled
    refine ⟨readyAfter, ?_⟩
    have sleeps : [act].countP IsSleep = (IsSleep act).toNat := by
      rw [List.countP_singleton]
      cases IsSleep act <;> rfl
    rw [timeAfter, timeBefore, List.map_append, List.sum_append, List.countP_append, sleeps]
    push_cast
    simp
    ring

/-- **Kernel time.** From the set-up on, and until the next sleep: no sleep steps as many
ticks as it was asked to wait, except for one that ends before the counter's first clock,
which steps all of them. -/
theorem kernelTime_of_run {cpuClockHz sysTickClockHz tickRateHz xTickCount : ℕ} {c : Countdown}
    {setUp : TickConstants × Countdown} (fitting : Fitting cpuClockHz sysTickClockHz tickRateHz)
    (low : c.val ≤ sysTickClockHz / tickRateHz)
    (started : vPortSetupTimerInterrupt cpuClockHz sysTickClockHz tickRateHz c = setUp)
    (run : Run (idleStep setUp.1) ⟨setUp.2, xTickCount⟩ acts s')
    (undisturbed : Along (Undisturbed setUp.1) (idleStep setUp.1) ⟨setUp.2, xTickCount⟩ acts) :
    kernelTime setUp.1 s' = kernelTime setUp.1 ⟨setUp.2, xTickCount⟩ + (acts.map elapsed).sum +
        acts.countP IsSleep * (setUp.1.ulStoppedTimerCompensation - 2) ∧
      (∀ E sleep restart, Gentle setUp.1 s' E sleep restart →
        (vPortSuppressTicksAndSleep setUp.1 s' E false sleep restart).2 <
          clampedIdleTime setUp.1 E) ∧
      ∀ E restart, 2 ≤ clampedIdleTime setUp.1 E →
        (vPortSuppressTicksAndSleep setUp.1 s' E false 0 restart).2 =
          clampedIdleTime setUp.1 E := by
  subst started
  obtain ⟨sound, start⟩ := sound_vPortSetupTimerInterrupt fitting low
  obtain ⟨ready, time⟩ := time_of_run sound start run undisturbed
  refine ⟨time, fun E sleep restart gentle => ?_, fun E restart two => ?_⟩
  · obtain ⟨stepped, below, result⟩ := sleep_eq sound ready gentle
    rw [result]
    exact below
  · exact stepped_of_no_clock sound two restart

/-- With 50 clocks to the tick: a while awake, an abandoned sleep, a sleep that something
else ends, and one that the tick ends. -/
def fourActs : List IdleAct :=
  [.awake 20, .idle 3 true 0 2, .idle 3 false 40 2, .idle 2 false 53 2]

theorem kernelTime_of_run_fifty :
    ∃ s', Run (idleStep ⟨50, 335544, 45⟩) ⟨⟨49, 0, false⟩, 0⟩ fourActs s' ∧
      kernelTime ⟨50, 335544, 45⟩ s' = 205 := by
  have run : Run (idleStep ⟨50, 335544, 45⟩) ⟨⟨49, 0, false⟩, 0⟩ fourActs
      ⟨⟨49, 45, false⟩, 4⟩ := run_iff_foldlM.mpr (by decide +kernel)
  have fitting : Fitting 50000 50000 1000 := ⟨by decide, by decide, by decide⟩
  have time := (kernelTime_of_run (c := ⟨0, 0, false⟩) fitting (Nat.zero_le _) rfl run
    (by decide +kernel)).1
  exact ⟨_, run, time⟩

end TestSystem.Port
