import TestSystem.Counter.Periodic
import TestSystem.Counter.Steps

/-!
# The capture tests of two boards

`capture_callback` of `src/am57xx/timertest.c` and of `src/stm32/timertest.c` prints
the time since the capture before, which it keeps in `oldtime`. Both boards set the
period of the counter to 1000000. The one for the stm32 takes the wrap of the
counter into account, the one for the am57xx does not, so they agree until the
counter wraps for the first time.
-/

namespace TestSystem.TimerTest

open TestSystem.Counter

/-- What the callback prints, and what it leaves in `oldtime`. -/
structure Captured where
  printed : UInt64
  oldtime : UInt64
  deriving DecidableEq, Repr

namespace Am57xx

/-- The callback of the am57xx test prints the plain difference. -/
def captureCallback (oldtime time : UInt64) : Captured :=
  { printed := time - oldtime, oldtime := time }

end Am57xx

namespace Stm32

/-- `PWM_PERIOD`. -/
def pwmPeriod : UInt64 := 1000000

/-- The callback of the stm32 test, with a branch for a counter that has wrapped. -/
def captureCallback (oldtime time : UInt64) : Captured :=
  if time < oldtime then { printed := pwmPeriod - oldtime + time, oldtime := time }
  else { printed := time - oldtime, oldtime := time }

end Stm32

/-- The times that are printed for the captures, one after another. -/
def printedFrom (captureCallback : UInt64 → UInt64 → Captured) (oldtime : UInt64) :
    List UInt64 → List UInt64
  | [] => []
  | time :: times =>
    let captured := captureCallback oldtime time
    captured.printed :: printedFrom captureCallback captured.oldtime times

/-- The argument of `capture_setPeriod` on both boards. -/
def capturePeriod : ℕ := 1000000

/-- What the driver passes for a capture at instant `t`. -/
def reading (t : ℕ) : UInt64 := UInt64.ofNat (t % capturePeriod)

/-- Instants of captures, less than a period apart, the first in the first period. -/
structure Captures where
  instants : List ℕ
  first : ∀ t ∈ instants.head?, t < capturePeriod
  close : instants.IsChain fun t t' => t < t' ∧ t' - t < capturePeriod

/-- The times that are printed from the start on, when `oldtime` is 0. -/
def Captures.printedBy (captures : Captures)
    (captureCallback : UInt64 → UInt64 → Captured) : List ℕ :=
  (printedFrom captureCallback 0 (captures.instants.map reading)).map UInt64.toNat

/-- Both boards print the same. From the second capture on this is the time since the
one before, and the times up to a capture add up to its instant. -/
structure ReportsElapsed (captures : Captures) : Prop where
  agree : captures.printedBy Am57xx.captureCallback = captures.printedBy Stm32.captureCallback
  elapsed : ∀ k t t', captures.instants[k]? = some t → captures.instants[k + 1]? = some t' →
    (captures.printedBy Am57xx.captureCallback)[k + 1]? = some (t' - t) ∧
      (captures.printedBy Stm32.captureCallback)[k + 1]? = some (t' - t)
  total : ∀ k t, captures.instants[k]? = some t →
    ((captures.printedBy Am57xx.captureCallback).take (k + 1)).sum = t ∧
      ((captures.printedBy Stm32.captureCallback).take (k + 1)).sum = t

variable {t t' start : ℕ} {instants : List ℕ}

/-- The second capture comes less than a period after the first. -/
def Close (t t' : ℕ) : Prop := t ≤ t' ∧ t' - t < capturePeriod

theorem mod_capturePeriod_lt (t : ℕ) : t % capturePeriod < 1000000 := Nat.mod_lt t (by decide)

theorem toNat_reading (t : ℕ) : (reading t).toNat = t % capturePeriod := by
  have hlt := mod_capturePeriod_lt t
  rw [reading, UInt64.toNat_ofNat']
  omega

/-! ## One capture -/

theorem reading_lt_iff (close : Close t t') :
    reading t' < reading t ↔ t / capturePeriod ≠ t' / capturePeriod := by
  rw [UInt64.lt_iff_toNat_lt, toNat_reading, toNat_reading]
  constructor
  · intro falls same
    have := reading_of_same_turn close.1 same
    omega
  · intro wraps
    have := reading_of_wrap close.1 close.2 wraps
    have := close.2
    omega

/-- Without a wrap the difference is the elapsed time. -/
theorem toNat_reading_sub_of_same_turn (close : Close t t')
    (same : t / capturePeriod = t' / capturePeriod) :
    (reading t' - reading t).toNat = t' - t := by
  have rise := reading_of_same_turn close.1 same
  have above : reading t ≤ reading t' := by
    rw [UInt64.le_iff_toNat_le, toNat_reading, toNat_reading]
    omega
  rw [UInt64.toNat_sub_of_le _ _ above, toNat_reading, toNat_reading]
  omega

/-- Over a wrap the difference is taken modulo 2 ^ 64. -/
theorem capturePeriod_lt_toNat_reading_sub (close : Close t t')
    (wraps : t / capturePeriod ≠ t' / capturePeriod) :
    capturePeriod < (reading t' - reading t).toNat := by
  have fall := reading_of_wrap close.1 close.2 wraps
  have period : capturePeriod = 1000000 := rfl
  have hlt := mod_capturePeriod_lt t
  have short := close.2
  rw [UInt64.toNat_sub, toNat_reading, toNat_reading]
  omega

theorem toNat_printed_am57xx_iff (close : Close t t') :
    (Am57xx.captureCallback (reading t) (reading t')).printed.toNat = t' - t ↔
      t / capturePeriod = t' / capturePeriod := by
  constructor
  · intro exact_time
    by_contra wraps
    have large := capturePeriod_lt_toNat_reading_sub close wraps
    have small := close.2
    have difference : (reading t' - reading t).toNat = t' - t := exact_time
    omega
  · exact toNat_reading_sub_of_same_turn close

theorem toNat_printed_stm32 (close : Close t t') :
    (Stm32.captureCallback (reading t) (reading t')).printed.toNat = t' - t := by
  unfold Stm32.captureCallback
  split
  · next falls =>
    have fall := reading_of_wrap close.1 close.2 ((reading_lt_iff close).mp falls)
    have hlt := mod_capturePeriod_lt t
    have period : capturePeriod = 1000000 := rfl
    have hperiod : Stm32.pwmPeriod.toNat = 1000000 := rfl
    have inside : reading t ≤ Stm32.pwmPeriod := by
      rw [UInt64.le_iff_toNat_le, toNat_reading, hperiod]
      exact hlt.le
    -- What was left of the turn, and what has passed of the next one.
    rw [UInt64.toNat_add, UInt64.toNat_sub_of_le _ _ inside, hperiod, toNat_reading, toNat_reading]
    have short := close.2
    omega
  · next rises =>
    exact toNat_reading_sub_of_same_turn close (not_not.mp ((reading_lt_iff close).not.mp rises))

/-! ## Any number of captures -/

/-- The stm32 prints the steps, over any number of wraps. -/
theorem printedFrom_stm32 (close : (start :: instants).IsChain Close) :
    (printedFrom Stm32.captureCallback (reading start) (instants.map reading)).map UInt64.toNat =
      steps start instants := by
  induction instants generalizing start with
  | nil => rfl
  | cons t instants ih =>
    obtain ⟨first, close⟩ := List.isChain_cons_cons.mp close
    have oldtime : (Stm32.captureCallback (reading start) (reading t)).oldtime = reading t := by
      unfold Stm32.captureCallback
      split <;> rfl
    rw [List.map_cons, printedFrom, List.map_cons, toNat_printed_stm32 first, oldtime, ih close]
    rfl

/-- The am57xx prints the steps exactly if the counter does not wrap. -/
theorem printedFrom_am57xx_iff (close : (start :: instants).IsChain Close) :
    (printedFrom Am57xx.captureCallback (reading start) (instants.map reading)).map UInt64.toNat =
      steps start instants ↔ ∀ t ∈ instants, start / capturePeriod = t / capturePeriod := by
  induction instants generalizing start with
  | nil => simp [printedFrom, steps]
  | cons t instants ih =>
    obtain ⟨first, close⟩ := List.isChain_cons_cons.mp close
    have oldtime : (Am57xx.captureCallback (reading start) (reading t)).oldtime = reading t := rfl
    rw [List.map_cons, printedFrom, List.map_cons, steps, List.cons.injEq, oldtime, ih close,
      toNat_printed_am57xx_iff first, List.forall_mem_cons]
    refine and_congr_right fun same => ?_
    rw [same]

/-- The counter starts at instant 0. -/
theorem Captures.isChain_close (captures : Captures) : (0 :: captures.instants).IsChain Close := by
  have close : captures.instants.IsChain Close :=
    captures.close.imp fun _ _ next => ⟨next.1.le, next.2⟩
  rw [List.isChain_cons]
  exact ⟨fun t first => ⟨Nat.zero_le t, captures.first t first⟩, close⟩

theorem Captures.isChain_le (captures : Captures) : (0 :: captures.instants).IsChain (· ≤ ·) :=
  captures.isChain_close.imp fun _ _ next => next.1

theorem Captures.printedBy_stm32 (captures : Captures) :
    captures.printedBy Stm32.captureCallback = steps 0 captures.instants :=
  printedFrom_stm32 captures.isChain_close

theorem Captures.printedBy_am57xx_iff (captures : Captures) :
    captures.printedBy Am57xx.captureCallback = steps 0 captures.instants ↔
      ∀ t ∈ captures.instants, t < capturePeriod := by
  have turns : captures.printedBy Am57xx.captureCallback = steps 0 captures.instants ↔
      ∀ t ∈ captures.instants, 0 / capturePeriod = t / capturePeriod :=
    printedFrom_am57xx_iff captures.isChain_close
  rw [turns]
  refine forall₂_congr fun t _ => ?_
  rw [Nat.zero_div, eq_comm, Nat.div_eq_zero_iff]
  simp [capturePeriod]

/-- **When both boards report the elapsed time.** They print the same, the time since
the capture before, and the times add up, exactly if every capture comes before the
counter wraps for the first time. -/
theorem reportsElapsed_iff (captures : Captures) :
    ReportsElapsed captures ↔ ∀ t ∈ captures.instants, t < capturePeriod := by
  have stm32 := captures.printedBy_stm32
  rw [← captures.printedBy_am57xx_iff]
  constructor
  · intro reports
    exact reports.agree.trans stm32
  · intro am57xx
    refine ⟨am57xx.trans stm32.symm, ?_, ?_⟩
    · intro k t t' here next
      rw [am57xx, stm32]
      exact ⟨getElem?_steps here next, getElem?_steps here next⟩
    · intro k t here
      rw [am57xx, stm32]
      have sum := sum_take_steps captures.isChain_le here
      exact ⟨sum, sum⟩

/-- A capture before and one after the first wrap. -/
def overWrap : Captures where
  instants := [900000, 1100000]
  first := by decide
  close := by decide

/-- The am57xx prints 2 ^ 64 - 800000 where 200000 have passed. -/
theorem not_reportsElapsed_overWrap :
    ¬ ReportsElapsed overWrap ∧
      overWrap.printedBy Am57xx.captureCallback = [900000, 18446744073708751616] ∧
      overWrap.printedBy Stm32.captureCallback = [900000, 200000] := by
  have am57xx : overWrap.printedBy Am57xx.captureCallback = [900000, 18446744073708751616] := by
    decide
  have stm32 : overWrap.printedBy Stm32.captureCallback = [900000, 200000] := by decide
  refine ⟨fun reports => ?_, am57xx, stm32⟩
  have agree := reports.agree
  rw [am57xx, stm32] at agree
  revert agree
  decide

end TestSystem.TimerTest
