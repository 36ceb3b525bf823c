import TestSystem.PwmTest.Sweep
import TestSystem.Transition.Run

/-!
# The capture of a PWM signal

`src/vf610/pwmtest.c` feeds the output of a PWM unit back to a capture input. The task
moves the duty cycle by 500 every 20 ms and sets it in three units; the interrupt
asserts that the time between two edges is the high or the low time of the duty cycle
`n`, give or take `MAX_DIFF`. Between the move and the last unit `n` is ahead of the
units, and the task tells the interrupt so with `crit`.
-/

namespace TestSystem.PwmTest.Capture

open TestSystem.Transition

/-- The statement of `pwmTask` that is executed next. -/
inductive Place
  | setCrit
  /-- The branch that moves `n`. -/
  | move
  /-- `pwm_setDutyCycle` for a unit and the assertion after it. -/
  | duty (unit : Fin 3)
  | clearCrit
  | delay
  deriving DecidableEq, Repr

/-- The assertion that failed. -/
inductive Halt
  | duty
  | capture
  deriving DecidableEq, Repr

/-- The variables that the task shares with the interrupt of the capture unit. -/
structure State where
  place : Place
  ramp : Ramp
  crit : Bool
  us : BitVec 64
  usOld : BitVec 64
  i : ℤ
  start : Bool
  /-- The duty cycle of each unit, and the one that it had before. -/
  duty : Fin 3 → ℤ
  previous : Fin 3 → ℤ
  halted : Option Halt
  deriving DecidableEq

/-- After `pwmtest_init`. -/
def boot : State where
  place := .setCrit
  ramp := ⟨true, 10000⟩
  crit := false
  us := 0
  usOld := 0
  i := 0
  start := true
  duty _ := 10000
  previous _ := 10000
  halted := none

/-- The task and the capture unit act in any order. -/
inductive Label
  /-- The task executes its next statement; `pwm_setDutyCycle` returns `ret`. -/
  | task (ret : Int32)
  /-- An edge is captured. -/
  | capture (time : BitVec 64)
  deriving DecidableEq

/-- `MAX_DIFF`, how far a measured width may be off. -/
def maxDiff : ℤ := 510

/-- One half of the assertion: `n` is converted to the unsigned type of the difference. -/
def Near (width : BitVec 64) (n : ℤ) : Prop :=
  width ≥ BitVec.ofInt 64 (n - maxDiff) ∧ width ≤ BitVec.ofInt 64 (n + maxDiff)

instance (width : BitVec 64) (n : ℤ) : Decidable (Near width n) :=
  inferInstanceAs (Decidable (_ ∧ _))

/-- The captured time is compared. -/
def State.Compares (s : State) : Prop :=
  s.start = false ∧ s.crit = false ∧ s.usOld ≠ 0 ∧ s.us ≠ 0 ∧ s.us > s.usOld ∧
    s.ramp.n > 1000 ∧ s.ramp.n < 19000

instance (s : State) : Decidable s.Compares :=
  inferInstanceAs (Decidable (_ ∧ _ ∧ _ ∧ _ ∧ _ ∧ _ ∧ _))

/-- The callback compares the last two edges with the ramp, or counts the first ones. -/
def captureIRQ (time : BitVec 64) (s : State) : State :=
  let s := { s with usOld := s.us, us := time }
  if s.Compares then
    let diff := s.us - s.usOld
    if Near diff s.ramp.n ∨ Near (20000#64 - diff) s.ramp.n then s
    else { s with halted := some .capture }
  else if s.start then { s with i := s.i + 1, start := if s.i + 1 > 20 then false else s.start }
  else s

/-- The unit after this one. -/
def next : Fin 3 → Place
  | 0 => .duty 1
  | 1 => .duty 2
  | 2 => .clearCrit

/-- The next statement of the task. -/
def pwmTask (ret : Int32) (s : State) : State :=
  match s.place with
  | .setCrit => { s with crit := true, place := .move }
  | .move => { s with ramp := PwmTest.pwmTask s.ramp, place := .duty 0 }
  | .duty unit =>
    if ret = 0 then
      { s with
        duty := Function.update s.duty unit s.ramp.n
        previous := Function.update s.previous unit (s.duty unit)
        place := next unit }
    else { s with halted := some .duty }
  | .clearCrit => { s with crit := false, place := .delay }
  | .delay => { s with place := .setCrit }

/-- One step; after a failed assertion there is none. -/
def step (s : State) (label : Label) : Option State :=
  if s.halted.isSome then none
  else
    match label with
    | .task ret => some (pwmTask ret s)
    | .capture time => some (captureIRQ time s)

/-- The high or the low time of a duty cycle, give or take 10. -/
def Shows (duty : ℤ) (width : BitVec 64) : Prop :=
  |(width.toNat : ℤ) - duty| ≤ 10 ∨ |20000 - (width.toNat : ℤ) - duty| ≤ 10

instance (duty : ℤ) (width : BitVec 64) : Decidable (Shows duty width) :=
  inferInstanceAs (Decidable (_ ∨ _))

/-- The time since the last edge shows the duty cycle that the unit has or had before. -/
def Plausible (unit : Fin 3) (s : State) : Label → Prop
  | .task _ => True
  | .capture time => s.us < time →
      Shows (s.duty unit) (time - s.us) ∨ Shows (s.previous unit) (time - s.us)

instance (unit : Fin 3) (s : State) : (label : Label) → Decidable (Plausible unit s label)
  | .task _ => inferInstanceAs (Decidable True)
  | .capture _ => inferInstanceAs (Decidable (_ → _))

variable {s t : State} {label : Label} {labels : List Label} {unit : Fin 3}

/-! ## What the task keeps -/

/-- The unit has the duty cycle `n`, and had one that is a step away. -/
def State.Settled (s : State) (unit : Fin 3) : Prop :=
  s.duty unit = s.ramp.n ∧ |s.previous unit - s.ramp.n| ≤ 500

/-- `crit` is clear only while all units are settled. -/
def Tracked (s : State) : Prop :=
  match s.place with
  | .setCrit | .delay => ∀ unit, s.Settled unit
  | .move | .clearCrit => s.crit = true ∧ ∀ unit, s.Settled unit
  | .duty next => s.crit = true ∧ (∀ unit < next, s.Settled unit) ∧
      ∀ unit, next ≤ unit → |s.duty unit - s.ramp.n| ≤ 500

theorem tracked_boot : Tracked boot := fun _ => ⟨rfl, by simp [boot]⟩

theorem move_le (r : Ramp) : |r.n - (PwmTest.pwmTask r).n| ≤ 500 := by
  unfold PwmTest.pwmTask Ramp.sweep
  split <;> simp

/-- The unit that is set is settled, the others stay as they are. -/
theorem settled_update {n : Fin 3} (close : |s.duty n - s.ramp.n| ≤ 500) (unit : Fin 3)
    (others : unit ≠ n → s.Settled unit) :
    { s with
      duty := Function.update s.duty n s.ramp.n
      previous := Function.update s.previous n (s.duty n)
      place := next n : State }.Settled unit := by
  unfold State.Settled
  by_cases same : unit = n
  · subst same
    simpa using close
  · simpa [same, State.Settled] using others same

theorem Tracked.task (tracked : Tracked s) (ret : Int32) : Tracked (pwmTask ret s) := by
  unfold Tracked at tracked
  cases place : s.place with
  | setCrit =>
    simp only [place] at tracked
    simpa [Tracked, pwmTask, place, State.Settled] using tracked
  | move =>
    simp only [place] at tracked
    obtain ⟨crit, settled⟩ := tracked
    simp only [Tracked, pwmTask, place]
    refine ⟨crit, fun unit below => absurd below (Fin.not_lt_zero unit), fun unit _ => ?_⟩
    -- The unit still has the duty cycle from before the move.
    have same : s.duty unit = s.ramp.n := (settled unit).1
    rw [same]
    exact move_le s.ramp
  | duty n =>
    simp only [place] at tracked
    obtain ⟨crit, before, after⟩ := tracked
    have first := settled_update (after n le_rfl)
    by_cases accepted : ret = 0
    · have settled (unit : Fin 3) (upTo : unit ≤ n) : (pwmTask ret s).Settled unit := by
        simp only [pwmTask, place, accepted, if_true]
        exact first unit fun other => before unit (lt_of_le_of_ne upTo other)
      have later (unit : Fin 3) (above : n < unit) :
          |(pwmTask ret s).duty unit - (pwmTask ret s).ramp.n| ≤ 500 := by
        simpa [pwmTask, place, accepted, above.ne'] using after unit above.le
      have same : (pwmTask ret s).crit = true := by simpa [pwmTask, place, accepted] using crit
      have ahead : (pwmTask ret s).place = next n := by simp [pwmTask, place, accepted]
      unfold Tracked
      rw [ahead]
      match n with
      | 0 => exact ⟨same, fun unit below => settled unit (by omega), fun unit above =>
          later unit (by omega)⟩
      | 1 => exact ⟨same, fun unit below => settled unit (by omega), fun unit above =>
          later unit (by omega)⟩
      | 2 => exact ⟨same, fun unit => settled unit (by omega)⟩
    · simpa [Tracked, pwmTask, place, accepted, State.Settled] using ⟨crit, before, after⟩
  | clearCrit =>
    simp only [place] at tracked
    simpa [Tracked, pwmTask, place, State.Settled] using tracked.2
  | delay =>
    simp only [place] at tracked
    simpa [Tracked, pwmTask, place, State.Settled] using tracked

/-- The interrupt leaves alone what the task keeps. -/
theorem captureIRQ_frame (time : BitVec 64) : (captureIRQ time s).place = s.place ∧
    (captureIRQ time s).crit = s.crit ∧ (captureIRQ time s).ramp = s.ramp ∧
      (captureIRQ time s).duty = s.duty ∧ (captureIRQ time s).previous = s.previous := by
  dsimp only [captureIRQ]
  split_ifs <;> exact ⟨rfl, rfl, rfl, rfl, rfl⟩

theorem Tracked.capture (tracked : Tracked s) (time : BitVec 64) :
    Tracked (captureIRQ time s) := by
  obtain ⟨place, crit, ramp, duty, previous⟩ := captureIRQ_frame (s := s) time
  unfold Tracked State.Settled
  rw [place, crit, ramp, duty, previous]
  exact tracked

theorem step_cases (enabled : step s label = some t) : s.halted = none ∧
    ((∃ ret, label = .task ret ∧ t = pwmTask ret s) ∨
      ∃ time, label = .capture time ∧ t = captureIRQ time s) := by
  unfold step at enabled
  cases halted : s.halted with
  | some halt => simp [halted] at enabled
  | none =>
    refine ⟨rfl, ?_⟩
    simp only [halted, Option.isSome_none, Bool.false_eq_true, if_false] at enabled
    cases label with
    | task ret => exact .inl ⟨ret, rfl, (Option.some.inj enabled).symm⟩
    | capture time => exact .inr ⟨time, rfl, (Option.some.inj enabled).symm⟩

theorem tracked_of_run (run : Run step boot labels s) : Tracked s := by
  induction run with
  | nil => exact tracked_boot
  | snoc _ enabled ih =>
    obtain ⟨-, ⟨ret, -, rfl⟩ | ⟨time, -, rfl⟩⟩ := step_cases enabled
    · exact ih.task ret
    · exact ih.capture time

theorem Tracked.settled (tracked : Tracked s) (calm : s.crit = false) (unit : Fin 3) :
    s.Settled unit := by
  unfold Tracked at tracked
  cases place : s.place <;> simp_all

/-! ## The assertion of the interrupt -/

variable {width : BitVec 64} {n duty : ℤ}

theorem toNat_ofInt_of_mem (nonneg : 0 ≤ n) (small : n < 2 ^ 64) :
    ((BitVec.ofInt 64 n).toNat : ℤ) = n := by
  rw [BitVec.toNat_ofInt]
  omega

theorem near_iff (low : 510 ≤ n) (high : n ≤ 20000) :
    Near width n ↔ |(width.toNat : ℤ) - n| ≤ 510 := by
  have below := toNat_ofInt_of_mem (n := n - 510) (by omega) (by omega)
  have above := toNat_ofInt_of_mem (n := n + 510) (by omega) (by omega)
  unfold Near maxDiff
  rw [abs_le, ge_iff_le, BitVec.le_def, BitVec.le_def]
  omega

/-- `MAX_DIFF` covers one move of the duty cycle and the tolerance of the capture. -/
theorem near_of_shows (low : 1000 < n) (high : n < 19000) (near : |duty - n| ≤ 500)
    (shows : Shows duty width) : Near width n ∨ Near (20000#64 - width) n := by
  rw [abs_le] at near
  rw [near_iff (by omega) (by omega), near_iff (by omega) (by omega), abs_le, abs_le]
  unfold Shows at shows
  rw [abs_le, abs_le] at shows
  rcases shows with high | low
  · left
    omega
  · right
    have rest : ((20000#64 - width).toNat : ℤ) = 20000 - width.toNat := by
      have fits := width.isLt
      bv_omega
    rw [rest]
    omega

/-- With a width that the unit can show the interrupt does not fail. -/
theorem captureIRQ_halted (tracked : Tracked s) (running : s.halted = none) {time : BitVec 64}
    (shown : Plausible unit s (.capture time)) : (captureIRQ time s).halted = none := by
  dsimp only [captureIRQ]
  split
  case isTrue compares =>
    obtain ⟨-, calm, -, -, later, low, high⟩ := compares
    obtain ⟨current, previous⟩ := tracked.settled calm unit
    have near : Near (time - s.us) s.ramp.n ∨ Near (20000#64 - (time - s.us)) s.ramp.n := by
      rcases shown later with shows | shows
      · exact near_of_shows low high (by simp [current]) shows
      · exact near_of_shows low high previous shows
    rw [if_pos near]
    exact running
  case isFalse =>
    split <;> exact running

/-- **The capture test does not fail for a PWM unit that works.** In every interleaving of
the task and the captures, whatever the unit whose output is captured: if each width is
that of the duty cycle the unit has, or had before, the assertion of the interrupt
holds. -/
theorem capture_in_tolerance (run : Run step boot labels s)
    (shown : Along (Plausible unit) step boot labels) : s.halted ≠ some .capture := by
  induction run with
  | nil => decide
  | snoc prior enabled ih =>
    obtain ⟨before, last⟩ := (along_append_singleton prior).mp shown
    obtain ⟨running, ⟨ret, rfl, rfl⟩ | ⟨time, rfl, rfl⟩⟩ := step_cases enabled
    · unfold pwmTask
      split
      case h_3 =>
        split <;> simp [running]
      all_goals simp [running]
    · simp [captureIRQ_halted (tracked_of_run prior) running last]

/-- The interrupt has started, and compares a high time of 10005. -/
def firstWidth : List Label :=
  List.replicate 21 (.capture 0) ++ [.capture 10000, .capture 20005]

theorem capture_in_tolerance_firstWidth :
    ∃ s, Run step boot firstWidth s ∧ s.Compares ∧ s.halted ≠ some .capture := by
  obtain ⟨s, run, compares⟩ : ∃ s, Run step boot firstWidth s ∧ s.Compares :=
    ⟨_, run_iff_foldlM.mpr rfl, by decide +kernel⟩
  have shown : Along (Plausible 0) step boot firstWidth := by decide +kernel
  exact ⟨s, run, compares, capture_in_tolerance run shown⟩

end TestSystem.PwmTest.Capture
