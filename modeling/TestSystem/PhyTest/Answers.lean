import TestSystem.PhyTest.Mdio

/-!
# Which calls get their own answer

As long as no call is started after one that timed out, `MMFR` is never written
while a frame is in progress, and every call that returns 0 has consumed the
token of its own frame. One call after a timeout is enough to lose this.
-/

namespace TestSystem.PhyTest

open TestSystem.Transition

/-- A call that returned 0 consumed the completion of the frame that it started,
which carried its word; a read stored what the PHY answered to it. -/
def Return.Own (enet : Enet) (completions : List Completion) (r : Return) : Prop :=
  r.ret = 0 → r.consumed = some r.number ∧
    ∃ answer, ⟨r.number, r.call.mmfr enet, answer⟩ ∈ completions ∧
      (r.call.operation = .read → r.value = some answer)

/-- `MMFR` is written between frames only, and calls have their own answers. -/
structure OwnAnswers (enet : Enet) (labels : List Label) (s : State) : Prop where
  exclusive : ∀ past call rest t, labels = past ++ .call call :: rest →
    Run (step enet) phytestInit past t → t.frame = none
  own : ∀ r ∈ s.returns, r.Own enet s.completions

/-- No call is started after a call that timed out. -/
def CallsInTime (past : List Label) : Label → Prop
  | .call _ => .timeout ∉ past
  | _ => True

/-- The frame of the latest call is in progress. -/
structure Outstanding (enet : Enet) (call : Call) (s : State) : Prop where
  frame : s.frame = some ⟨s.calls, call.mmfr enet, call.operation⟩
  mii : s.mii = none

/-- The frame of the latest call has completed, and `MMFR` still holds the answer. -/
structure Answered (enet : Enet) (call : Call) (s : State) : Prop where
  frame : s.frame = none
  completed : ∃ answer, ⟨s.calls, call.mmfr enet, answer⟩ ∈ s.completions ∧
    (call.operation = .read → s.mmfr.toUInt16 = answer)

/-- The frame of the latest call or its token is around. -/
def Pending (enet : Enet) (call : Call) (s : State) : Prop :=
  Outstanding enet call s ∨ Answered enet call s ∧ s.mii = some s.calls

/-- What is around, by where the task is and whether a call has timed out. -/
def Settled (enet : Enet) (labels : List Label) (s : State) : Prop :=
  match s.task with
  | .idle =>
    if .timeout ∈ labels then ∃ call, Pending enet call s else s.frame = none ∧ s.mii = none
  | .waiting call => .timeout ∉ labels ∧ Pending enet call s
  | .taken call token =>
    .timeout ∉ labels ∧ token = s.calls ∧ s.mii = none ∧ Answered enet call s

variable {enet : Enet} {labels : List Label} {s t : State} {call : Call}

/-- What every run keeps in which calls are in time. -/
structure Served (enet : Enet) (labels : List Label) (s : State) : Prop where
  eir : s.eir = 0
  settled : Settled enet labels s
  own : ∀ r ∈ s.returns, r.Own enet s.completions

theorem Return.Own.mono {r : Return} {completions : List Completion} {completion : Completion}
    (own : r.Own enet completions) : r.Own enet (completions ++ [completion]) := by
  intro zero
  obtain ⟨consumed, answer, completed, stored⟩ := own zero
  exact ⟨consumed, answer, List.mem_append_left _ completed, stored⟩

/-! ## A frame completes -/

theorem toUInt16_low_half (word : UInt32) (answer : UInt16) :
    ((word &&& 0xFFFF0000) ||| answer.toUInt32).toUInt16 = answer := by
  have high : (0xFFFF0000 : UInt32).toUInt16 = 0 := by decide
  rw [UInt32.toUInt16_or, UInt32.toUInt16_and, high]
  simp

/-- The handler of a completed frame clears the event and gives the token. -/
theorem enet1Handler_complete (documented : enet.Documented) (eir : s.eir = 0)
    (mii : s.mii = none) (frame : Frame) (answer : UInt16) :
    enet1Handler enet frame.number (complete enet frame answer s) =
      { complete enet frame answer s with eir := 0, mii := some frame.number } := by
  simp [enet1Handler, complete, eir, mii, documented.eirMii]

/-- When the frame of the latest call completes, its token is around. -/
theorem Pending.complete (documented : enet.Documented) (eir : s.eir = 0)
    (pending : Pending enet call s) {frame : Frame} (inProgress : s.frame = some frame)
    (answer : UInt16) :
    (enet1Handler enet frame.number (complete enet frame answer s)).eir = 0 ∧
      Pending enet call (enet1Handler enet frame.number (complete enet frame answer s)) := by
  rcases pending with ⟨latest, mii⟩ | ⟨answered, -⟩
  · obtain rfl : ⟨s.calls, call.mmfr enet, call.operation⟩ = frame :=
      Option.some.inj (latest.symm.trans inProgress)
    rw [enet1Handler_complete documented eir mii]
    refine ⟨rfl, .inr ⟨⟨rfl, answer, ?_, ?_⟩, rfl⟩⟩
    · simp [PhyTest.complete]
    · intro isRead
      simp only [PhyTest.complete, isRead]
      exact toUInt16_low_half s.mmfr answer
  · -- A frame that has completed is not in progress.
    exact absurd (answered.frame.symm.trans inProgress) (by simp)

theorem enet1Handler_keeps (enet : Enet) (number : ℕ) (s : State) :
    (enet1Handler enet number s).task = s.task ∧
      (enet1Handler enet number s).returns = s.returns ∧
      (enet1Handler enet number s).completions = s.completions := by
  unfold enet1Handler
  dsimp only
  split <;> simp

theorem served_complete (documented : enet.Documented) (served : Served enet labels s)
    {frame : Frame} (inProgress : s.frame = some frame) (answer : UInt16) :
    Served enet (labels ++ [.complete answer])
      (enet1Handler enet frame.number (complete enet frame answer s)) := by
  obtain ⟨eir, settled, own⟩ := served
  obtain ⟨task, returns, completions⟩ :=
    enet1Handler_keeps enet frame.number (complete enet frame answer s)
  have kept : ∀ r ∈ (enet1Handler enet frame.number (complete enet frame answer s)).returns,
      r.Own enet (enet1Handler enet frame.number (complete enet frame answer s)).completions := by
    rw [returns, completions]
    exact fun r member => (own r member).mono
  have place : (complete enet frame answer s).task = s.task := rfl
  cases hplace : s.task with
  | idle =>
    by_cases late : Label.timeout ∈ labels
    · obtain ⟨call, pending⟩ : ∃ call, Pending enet call s := by
        simpa [Settled, hplace, late] using settled
      obtain ⟨clear, pending⟩ := pending.complete documented eir inProgress answer
      refine ⟨clear, ?_, kept⟩
      simpa [Settled, task, place, hplace, late] using ⟨call, pending⟩
    · -- Between calls in time no frame is in progress.
      simp [Settled, hplace, late, inProgress] at settled
  | waiting call =>
    obtain ⟨inTime, pending⟩ : .timeout ∉ labels ∧ Pending enet call s := by
      simpa [Settled, hplace] using settled
    obtain ⟨clear, pending⟩ := pending.complete documented eir inProgress answer
    refine ⟨clear, ?_, kept⟩
    simpa [Settled, task, place, hplace, inTime] using pending
  | taken call token =>
    obtain ⟨-, -, -, answered⟩ : .timeout ∉ labels ∧ token = s.calls ∧ s.mii = none ∧
      Answered enet call s := by simpa [Settled, hplace] using settled
    exact absurd (answered.frame.symm.trans inProgress) (by simp)

/-! ## The steps of a call -/

theorem served_call (served : Served enet labels s) (idle : s.task = .idle)
    (inTime : Label.timeout ∉ labels) :
    Served enet (labels ++ [.call call]) (mdioStart enet call s) := by
  obtain ⟨eir, settled, own⟩ := served
  obtain ⟨frame, mii⟩ : s.frame = none ∧ s.mii = none := by
    simpa [Settled, idle, inTime] using settled
  have outstanding : Outstanding enet call (mdioStart enet call s) :=
    ⟨by simp [mdioStart, writeMmfr, frame], mii⟩
  refine ⟨eir, ?_, own⟩
  show _ ∧ Pending enet call _
  exact ⟨by simpa using inTime, .inl outstanding⟩

theorem pending_mdioReturn {call' : Call} {ret : Int32} {consumed : Option ℕ}
    {value : Option UInt16} (pending : Pending enet call s) :
    Pending enet call (mdioReturn call' ret consumed value s) := by
  rcases pending with ⟨frame, mii⟩ | ⟨⟨frame, completed⟩, mii⟩
  · exact .inl ⟨frame, mii⟩
  · exact .inr ⟨⟨frame, completed⟩, mii⟩

theorem served_timeout (served : Served enet labels s) (waiting : s.task = .waiting call) :
    Served enet (labels ++ [.timeout]) (mdioReturn call (-1) none none s) := by
  obtain ⟨eir, settled, own⟩ := served
  obtain ⟨-, pending⟩ : .timeout ∉ labels ∧ Pending enet call s := by
    simpa [Settled, waiting] using settled
  refine ⟨eir, ?_, ?_⟩
  · have late : Label.timeout ∈ labels ++ [.timeout] := by simp
    rw [Settled, mdioReturn, if_pos late]
    exact ⟨call, pending_mdioReturn pending⟩
  · intro r member
    rcases List.mem_append.mp member with old | new
    · exact own r old
    · obtain rfl := List.mem_singleton.mp new
      intro zero
      cases zero

/-- A call that returns 0 with the token of its own frame has its own answer. -/
theorem served_mdioReturn {value : Option UInt16} {a : Label} (eir : s.eir = 0)
    (own : ∀ r ∈ s.returns, r.Own enet s.completions)
    (inTime : Label.timeout ∉ labels ++ [a]) (frame : s.frame = none) (mii : s.mii = none)
    (completed : ∃ answer, ⟨s.calls, call.mmfr enet, answer⟩ ∈ s.completions ∧
      (call.operation = .read → value = some answer)) :
    Served enet (labels ++ [a]) (mdioReturn call 0 (some s.calls) value s) := by
  refine ⟨eir, ?_, ?_⟩
  · rw [Settled, mdioReturn, if_neg inTime]
    exact ⟨frame, mii⟩
  · intro r member
    rcases List.mem_append.mp member with old | new
    · exact own r old
    · obtain rfl := List.mem_singleton.mp new
      exact fun _ => ⟨rfl, completed⟩

theorem served_take (served : Served enet labels s) (waiting : s.task = .waiting call)
    {token : ℕ} (available : s.mii = some token) :
    Served enet (labels ++ [.take]) (mdioTaken call token s) := by
  obtain ⟨inTime, pending⟩ : .timeout ∉ labels ∧ Pending enet call s := by
    simpa [Settled, waiting] using served.settled
  obtain ⟨answered, mii⟩ : Answered enet call s ∧ s.mii = some s.calls := by
    -- The token that is available is that of the call's own frame.
    rcases pending with ⟨-, none⟩ | ready
    · exact absurd (none.symm.trans available) (by simp)
    · exact ready
  obtain rfl : token = s.calls := Option.some.inj (available.symm.trans mii)
  cases hoperation : call.operation with
  | write value =>
    have hstep : mdioTaken call s.calls s =
        mdioReturn call 0 (some s.calls) none { s with mii := none } := by
      simp [mdioTaken, hoperation]
    obtain ⟨answer, completed, -⟩ := answered.completed
    rw [hstep]
    exact served_mdioReturn served.eir served.own (by simpa using inTime) answered.frame rfl
      ⟨answer, completed, by simp [hoperation]⟩
  | read =>
    have hstep : mdioTaken call s.calls s =
        { s with mii := none, task := .taken call s.calls } := by
      simp [mdioTaken, hoperation]
    rw [hstep]
    refine ⟨served.eir, ?_, served.own⟩
    exact ⟨by simpa using inTime, rfl, rfl, answered.frame, answered.completed⟩

theorem served_store (documented : enet.Documented) (served : Served enet labels s) {token : ℕ}
    (taken : s.task = .taken call token) :
    Served enet (labels ++ [.store])
      (mdioReturn call 0 (some token) (some (enet.data s.mmfr).toUInt16) s) := by
  obtain ⟨inTime, rfl, mii, answered⟩ : .timeout ∉ labels ∧ token = s.calls ∧ s.mii = none ∧
    Answered enet call s := by simpa [Settled, taken] using served.settled
  obtain ⟨answer, completed, held⟩ := answered.completed
  refine served_mdioReturn served.eir served.own (by simpa using inTime) answered.frame mii
    ⟨answer, completed, ?_⟩
  intro isRead
  rw [documented.data, held isRead]

/-! ## Runs -/

theorem served_step (documented : enet.Documented) (served : Served enet labels s) {a : Label}
    (inTime : CallsInTime labels a) (enabled : step enet s a = some t) :
    Served enet (labels ++ [a]) t := by
  cases a with
  | call call =>
    cases hplace : s.task with
    | idle =>
      obtain rfl : mdioStart enet call s = t := by simpa [step, hplace] using enabled
      exact served_call served hplace inTime
    | waiting | taken => simp [step, hplace] at enabled
  | take =>
    cases hplace : s.task with
    | waiting call =>
      obtain ⟨token, available, rfl⟩ : ∃ token, s.mii = some token ∧
          mdioTaken call token s = t := by
        cases available : s.mii with
        | none => simp [step, hplace, available] at enabled
        | some token => exact ⟨token, rfl, by simpa [step, hplace, available] using enabled⟩
      exact served_take served hplace available
    | idle | taken => simp [step, hplace] at enabled
  | timeout =>
    cases hplace : s.task with
    | waiting call =>
      obtain rfl : mdioReturn call (-1) none none s = t := by
        cases available : s.mii with
        | none => simpa [step, hplace, available] using enabled
        | some token => simp [step, hplace, available] at enabled
      exact served_timeout served hplace
    | idle | taken => simp [step, hplace] at enabled
  | store =>
    cases hplace : s.task with
    | taken call token =>
      obtain rfl := by simpa [step, hplace] using enabled
      exact served_store documented served hplace
    | idle | waiting => simp [step, hplace] at enabled
  | complete answer =>
    obtain ⟨frame, inProgress, rfl⟩ := Option.map_eq_some_iff.mp enabled
    exact served_complete documented served inProgress answer

theorem served_of_run (documented : enet.Documented) (run : Run (step enet) phytestInit labels s)
    (inTime : Obeys CallsInTime labels) : Served enet labels s :=
  run.history inTime ⟨rfl, by simp [Settled, phytestInit], by simp [phytestInit]⟩
    fun _ last served enabled => served_step documented served last enabled

/-- Where a call starts, the task is idle. -/
theorem idle_of_run_call {past rest : List Label}
    (run : Run (step enet) phytestInit (past ++ .call call :: rest) s)
    (reached : Run (step enet) phytestInit past t) : t.task = .idle := by
  obtain ⟨t', first, second⟩ := run_append_iff.mp run
  obtain rfl := first.unique reached
  obtain ⟨u, started, -⟩ := run_append_iff.mp (List.singleton_append ▸ second)
  have enabled : step enet t' (.call call) = some u := by
    simpa using run_iff_foldlM.mp started
  cases hplace : t'.task with
  | idle => rfl
  | waiting | taken => simp [step, hplace] at enabled

theorem ownAnswers_of_run (documented : enet.Documented)
    (run : Run (step enet) phytestInit labels s) (inTime : Obeys CallsInTime labels) :
    OwnAnswers enet labels s where
  exclusive past call rest t split reached := by
    subst split
    have idle := idle_of_run_call run reached
    obtain ⟨before, late, -⟩ := obeysFrom_append.mp inTime
    have served := served_of_run documented reached before
    obtain ⟨frame, -⟩ : t.frame = none ∧ t.mii = none := by
      have noTimeout : Label.timeout ∉ past := by simpa [CallsInTime] using late
      simpa [Settled, idle, noTimeout] using served.settled
    exact frame
  own := (served_of_run documented run inTime).own

/-- After a timeout the next call alters the frame in progress or consumes the
token of that frame, whatever it asks. -/
theorem exists_not_ownAnswers (documented : enet.Documented)
    (run : Run (step enet) phytestInit labels s) (inTime : Obeys CallsInTime labels)
    (idle : s.task = .idle) (late : Label.timeout ∈ labels) (call : Call) :
    ∃ more t, (∀ a ∈ more, a = .take ∨ a = .store) ∧ Run (step enet) s (.call call :: more) t ∧
      ¬ OwnAnswers enet (labels ++ .call call :: more) t := by
  have served := served_of_run documented run inTime
  obtain ⟨latest, pending⟩ : ∃ latest, Pending enet latest s := by
    simpa [Settled, idle, late] using served.settled
  have started : Run (step enet) s [.call call] (mdioStart enet call s) :=
    .single (by simp [step, idle])
  rcases pending with ⟨frame, -⟩ | ⟨-, mii⟩
  · refine ⟨[], _, by simp, started, fun answers => ?_⟩
    -- The call writes `MMFR` while the frame before it is in progress.
    have between := answers.exclusive labels call [] s rfl run
    exact absurd (between.symm.trans frame) (by simp)
  · -- The call takes the token that bears the number of the call before it.
    have took : Run (step enet) (mdioStart enet call s) [.take]
        (mdioTaken call s.calls (mdioStart enet call s)) :=
      .single (by simp [step, mdioStart, writeMmfr, mii])
    have foreign {t : State} (value : Option UInt16)
        (returned : ⟨s.calls + 1, call, 0, some s.calls, value⟩ ∈ t.returns) (as : List Label) :
        ¬ OwnAnswers enet as t := by
      intro answers
      obtain ⟨consumed, -⟩ := answers.own _ returned rfl
      simp at consumed
    cases hoperation : call.operation with
    | write value =>
      refine ⟨[.take], _, by simp, started.append took, foreign none ?_ _⟩
      simp [mdioTaken, hoperation, mdioReturn, mdioStart, writeMmfr]
    | read =>
      have stored : Run (step enet) (mdioTaken call s.calls (mdioStart enet call s)) [.store]
          (mdioReturn call 0 (some s.calls) (some (enet.data (call.mmfr enet)).toUInt16)
            (mdioTaken call s.calls (mdioStart enet call s))) :=
        .single (by simp [step, mdioTaken, hoperation, mdioStart, writeMmfr])
      refine ⟨[.take, .store], _, by simp, started.append (took.append stored),
        foreign (some (enet.data (call.mmfr enet)).toUInt16) ?_ _⟩
      simp [mdioTaken, hoperation, mdioReturn, mdioStart, writeMmfr]

/-- **Calls get their own answers until one has timed out.** In every run in which
no call is started after a timeout, `MMFR` is written between frames only and
every call that returned 0 consumed its own frame. Any call after a timeout
breaks this by itself. -/
theorem own_answers_in_time (documented : enet.Documented)
    (run : Run (step enet) phytestInit labels s) (inTime : Obeys CallsInTime labels) :
    OwnAnswers enet labels s ∧
      (s.task = .idle → .timeout ∈ labels → ∀ call, ∃ more t,
        (∀ a ∈ more, a = .take ∨ a = .store) ∧ Run (step enet) s (.call call :: more) t ∧
          ¬ OwnAnswers enet (labels ++ .call call :: more) t) :=
  ⟨ownAnswers_of_run documented run inTime, exists_not_ownAnswers documented run inTime⟩

/-- The macros as the header of the device defines them. -/
def enetHeader : Enet where
  st x := (x <<< 30) &&& 0xC0000000
  op x := (x <<< 28) &&& 0x30000000
  pa x := (x <<< 23) &&& 0x0F800000
  ra x := (x <<< 18) &&& 0x007C0000
  ta x := (x <<< 16) &&& 0x00030000
  data x := x &&& 0x0000FFFF
  eirMii := 0x00800000

theorem documented_enetHeader : enetHeader.Documented where
  data word := by
    have low : (0x0000FFFF : UInt32).toUInt16 = -1 := by decide
    simp only [enetHeader, UInt32.toUInt16_and, low, UInt16.and_neg_one]
  eirMii := by decide

/-- A read that is answered in time. -/
theorem own_answers_in_time_read :
    ∃ s, Run (step enetHeader) phytestInit
        [.call ⟨1, 2, .read⟩, .complete 0x7949, .take, .store] s ∧
      OwnAnswers enetHeader [.call ⟨1, 2, .read⟩, .complete 0x7949, .take, .store] s ∧
      s.returns = [⟨1, ⟨1, 2, .read⟩, 0, some 1, some 0x7949⟩] := by
  have run : Run (step enetHeader) phytestInit
      [.call ⟨1, 2, .read⟩, .complete 0x7949, .take, .store] _ := run_iff_foldlM.mpr rfl
  refine ⟨_, run, (own_answers_in_time documented_enetHeader run ?_).1, by decide⟩
  simp [Obeys, ObeysFrom, CallsInTime]

/-- The frame of a read that timed out completes before the next read, which returns
the answer to a frame that was not its own; and without that completion the next
call writes `MMFR` while the frame is in progress. -/
theorem not_own_answers_late :
    (∃ s, Run (step enetHeader) phytestInit [.call ⟨1, 2, .read⟩, .timeout, .complete 0x7949,
        .call ⟨1, 3, .read⟩, .take, .store] s ∧
      ¬ OwnAnswers enetHeader [.call ⟨1, 2, .read⟩, .timeout, .complete 0x7949,
        .call ⟨1, 3, .read⟩, .take, .store] s) ∧
    ∃ s, Run (step enetHeader) phytestInit
        [.call ⟨1, 2, .read⟩, .timeout, .call ⟨1, 3, .read⟩] s ∧
      ¬ OwnAnswers enetHeader [.call ⟨1, 2, .read⟩, .timeout, .call ⟨1, 3, .read⟩] s := by
  refine ⟨⟨_, run_iff_foldlM.mpr rfl, fun answers => ?_⟩, _, run_iff_foldlM.mpr rfl,
    fun answers => ?_⟩
  · obtain ⟨consumed, -⟩ := answers.own _ (List.mem_cons_of_mem _ List.mem_cons_self) rfl
    exact absurd consumed (by decide)
  · have between := answers.exclusive [.call ⟨1, 2, .read⟩, .timeout] ⟨1, 3, .read⟩ [] _ rfl
      (run_iff_foldlM.mpr rfl)
    cases between

end TestSystem.PhyTest
