import TestSystem.RemoteControl.Setup
import TestSystem.Transition.Run

/-!
# The rows of the remote control test

`src/vf610/rctest.c` sets up six channels for six capture units, in another order than
the units have, and prints a row of eight values every 10 ms. `rc_get` reads the flag of
a channel and then its width, and an interrupt may come between the two.
-/

namespace TestSystem.RemoteControl.Rows

open TestSystem.Transition

/-- The capture units, in the order of the calls of `rc_setup`. -/
def units : List ℕ := [5, 4, 3, 2, 7, 6]

/-- The calls of `rc_setup` in `rcInit`, each followed by its assertion. -/
def setUpUnits (s : SetupState) : List SetupCall → Option SetupState
  | [] => some s
  | call :: calls => if s.ret call < 0 then none else setUpUnits (s.call call) calls

/-- `rcInit`. What `rc_init` returns is not tested before it is used. -/
def rcInitTest (allocated : Bool) (ret : Int32) (answer : ℕ → Answer) : Option SetupState := do
  let rc ← rcInit allocated ret
  setUpUnits (initialised rc fun _ => none) (units.map fun unit => ⟨answer unit, unit⟩)

/-! ## The object after `rcInit` -/

/-- A call that the driver accepts. -/
def accepted (unit : ℕ) : SetupCall := ⟨⟨0, 0, 0⟩, unit⟩

/-- The object after the first `n` calls. -/
def afterCalls (n : ℕ) : SetupState :=
  (initialised cleared fun _ => none).calls ((units.take n).map accepted)

/-- The channel of the call `n`. -/
def channelOfCall (n : Fin 6) : Fin rcMaxChannels := ⟨n, Nat.lt_of_lt_of_le n.isLt (by decide)⟩

theorem freeIndex_afterCalls : ∀ n : Fin 6,
    freeIndex (afterCalls n).rc = some (channelOfCall n) := by decide +kernel

theorem freeIndex_of_lt {n : ℕ} (inside : n < 6) :
    freeIndex (afterCalls n).rc = some (channelOfCall ⟨n, inside⟩) :=
  freeIndex_afterCalls ⟨n, inside⟩

theorem accepted_nonneg (unit : ℕ) : ¬ (accepted unit).answer.setCallback < 0 ∧
    ¬ (accepted unit).answer.setPeriod < 0 := by simp [accepted]

/-- A call that passes its assertion is like one that the driver accepts. -/
theorem call_eq_accepted {s : SetupState} {call : SetupCall} {c : Fin rcMaxChannels}
    (found : freeIndex s.rc = some c) (passes : ¬ s.ret call < 0) :
    s.call call = s.call (accepted call.capture) := by
  obtain ⟨zero, zero'⟩ := accepted_nonneg call.capture
  have right : s.call (accepted call.capture) = _ ∧ s.ret (accepted call.capture) = _ :=
    call_of_eq (rcSetup_of_accepted found zero zero')
  by_cases callback : call.answer.setCallback < 0
  · have left : s.call call = _ ∧ s.ret call = _ :=
      call_of_eq (rcSetup_of_setCallback_neg found callback)
    exact absurd (left.2 ▸ callback) passes
  · by_cases period : call.answer.setPeriod < 0
    · have left : s.call call = _ ∧ s.ret call = _ :=
        call_of_eq (rcSetup_of_setPeriod_neg found callback period)
      exact absurd (left.2 ▸ period) passes
    · have left : s.call call = _ ∧ s.ret call = _ :=
        call_of_eq (rcSetup_of_accepted found callback period)
      rw [left.1, right.1]
      rfl

theorem afterCalls_succ {n unit : ℕ} (next : units[n]? = some unit) :
    afterCalls (n + 1) = (afterCalls n).call (accepted unit) := by
  simp [afterCalls, SetupState.calls, List.take_add_one, next]

/-- The assertions let pass only the object that the accepted calls make. -/
theorem setUpUnits_eq {answer : ℕ → Answer} {s : SetupState} {n : ℕ} (le : n ≤ 6)
    (done : setUpUnits (afterCalls n) ((units.drop n).map fun unit => ⟨answer unit, unit⟩) =
      some s) : s = afterCalls 6 := by
  induction k : 6 - n generalizing n with
  | zero =>
    obtain rfl : n = 6 := by omega
    exact (Option.some.inj done).symm
  | succ k ih =>
    have inside : n < units.length := by
      have length : units.length = 6 := rfl
      omega
    rw [List.drop_eq_getElem_cons inside, List.map_cons, setUpUnits] at done
    split at done
    case isTrue => cases done
    case isFalse passes =>
      rw [call_eq_accepted (freeIndex_of_lt inside) passes,
        ← afterCalls_succ (List.getElem?_eq_getElem inside)] at done
      exact ih inside done (by omega)

theorem rcInitTest_eq {allocated : Bool} {ret : Int32} {answer : ℕ → Answer} {s : SetupState}
    (done : rcInitTest allocated ret answer = some s) : s = afterCalls 6 := by
  unfold rcInitTest rcInit at done
  by_cases memory : allocated
  · by_cases failed : ret < 0
    · simp [memory, failed] at done
    · simp only [memory, not_true_eq_false, if_false, failed] at done
      exact setUpUnits_eq (Nat.zero_le 6) done
  · simp [memory] at done

/-- The channel that an edge of the unit is captured for. -/
def channelOf : ℕ → Option (Fin rcMaxChannels)
  | 5 => some 0
  | 4 => some 1
  | 3 => some 2
  | 2 => some 3
  | 7 => some 4
  | 6 => some 5
  | _ => none

theorem callback_afterCalls {n unit : ℕ} (inside : n < 6) (next : units[n]? = some unit) :
    (afterCalls (n + 1)).captures.callback =
      Function.update (afterCalls n).captures.callback unit (some (channelOfCall ⟨n, inside⟩)) := by
  obtain ⟨zero, zero'⟩ := accepted_nonneg unit
  rw [afterCalls_succ next,
    (call_of_eq (rcSetup_of_accepted (freeIndex_of_lt inside) zero zero')).1]
  rfl

theorem callback_eq_channelOf : (afterCalls 6).captures.callback = channelOf := by
  rw [callback_afterCalls (n := 5) (by decide) rfl, callback_afterCalls (n := 4) (by decide) rfl,
    callback_afterCalls (n := 3) (by decide) rfl, callback_afterCalls (n := 2) (by decide) rfl,
    callback_afterCalls (n := 1) (by decide) rfl, callback_afterCalls (n := 0) (by decide) rfl]
  funext unit
  unfold channelOf
  split <;> simp_all [afterCalls, SetupState.calls, initialised, channelOfCall, rcMaxChannels]

/-- The channels have seen no edge, also those that no call has claimed. -/
theorem blank_afterCalls : ∀ c, ((afterCalls 6).rc.channelAt c).raw = 0 ∧
    ((afterCalls 6).rc.channelAt c).value = 0 ∧ ((afterCalls 6).rc.channelAt c).retry = false ∧
      ((afterCalls 6).rc.channelAt c).corret = false := by decide +kernel

/-! ## Channels that differ in their unit -/

/-- Nothing that the interrupts read differs. -/
structure Alike (channel channel' : RcChannel) : Prop where
  raw : channel.raw = channel'.raw
  value : channel.value = channel'.value
  retry : channel.retry = channel'.retry
  corret : channel.corret = channel'.corret

section Alike

variable {rc rc' : Rc} {c : Fin rcMaxChannels} {channel channel' : RcChannel}

theorem Alike.eq (alike : Alike channel channel') :
    channel = { channel' with capture := channel.capture } := by
  obtain ⟨raw, value, retry, corret⟩ := alike
  cases channel
  simp_all

theorem Alike.respond (alike : Alike channel channel') (signal : Signal) :
    Alike (channel.respond signal) (channel'.respond signal) := by
  rw [alike.eq]
  cases signal with
  | edge time =>
    simp only [RcChannel.respond, rcIRQHandler]
    split_ifs <;> exact ⟨rfl, rfl, rfl, rfl⟩
  | overflow =>
    simp only [RcChannel.respond, overflowChannel]
    split_ifs <;> exact ⟨rfl, rfl, rfl, rfl⟩

theorem Alike.run (alike : Alike (rc.channelAt c) (rc'.channelAt c)) (events : List Event) :
    Alike ((run rc events).channelAt c) ((run rc' events).channelAt c) := by
  rw [run_channel, run_channel]
  generalize events.filterMap (ownSignal c) = signals
  induction signals using List.reverseRecOn with
  | nil => exact alike
  | append_singleton signals signal ih =>
    rw [List.foldl_append, List.foldl_append]
    exact ih.respond signal

/-- They accept the same edges. -/
theorem Alike.acceptedEdge (alike : Alike (rc.channelAt c) (rc'.channelAt c)) :
    AcceptedEdge rc c = AcceptedEdge rc' c := by
  funext past e
  have raw := (alike.run past).raw
  simp only [AcceptedEdge, Accepts, raw]

theorem Alike.widthOf (alike : Alike (rc.channelAt c) (rc'.channelAt c)) :
    widthOf rc c = widthOf rc' c := by
  funext past e
  cases e with
  | edge channel time =>
    have raw := (alike.run past).raw
    simp only [RemoteControl.widthOf, raw]
  | overflow => rfl

theorem Alike.fresh (alike : Alike (rc.channelAt c) (rc'.channelAt c)) {events : List Event}
    (fresh : Fresh rc' c events ((RemoteControl.run rc' events).channelAt c)) :
    Fresh rc c events ((RemoteControl.run rc events).channelAt c) := by
  obtain ⟨-, value, retry, corret⟩ := alike.run events
  have age (n : ℕ) : AgeBelow rc c n events ↔ AgeBelow rc' c n events := by
    simp only [AgeBelow, alike.acceptedEdge]
  refine ⟨?_, ?_, fun latest => ?_⟩
  · rw [corret, age]
    exact fresh.corret
  · rw [retry, age]
    exact fresh.retry
  · rw [alike.acceptedEdge] at latest
    rw [value, alike.widthOf]
    exact fresh.value latest

end Alike

/-- The channels below `c` are claimed. -/
def claimedBelow (c : Fin rcMaxChannels) : Rc :=
  ⟨Vector.ofFn fun i => if i < c then claimed 0 else ⟨none, 0, 0, false, false⟩⟩

theorem freeIndex_claimedBelow : ∀ c, freeIndex (claimedBelow c) = some c := by decide +kernel

/-- The flags of every channel tell the age of its width. -/
def AllFresh (rc : Rc) : Prop :=
  ∀ c events, Fresh rc c events ((run rc events).channelAt c)

theorem allFresh_afterCalls : AllFresh (afterCalls 6).rc := by
  intro c events
  -- An object on which `rc_setup` has just succeeded with this channel.
  have setUp : SetUp ((claimedBelow c).setChannel c (claimed 0)) c := by
    refine ⟨⟨0, 0, 0⟩, claimedBelow c, ⟨fun _ => none, fun _ => none⟩, 0,
      freeIndex_claimedBelow c, by decide, by decide, ?_⟩
    rw [rcSetup_of_accepted (freeIndex_claimedBelow c) (by decide) (by decide)]
  obtain ⟨raw, value, retry, corret⟩ := blank_afterCalls c
  have alike : Alike ((afterCalls 6).rc.channelAt c)
      (((claimedBelow c).setChannel c (claimed 0)).channelAt c) := by
    rw [channelAt_setChannel, if_pos rfl]
    exact ⟨raw, value, retry, corret⟩
  exact alike.fresh (fresh_run setUp events)

/-! ## The task and the interrupts -/

/-- The statement of `rcTestTask` that is executed next. -/
inductive Place
  /-- `if (rc->channel[i].corret)` of `rc_get`. -/
  | test (i : Fin rcMaxChannels)
  /-- `return rc->channel[i].value`, and the print after it. -/
  | value (i : Fin rcMaxChannels)
  | delay
  deriving DecidableEq, Repr

/-- `i++` and the condition of the loop. -/
def nextPlace (i : Fin rcMaxChannels) : Place :=
  if h : i + 1 < rcMaxChannels then .test ⟨i + 1, h⟩ else .delay

/-- The object, where the task is, and what it has printed. -/
structure State where
  rc : Rc
  place : Place
  printed : List (Fin rcMaxChannels × UInt32)

/-- `rcTestTask` begins. -/
def start (s : SetupState) : State := ⟨s.rc, .test 0, []⟩

/-- The task executes its next statement, or an interrupt comes. -/
inductive Label
  | task
  /-- A capture unit sees an edge. -/
  | capture (unit : ℕ) (time : UInt64)
  | overflow
  deriving DecidableEq, Repr

/-- The interrupt of the label, if it reaches the object. -/
def eventOf (callback : ℕ → Option (Fin rcMaxChannels)) : Label → Option Event
  | .task => none
  | .capture unit time => (callback unit).map fun c => .edge c time
  | .overflow => some .overflow

/-- The next statement of the task; the flag and the value of a channel are two reads. -/
def rcTestTask (s : State) : State :=
  match s.place with
  | .test i =>
    if (s.rc.channelAt i).corret then { s with place := .value i }
    else { s with place := nextPlace i, printed := s.printed ++ [(i, 0)] }
  | .value i =>
    { s with place := nextPlace i, printed := s.printed ++ [(i, (s.rc.channelAt i).value)] }
  | .delay => { s with place := .test 0 }

/-- One step; an interrupt reaches the channel that its unit is registered for. -/
def step (callback : ℕ → Option (Fin rcMaxChannels)) (s : State) (label : Label) :
    Option State :=
  match label with
  | .task => some (rcTestTask s)
  | _ => some { s with rc := run s.rc (eventOf callback label).toList }

/-! ## What a row shows -/

/-- The interrupts that reach the object. -/
def delivered (callback : ℕ → Option (Fin rcMaxChannels)) (labels : List Label) : List Event :=
  labels.filterMap (eventOf callback)

/-- After the labels the task reads the flag of channel `i`, for entry `n`. -/
def Tests (callback : ℕ → Option (Fin rcMaxChannels)) (s₀ : State) (labels : List Label)
    (i : Fin rcMaxChannels) (n : ℕ) : Prop :=
  ∃ s, Run (step callback) s₀ labels s ∧ s.place = .test i ∧ s.printed.length = n

/-- Entry `n` is the width of the latest accepted edge at the read of the value. At the read
of the flag, in the same call of `rc_get`, fewer than two overflows had followed the latest
edge. -/
def Shown (callback : ℕ → Option (Fin rcMaxChannels)) (s₀ : State) (labels : List Label) (n : ℕ)
    (entry : Fin rcMaxChannels × UInt32) : Prop :=
  ∃ tested between later, labels = tested ++ .task :: (between ++ .task :: later) ∧
    Tests callback s₀ tested entry.1 n ∧ (∀ label ∈ between, label ≠ .task) ∧
    AgeBelow s₀.rc entry.1 2 (delivered callback tested) ∧
    ∃ pre e post,
      Latest (AcceptedEdge s₀.rc entry.1) (delivered callback (tested ++ .task :: between))
        pre e post ∧
      entry.2 = widthOf s₀.rc entry.1 pre e

/-- Entry `n` is zero. At the read of the flag no edge had been accepted, or two overflows had
followed the latest one. -/
def Stale (callback : ℕ → Option (Fin rcMaxChannels)) (s₀ : State) (labels : List Label) (n : ℕ)
    (entry : Fin rcMaxChannels × UInt32) : Prop :=
  ∃ tested later, labels = tested ++ .task :: later ∧ Tests callback s₀ tested entry.1 n ∧
    ¬ AgeBelow s₀.rc entry.1 2 (delivered callback tested) ∧ entry.2 = 0

variable {callback : ℕ → Option (Fin rcMaxChannels)} {rc : Rc} {labels : List Label}
  {s₀ s t : State} {label : Label} {events : List Event} {e : Event} {n : ℕ}
  {entry : Fin rcMaxChannels × UInt32}

theorem delivered_append_singleton :
    delivered callback (labels ++ [label]) =
      delivered callback labels ++ (eventOf callback label).toList := by
  rw [delivered, List.filterMap_append]
  cases event : eventOf callback label <;> simp [delivered, event]

/-- The read of the flag is no interrupt. -/
theorem delivered_append_task (tested between : List Label) :
    delivered callback (tested ++ .task :: between) =
      delivered callback tested ++ delivered callback between := by
  have silent : eventOf callback .task = none := rfl
  simp [delivered, silent]

theorem Shown.append (shown : Shown callback s₀ labels n entry) (label : Label) :
    Shown callback s₀ (labels ++ [label]) n entry := by
  obtain ⟨tested, between, later, rfl, reads, young, latest⟩ := shown
  exact ⟨tested, between, later ++ [label], by simp, reads, young, latest⟩

theorem Stale.append (stale : Stale callback s₀ labels n entry) (label : Label) :
    Stale callback s₀ (labels ++ [label]) n entry := by
  obtain ⟨tested, later, rfl, reads, old⟩ := stale
  exact ⟨tested, later ++ [label], by simp, reads, old⟩

/-- The number of entries that were printed tells the channel. -/
def InRow (s : State) : Prop :=
  match s.place with
  | .test i | .value i => s.printed.length % rcMaxChannels = i
  | .delay => s.printed.length % rcMaxChannels = 0

/-- After the flag was found set, interrupts may have come before the value is read. -/
def Pending (callback : ℕ → Option (Fin rcMaxChannels)) (s₀ : State) (labels : List Label)
    (s : State) : Prop :=
  ∀ i, s.place = .value i →
    ∃ tested between, labels = tested ++ .task :: between ∧
      Tests callback s₀ tested i s.printed.length ∧ (∀ label ∈ between, label ≠ .task) ∧
      AgeBelow s₀.rc i 2 (delivered callback tested)

/-- What holds after every run. -/
structure Tracked (callback : ℕ → Option (Fin rcMaxChannels)) (s₀ : State) (labels : List Label)
    (s : State) : Prop where
  object : s.rc = run s₀.rc (delivered callback labels)
  inRow : InRow s
  pending : Pending callback s₀ labels s
  printed : ∀ n entry, s.printed[n]? = some entry → (entry.1 : ℕ) = n % rcMaxChannels ∧
    (Shown callback s₀ labels n entry ∨ Stale callback s₀ labels n entry)

theorem nextPlace_ne_value (i j : Fin rcMaxChannels) : nextPlace i ≠ .value j := by
  unfold nextPlace
  split <;> simp

/-- The entry of a channel is followed by the next channel, or by the delay. -/
theorem inRow_nextPlace {i : Fin rcMaxChannels}
    (row : s.printed.length % rcMaxChannels = i) (value : UInt32) :
    InRow { s with place := nextPlace i, printed := s.printed ++ [(i, value)] } := by
  have wraps := Nat.add_mod s.printed.length 1 rcMaxChannels
  have inside := i.isLt
  unfold InRow nextPlace
  split_ifs with more
  · simp only [List.length_append, List.length_singleton, wraps, row]
    exact Nat.mod_eq_of_lt more
  · have last : (i : ℕ) + 1 = rcMaxChannels := by omega
    simp only [List.length_append, List.length_singleton, wraps, row]
    simp [last]

/-- A new entry stands behind the others. -/
theorem Tracked.print (tracked : Tracked callback s₀ labels s) {i : Fin rcMaxChannels}
    (row : s.printed.length % rcMaxChannels = i) (value : UInt32)
    (new : Shown callback s₀ (labels ++ [.task]) s.printed.length (i, value) ∨
      Stale callback s₀ (labels ++ [.task]) s.printed.length (i, value)) :
    Tracked callback s₀ (labels ++ [.task])
      { s with place := nextPlace i, printed := s.printed ++ [(i, value)] } where
  object := by
    rw [delivered_append_singleton, eventOf, Option.toList_none, List.append_nil]
    exact tracked.object
  inRow := inRow_nextPlace row value
  pending j here := absurd here (nextPlace_ne_value i j)
  printed n entry found := by
    rw [List.getElem?_append] at found
    split at found
    case isTrue old =>
      exact (tracked.printed n entry found).imp_right
        (Or.imp (Shown.append · .task) (Stale.append · .task))
    case isFalse later =>
      obtain ⟨zero, rfl⟩ : n - s.printed.length = 0 ∧ (i, value) = entry := by
        simpa [List.getElem?_singleton] using found
      obtain rfl : n = s.printed.length := by omega
      exact ⟨row.symm, new⟩

/-- After a young edge there is a latest one, however many overflows follow. -/
theorem exists_latest {c : Fin rcMaxChannels} {tested : List Event} (young : AgeBelow rc c 2 tested)
    (between : List Event) :
    ∃ pre e post, Latest (AcceptedEdge rc c) (tested ++ between) pre e post := by
  induction between using List.reverseRecOn with
  | nil =>
    obtain ⟨pre, e, post, latest, -⟩ := young
    exact ⟨pre, e, post, by simpa using latest⟩
  | append_singleton between a ih =>
    obtain ⟨pre, e, post, latest⟩ := ih
    rw [← List.append_assoc]
    by_cases meets : AcceptedEdge rc c (tested ++ between) a
    · exact ⟨_, _, _, (latest_append_of_meets meets).mpr ⟨rfl, rfl, rfl⟩⟩
    · exact ⟨_, _, _, (latest_append_of_not_meets meets).mpr ⟨post, rfl, latest⟩⟩

theorem Tracked.task (fresh : AllFresh s₀.rc) (run : Run (step callback) s₀ labels s)
    (tracked : Tracked callback s₀ labels s) :
    Tracked callback s₀ (labels ++ [.task]) (rcTestTask s) := by
  have object := tracked.object
  have row := tracked.inRow
  have same : delivered callback (labels ++ [.task]) = delivered callback labels := by
    rw [delivered_append_singleton, eventOf, Option.toList_none, List.append_nil]
  have older (n : ℕ) (entry : Fin rcMaxChannels × UInt32) (found : s.printed[n]? = some entry) :=
    (tracked.printed n entry found).imp_right
      (Or.imp (Shown.append · .task) (Stale.append · .task))
  unfold rcTestTask
  cases place : s.place with
  | test i =>
    have flag := (fresh i (delivered callback labels)).corret
    rw [← object] at flag
    have tests : Tests callback s₀ labels i s.printed.length := ⟨s, run, place, rfl⟩
    rw [InRow, place] at row
    simp only
    split
    -- The flag was right when it was read; what comes before the value is kept apart.
    case isTrue corret =>
      refine ⟨same ▸ object, row, fun j here => ?_, older⟩
      obtain rfl : i = j := by simpa using here
      exact ⟨labels, [], rfl, tests, by simp, flag.mp corret⟩
    case isFalse corret =>
      exact tracked.print row 0
        (.inr ⟨labels, [], rfl, tests, fun young => corret (flag.mpr young), rfl⟩)
  | value i =>
    obtain ⟨tested, between, rfl, tests, quiet, young⟩ := tracked.pending i place
    rw [InRow, place] at row
    obtain ⟨pre, e, post, latest⟩ := exists_latest young (delivered callback between)
    rw [← delivered_append_task] at latest
    refine tracked.print row _ (.inl ⟨tested, between, [], by simp, tests, quiet, young, pre, e,
      post, latest, ?_⟩)
    rw [object]
    exact (fresh i _).value latest
  | delay =>
    rw [InRow, place] at row
    exact ⟨same ▸ object, row, fun j here => by simp at here, older⟩

/-- An interrupt between two statements. -/
theorem Tracked.interrupt (tracked : Tracked callback s₀ labels s) (isr : label ≠ .task) :
    Tracked callback s₀ (labels ++ [label])
      { s with rc := run s.rc (eventOf callback label).toList } where
  object := by rw [tracked.object, delivered_append_singleton, run, run, run, List.foldl_append]
  inRow := tracked.inRow
  pending i here := by
    obtain ⟨tested, between, rfl, tests, quiet, young⟩ := tracked.pending i here
    refine ⟨tested, between ++ [label], by simp, tests, fun other member => ?_, young⟩
    rcases List.mem_append.mp member with old | new
    · exact quiet other old
    · exact List.mem_singleton.mp new ▸ isr
  printed n entry found := (tracked.printed n entry found).imp_right
    (Or.imp (Shown.append · label) (Stale.append · label))

theorem tracked_of_run (fresh : AllFresh rc)
    (run : Run (step callback) ⟨rc, .test 0, []⟩ labels s) :
    Tracked callback ⟨rc, .test 0, []⟩ labels s := by
  induction run with
  | nil => exact ⟨rfl, rfl, fun i here => by simp at here, by simp⟩
  | @snoc labels s label t prior enabled ih =>
    cases label with
    | task =>
      obtain rfl := Option.some.inj enabled
      exact ih.task fresh prior
    | capture unit time =>
      obtain rfl := Option.some.inj enabled
      exact ih.interrupt (by simp)
    | overflow =>
      obtain rfl := Option.some.inj enabled
      exact ih.interrupt (by simp)

/-- A young width comes from an edge of the channel. -/
theorem exists_edge_of_ageBelow {c : Fin rcMaxChannels} {n : ℕ} (young : AgeBelow rc c n events) :
    ∃ time, Event.edge c time ∈ events := by
  obtain ⟨pre, e, post, latest, -⟩ := young
  obtain ⟨time, rfl, -⟩ := latest.meets
  exact ⟨time, by simp [latest.split]⟩

theorem channelOf_lt {unit : ℕ} {c : Fin rcMaxChannels} (captured : channelOf unit = some c) :
    (c : ℕ) < 6 := by
  unfold channelOf at captured
  split at captured <;> cases captured <;> decide

/-- No unit reports to the last two channels. -/
theorem lt_of_edge_mem {c : Fin rcMaxChannels} {time : UInt64}
    (member : Event.edge c time ∈ delivered channelOf labels) : (c : ℕ) < 6 := by
  obtain ⟨label, -, event⟩ := List.mem_filterMap.mp member
  cases label with
  | task => cases event
  | capture unit time' =>
    obtain ⟨c', captured, same⟩ := Option.map_eq_some_iff.mp event
    cases same
    exact channelOf_lt captured
  | overflow => cases event

theorem Shown.window (shown : Shown callback s₀ labels n entry) :
    rcMin < entry.2 ∧ entry.2 < rcMax := by
  obtain ⟨tested, between, later, -, -, -, -, pre, e, post, latest, width⟩ := shown
  rw [width]
  exact widthOf_mem_window latest.meets

/-- **What the rows show.** After `rcInit` has passed its assertions, and however the
interrupts fall between the statements of the task, the entries go through the channels in
turn. Each one that is not zero belongs to one of the six channels and is the width of the
latest pulse of its own unit when the value was read, within the window; when the flag was
read just before, fewer than two overflows had followed the latest pulse. Where an entry is
zero there was no such pulse when the flag was read. -/
theorem rows_fresh {allocated : Bool} {ret : Int32} {answer : ℕ → Answer} {setUp : SetupState}
    (init : rcInitTest allocated ret answer = some setUp)
    (run : Run (step setUp.captures.callback) (start setUp) labels s)
    (printed : s.printed[n]? = some entry) :
    (entry.1 : ℕ) = n % rcMaxChannels ∧
      (entry.2 = 0 → Stale channelOf (start setUp) labels n entry) ∧
      (entry.2 ≠ 0 → (entry.1 : ℕ) < 6 ∧ 480 < entry.2 ∧ entry.2 < 2200 ∧
        Shown channelOf (start setUp) labels n entry) := by
  obtain rfl := rcInitTest_eq init
  rw [callback_eq_channelOf] at run
  obtain ⟨channel, what⟩ := (tracked_of_run allFresh_afterCalls run).printed n entry printed
  refine ⟨channel, ?_⟩
  rcases what with shown | stale
  -- A width is above `RC_MIN`, so zero is printed for a stale channel only.
  · obtain ⟨low, high⟩ := shown.window
    refine ⟨fun zero => ?_, fun _ => ⟨?_, low, high, shown⟩⟩
    · rw [zero] at low
      exact absurd low (by decide)
    · obtain ⟨tested, between, later, -, -, -, young, -⟩ := shown
      obtain ⟨time, edge⟩ := exists_edge_of_ageBelow young
      exact lt_of_edge_mem edge
  · refine ⟨fun _ => stale, fun nonzero => ?_⟩
    obtain ⟨tested, later, -, -, -, zero⟩ := stale
    exact absurd zero nonzero

/-- Two edges of unit 5 are a pulse of 1500; the overflows come between the test of the
flag and the read. -/
def onePulse : List Label :=
  [.capture 5 3000, .capture 5 4500, .task, .overflow, .overflow, .task, .task]

theorem rows_fresh_onePulse :
    ∃ setUp s, rcInitTest true 0 (fun _ => ⟨0, 0, 0⟩) = some setUp ∧
      Run (step setUp.captures.callback) (start setUp) onePulse s ∧
        s.printed = [(0, 1500), (1, 0)] ∧
          Shown channelOf (start setUp) onePulse 0 (0, 1500) := by
  have init : rcInitTest true 0 (fun _ => ⟨0, 0, 0⟩) = some (afterCalls 6) := by
    obtain ⟨s, some⟩ : ∃ s, rcInitTest true 0 (fun _ => ⟨0, 0, 0⟩) = some s :=
      Option.isSome_iff_exists.mp (by decide +kernel)
    rw [some, rcInitTest_eq some]
  obtain ⟨s, run, checked⟩ := exists_run_of_check (step channelOf) (start (afterCalls 6)) onePulse
    (fun s : State => s.printed = [(0, 1500), (1, 0)]) (by decide +kernel)
  have printed : s.printed = [(0, 1500), (1, 0)] := by simpa using checked
  rw [← callback_eq_channelOf] at run
  refine ⟨afterCalls 6, s, init, run, printed, ?_⟩
  exact ((rows_fresh init run (by rw [printed]; rfl)).2.2 (by decide)).2.2.2

end TestSystem.RemoteControl.Rows
