import TestSystem.SdTest.Card

/-!
# What the card holds after the test

The test writes to the card, but only what it has read from it before. Where the reads
give what the card holds, the card holds the same at every moment of the test, and the
comparison at the end of `testReadWrite` does not fail.
-/

namespace TestSystem.SdTest

open TestSystem.Transition

variable {n : ℕ} {s t : State n} {event : Event n} {events : List (Event n)} {rca : BitVec 32}
  {held : Vector UInt8 n}

/-- What the card holds after an event; a write that fails is left out. -/
def Event.stored (held : Vector UInt8 n) : Event n → Vector UInt8 n
  | .call (.write _ _ data) answer => if answer.ret = 0 then data else held
  | _ => held

/-- What the card holds after the events. -/
def content (held : Vector UInt8 n) (events : List (Event n)) : Vector UInt8 n :=
  events.foldl Event.stored held

/-- A read that succeeds gives what the card holds. -/
def Event.Honest (held : Vector UInt8 n) (past : List (Event n)) : Event n → Prop
  | .call (.read _ _) answer => answer.ret = 0 → answer.data = content held past
  | _ => True

/-- The event writes nothing but the bytes. -/
def Event.Writes (held : Vector UInt8 n) : Event n → Prop
  | .call (.write _ _ data) _ => data = held
  | _ => True

/-- The task is between its read and its comparison. -/
def Stage.filled : Stage → Bool
  | .blockSize | .read => false
  | _ => true

/-- What the task and the card have in common at each moment. -/
structure Kept (held : Vector UInt8 n) (events : List (Event n)) (s : State n) : Prop where
  content : SdTest.content held events = held
  writes : ∀ event ∈ events, event.Writes held
  data : ∀ round stage, s.place = .test round stage → stage.filled → s.data = held
  data2 : ∀ round, s.place = .test round .stopBack → s.data2 = held
  stopped : s.stopped ≠ some .compare

theorem kept_boot : Kept held [] (boot n rca) where
  content := rfl
  writes := by simp
  data round stage here := by cases here
  data2 round here := by cases here
  stopped := by simp [boot]

theorem stored_of_writes (writes : event.Writes held) : event.stored held = held := by
  unfold Event.stored
  split
  case h_1 =>
    split
    · exact writes
    · rfl
  case h_2 => rfl

/-- A write comes with what was read. -/
theorem Kept.writes_of_step (kept : Kept held events s) (enabled : SdTest.step s event = some t) :
    event.Writes held := by
  cases event with
  | delay ms => trivial
  | call call answer =>
    obtain ⟨⟨-, made⟩, -⟩ := Option.ite_none_right_eq_some.mp enabled
    cases call with
    | write cmd address data =>
      cases place : s.place with
      | test round stage =>
        cases stage with
        | write =>
          have same : s.data = data := by
            simp only [State.call, place, Option.some.injEq, Call.write.injEq] at made
            exact made.2.2
          exact same.symm.trans (kept.data round .write place rfl)
        | _ => simp [State.call, place] at made
      | _ => simp [State.call, place] at made
    | _ => trivial

/-- What the statements after a call leave in the arrays. -/
theorem Kept.accepted (kept : Kept held events s) (running : s.stopped = none) {call : Call n}
    {answer : Answer n} (made : s.call = some call)
    (honest : ∀ cmd address, call = .read cmd address → answer.data = held) :
    (∀ round stage, (s.accepted answer).place = .test round stage → stage.filled →
        (s.accepted answer).data = held) ∧
      (∀ round, (s.accepted answer).place = .test round .stopBack →
        (s.accepted answer).data2 = held) ∧
      (s.accepted answer).stopped ≠ some .compare := by
  have filled := kept.data
  have read := kept.data2
  obtain ⟨place, rca, data, data2, stopped⟩ := s
  obtain rfl : stopped = none := running
  cases place with
  | test round stage =>
    cases stage with
    | read =>
      have now : answer.data = held := honest _ _ (Option.some.inj made).symm
      simp [State.accepted, now]
    | readBack =>
      have now : answer.data = held := honest _ _ (Option.some.inj made).symm
      have before : data = held := filled round .readBack rfl rfl
      simp [State.accepted, now, before]
    | stopBack =>
      -- The two arrays are equal, so the comparison succeeds.
      have one : data = held := filled round .stopBack rfl rfl
      have two : data2 = held := read round rfl
      cases round <;> simp [State.accepted, one, two, Round.after]
    | blockSize => simp [State.accepted, Stage.filled]
    | delay => cases made
    | _ =>
      have before : data = held := filled round _ rfl rfl
      simp [State.accepted, before]
  | condition =>
    by_cases agrees : answer.response &&& 0xFFF#32 = SdTest.condition <;>
      simp [State.accepted, agrees]
  | opCond =>
    cases ready : answer.response.getLsbD 31 <;> simp only [State.accepted, ready] <;> simp
  | suspended => cases made
  | _ => simp [State.accepted, Stage.filled]

theorem Kept.step (kept : Kept held events s) (honest : event.Honest held events)
    (enabled : SdTest.step s event = some t) : Kept held (events ++ [event]) t := by
  have writes := kept.writes_of_step enabled
  have content : SdTest.content held (events ++ [event]) = held := by
    rw [SdTest.content, List.foldl_append]
    change event.stored (SdTest.content held events) = held
    rw [kept.content, stored_of_writes writes]
  have all : ∀ e ∈ events ++ [event], e.Writes held := by
    intro e member
    obtain old | rfl := by simpa using member
    · exact kept.writes e old
    · exact writes
  obtain ⟨running, ⟨call, answer, rfl, -, failed, rfl⟩ | ⟨call, answer, rfl, made, success, rfl⟩ |
    ⟨round, rfl, here, rfl⟩⟩ := step_cases enabled
  · exact ⟨content, all, kept.data, kept.data2, by simp⟩
  -- What a read gives is what the card holds now, and that has not changed.
  · have read : ∀ cmd address, call = .read cmd address → answer.data = held := by
      rintro cmd address rfl
      rw [honest success, kept.content]
    obtain ⟨data, data2, stopped⟩ := kept.accepted running made read
    exact ⟨content, all, data, data2, stopped⟩
  · have before : s.data = held := kept.data round .delay here rfl
    exact ⟨content, all, fun _ _ _ _ => before, fun _ back => by simp at back, kept.stopped⟩

end TestSystem.SdTest
