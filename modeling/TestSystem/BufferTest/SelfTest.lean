import TestSystem.Queue.Frames
import TestSystem.Transition.Run

/-!
# The buffer test

With `CONFIG_BUFFERTEST_SELF` the tasks of `src/vf610/buffertest.c` write to two buffers and
read from them: `buffer1Test` and `buffer2Test` send a text ten times, then `buffer3Test`
and `buffer4Test` a record a thousand times, with a flag that alternates. Each reader
checks how much it has read, and the last one also the flag.

A buffer keeps the elements in order. A write that succeeds puts all elements into it, one
that fails any number of them; a read takes as many of the oldest elements as it returns,
which may be fewer than asked for, or parts of several messages.
-/

namespace TestSystem.BufferTest

open TestSystem.Queue TestSystem.Transition

/-- What a task writes: one message a round. -/
structure Writer (α : Type*) where
  rounds : ℕ
  first : List α
  /-- The message of the next round. -/
  after : List α → List α

/-- How a task reads: at most `size` elements a round, of which it wants `length`, and the
check of what it got against its variable `last`. -/
structure Reader (α : Type*) where
  rounds : ℕ
  size : ℕ
  length : ℕ
  first : Bool
  after : Bool → Bool
  check : Bool → List α → Bool

/-- `"Dies ist ein Test"` with its end. -/
def text : List Char := "Dies ist ein Test".toList ++ [Char.ofNat 0]

/-- What the second pair exchanges. -/
structure TestData where
  test : String
  value : Bool
  deriving DecidableEq

/-- The task `buffer1Test` writes the text ten times, unchanged. -/
def buffer1Test : Writer Char where
  rounds := 10
  first := text
  after := id

/-- The task `buffer2Test` reads the text into 128 bytes and looks at nothing but its length. -/
def buffer2Test : Reader Char where
  rounds := 10
  size := 128
  length := 18
  first := true
  after := id
  check _ _ := true

/-- The task `buffer3Test` writes one record a thousand times and negates its value in between. -/
def buffer3Test : Writer TestData where
  rounds := 1000
  first := [⟨"Dies ist ein Test", true⟩]
  after := List.map fun test => { test with value := !test.value }

/-- The task `buffer4Test` expects the value negated with every record. -/
def buffer4Test : Reader TestData where
  rounds := 1000
  size := 1
  length := 1
  first := true
  after last := !last
  check last got := got.all fun test => last = test.value

/-- The endless loops of a reader, by what it has found wrong. -/
inductive Error
  | ret
  | length
  | value
  deriving DecidableEq

/-- A writer and a reader with the buffer between them. -/
structure Pair (α : Type*) where
  /-- All that was put into the buffer. -/
  written : List α
  /-- The elements that were read. -/
  taken : ℕ
  message : List α
  /-- The rounds of the writer. -/
  i : ℕ
  writerStopped : Bool
  last : Bool
  /-- The rounds of the reader. -/
  j : ℕ
  readerStopped : Option Error
  /-- The reads that passed the checks. -/
  received : List (List α)
  deriving DecidableEq

namespace Pair

variable {α : Type*}

/-- The buffer is empty and both tasks are about to make their first call. -/
def boot (w : Writer α) (r : Reader α) : Pair α where
  written := []
  taken := 0
  message := w.first
  i := 0
  writerStopped := false
  last := r.first
  j := 0
  readerStopped := none
  received := []

/-- A round of the writer; where `buffer_write` fails, `stored` elements are in the buffer. -/
def write (w : Writer α) (ret : Int32) (stored : ℕ) (p : Pair α) : Option (Pair α) :=
  if p.i < w.rounds ∧ p.writerStopped = false then
    if ret < 0 then
      some { p with written := p.written ++ p.message.take stored, writerStopped := true }
    else
      some { p with written := p.written ++ p.message, message := w.after p.message, i := p.i + 1 }
  else none

/-- A round of the reader; `buffer_read` returns the number of elements. -/
def read (r : Reader α) (ret : Int32) (p : Pair α) : Option (Pair α) :=
  if p.j < r.rounds ∧ p.readerStopped = none then
    if ret < 0 then some { p with readerStopped := some .ret }
    else
      let n := ret.toNatClampNeg
      let got := (p.written.drop p.taken).take n
      if n ≤ r.size ∧ p.taken + n ≤ p.written.length then
        if n ≠ r.length then
          some { p with taken := p.taken + n, readerStopped := some .length }
        else if r.check p.last got = false then
          some { p with taken := p.taken + n, readerStopped := some .value }
        else
          some { p with
            taken := p.taken + n, last := r.after p.last, j := p.j + 1,
            received := p.received ++ [got] }
      else none
  else none

end Pair

/-- Both pairs of tasks. -/
structure State where
  chars : Pair Char
  /-- The second pair, once `bufferInit2` was called. -/
  records : Option (Pair TestData)
  deriving DecidableEq

/-- `bufferInit`. -/
def boot : State := ⟨.boot buffer1Test buffer2Test, none⟩

/-- The call of one of the four tasks returns. -/
inductive Label
  | buffer1Test (ret : Int32) (stored : ℕ)
  | buffer2Test (ret : Int32)
  | buffer3Test (ret : Int32) (stored : ℕ)
  | buffer4Test (ret : Int32)
  deriving DecidableEq

/-- `buffer2Test` calls this after its last round. -/
def bufferInit2 : Pair TestData := .boot buffer3Test buffer4Test

/-- A task goes on with what its call returned; the second task starts the second pair at its end.
-/
def step (s : State) : Label → Option State
  | .buffer1Test ret stored =>
    (s.chars.write buffer1Test ret stored).map fun chars => { s with chars }
  | .buffer2Test ret =>
    (s.chars.read buffer2Test ret).map fun chars =>
      { s with
        chars
        records := if chars.j = buffer2Test.rounds then some bufferInit2 else s.records }
  | .buffer3Test ret stored =>
    s.records.bind fun p =>
      (p.write buffer3Test ret stored).map fun p => { s with records := some p }
  | .buffer4Test ret =>
    s.records.bind fun p => (p.read buffer4Test ret).map fun p => { s with records := some p }

/-! ## One pair -/

/-- The message of a round. -/
def Writer.messages {α : Type*} (w : Writer α) (k : ℕ) : List α := w.after^[k] w.first

/-- The value of `last` in a round. -/
def Reader.lasts {α : Type*} (r : Reader α) (k : ℕ) : Bool := r.after^[k] r.first

section Pair

variable {α : Type*} {w : Writer α} {r : Reader α} {p q : Pair α} {ret : Int32} {stored : ℕ}

/-- The reader wants whole messages, and its check agrees with those of the same round. -/
structure Agree (w : Writer α) (r : Reader α) : Prop where
  sizes : ∀ k, (w.messages k).length = r.length
  pos : 0 < r.length
  check : ∀ k, r.check (r.lasts k) (w.messages k)

/-- What a pair keeps: the reader has got the messages of its rounds. -/
structure Pair.InStep (w : Writer α) (r : Reader α) (p : Pair α) : Prop where
  message : p.message = w.messages p.i
  written : p.written <+: stream w.messages (p.i + 1)
  whole : p.writerStopped = false → p.written = stream w.messages p.i
  last : p.last = r.lasts p.j
  taken : p.readerStopped = none → p.taken = p.j * r.length
  received : p.received = (List.range p.j).map w.messages
  stopped : p.readerStopped ≠ some .value

theorem Pair.inStep_boot : (Pair.boot w r).InStep w r where
  message := rfl
  written := List.nil_prefix
  whole _ := rfl
  last := rfl
  taken _ := (Nat.zero_mul _).symm
  received := rfl
  stopped := by simp [Pair.boot]

theorem Pair.InStep.write (inStep : p.InStep w r) (enabled : p.write w ret stored = some q) :
    q.InStep w r := by
  obtain ⟨⟨-, running⟩, next⟩ := Option.ite_none_right_eq_some.mp enabled
  have before := inStep.whole running
  split at next
  -- A failing write leaves a part of the message, and the task stops.
  case isTrue =>
    obtain rfl := Option.some.inj next
    refine { inStep with written := ?_, whole := fun alive => by cases alive }
    rw [stream_succ, before, inStep.message]
    exact List.prefix_append_right_inj _ |>.mpr (List.take_prefix _ _)
  case isFalse =>
    obtain rfl := Option.some.inj next
    have all : p.written ++ p.message = stream w.messages (p.i + 1) := by
      rw [stream_succ, before, inStep.message]
    refine { inStep with message := ?_, written := ?_, whole := fun _ => all }
    · rw [inStep.message]
      exact (Function.iterate_succ_apply' w.after p.i w.first).symm
    · rw [all, stream_succ (n := p.i + 1)]
      exact List.prefix_append _ _

/-- What was read in step is the message of the round, so the check agrees. -/
theorem Pair.InStep.read (agree : Agree w r) (inStep : p.InStep w r)
    (enabled : p.read r ret = some q) : q.InStep w r := by
  obtain ⟨⟨-, running⟩, next⟩ := Option.ite_none_right_eq_some.mp enabled
  split at next
  case isTrue =>
    obtain rfl := Option.some.inj next
    exact { inStep with taken := fun alive => by (cases alive), stopped := by simp }
  case isFalse =>
    obtain ⟨⟨-, available⟩, next⟩ := Option.ite_none_right_eq_some.mp next
    split at next
    case isTrue =>
      obtain rfl := Option.some.inj next
      exact { inStep with taken := fun alive => by (cases alive), stopped := by simp }
    case isFalse length =>
      -- All reads before were whole, so this one begins with a message.
      have size : ret.toNatClampNeg = r.length := not_not.mp length
      rw [size, inStep.taken running] at available next
      have got : (p.written.drop (p.j * r.length)).take r.length = w.messages p.j :=
        take_drop_of_prefix agree.sizes agree.pos inStep.written (by rwa [Nat.succ_mul])
      rw [got, inStep.last, agree.check, if_neg (by simp)] at next
      obtain rfl := Option.some.inj next
      refine { inStep with last := ?_, taken := fun _ => ?_, received := ?_ }
      · exact (Function.iterate_succ_apply' r.after p.j r.first).symm
      · exact (Nat.succ_mul p.j r.length).symm
      · rw [inStep.received, List.range_succ, List.map_append]
        rfl

end Pair

theorem agree_chars : Agree buffer1Test buffer2Test where
  sizes k := by
    rw [Writer.messages, buffer1Test, Function.iterate_id]
    rfl
  pos := by decide
  check _ := rfl

/-- The flag of the record alternates, as `last` does. -/
theorem messages_records (k : ℕ) :
    buffer3Test.messages k = [⟨"Dies ist ein Test", buffer4Test.lasts k⟩] := by
  induction k with
  | zero => rfl
  | succ k ih =>
    rw [Reader.lasts, Function.iterate_succ_apply', Writer.messages,
      Function.iterate_succ_apply', ← Writer.messages, ih]
    rfl

theorem agree_records : Agree buffer3Test buffer4Test where
  sizes k := by
    rw [messages_records]
    rfl
  pos := by decide
  check k := by
    rw [messages_records]
    simp [buffer4Test]

/-! ## The whole test -/

theorem lasts_records (k : ℕ) : buffer4Test.lasts k = decide (k % 2 = 0) := by
  induction k with
  | zero => rfl
  | succ k ih =>
    rw [Reader.lasts, Function.iterate_succ_apply', ← Reader.lasts, ih]
    change (!decide (k % 2 = 0)) = _
    rw [← decide_not]
    exact decide_eq_decide.mpr (by omega)

/-- Both pairs are in step, and the second starts when the first is done. -/
structure Kept (s : State) : Prop where
  chars : s.chars.InStep buffer1Test buffer2Test
  records : ∀ p ∈ s.records, p.InStep buffer3Test buffer4Test
  started : s.records.isSome → s.chars.j = buffer2Test.rounds

variable {s t : State} {label : Label} {labels : List Label}

theorem Pair.j_of_write {α : Type*} {w : Writer α} {p q : Pair α} {ret : Int32} {stored : ℕ}
    (enabled : p.write w ret stored = some q) : q.j = p.j := by
  obtain ⟨-, next⟩ := Option.ite_none_right_eq_some.mp enabled
  split at next <;> exact Option.some.inj next ▸ rfl

theorem Pair.j_lt_of_read {α : Type*} {r : Reader α} {p q : Pair α} {ret : Int32}
    (enabled : p.read r ret = some q) : p.j < r.rounds :=
  (Option.ite_none_right_eq_some.mp enabled).1.1

theorem Kept.step (kept : Kept s) (enabled : BufferTest.step s label = some t) : Kept t := by
  cases label with
  | buffer1Test ret stored =>
    obtain ⟨chars, written, rfl⟩ := Option.map_eq_some_iff.mp enabled
    exact ⟨kept.chars.write written, kept.records, fun on =>
      (Pair.j_of_write written).trans (kept.started on)⟩
  | buffer2Test ret =>
    obtain ⟨chars, read, rfl⟩ := Option.map_eq_some_iff.mp enabled
    -- The reader has a round to go, so it has not created the second pair yet.
    have early : s.records = none := by
      cases on : s.records with
      | none => rfl
      | some p =>
        have done := kept.started (by simp [on])
        exact absurd (Pair.j_lt_of_read read) (by omega)
    refine ⟨kept.chars.read agree_chars read, ?_, fun on => ?_⟩
    · intro p member
      dsimp only at member
      split at member
      · obtain rfl := Option.some.inj member
        exact Pair.inStep_boot
      · exact kept.records p member
    · by_contra unfinished
      simp [early, unfinished] at on
  | buffer3Test ret stored =>
    obtain ⟨p, here, moved⟩ := Option.bind_eq_some_iff.mp enabled
    obtain ⟨q, written, rfl⟩ := Option.map_eq_some_iff.mp moved
    refine ⟨kept.chars, ?_, fun _ => kept.started (Option.isSome_of_eq_some here)⟩
    rintro _ ⟨⟩
    exact (kept.records p here).write written
  | buffer4Test ret =>
    obtain ⟨p, here, moved⟩ := Option.bind_eq_some_iff.mp enabled
    obtain ⟨q, read, rfl⟩ := Option.map_eq_some_iff.mp moved
    refine ⟨kept.chars, ?_, fun _ => kept.started (Option.isSome_of_eq_some here)⟩
    rintro _ ⟨⟩
    exact (kept.records p here).read agree_records read

theorem kept_of_run (run : Run step boot labels s) : Kept s := by
  induction run with
  | nil => exact ⟨Pair.inStep_boot, by simp [boot], by simp [boot]⟩
  | snoc _ enabled ih => exact ih.step enabled

/-- **The readers keep to the messages.** In every interleaving of the four tasks, however
the reads and the writes that fail cut the stream: each read of the first pair that passes
the check of its length is the text, and nothing but the text was read before the second
pair starts; there each read that passes that check is the record of the same round, and
the comparison of the flag does not fail. -/
theorem self_test (run : Run step boot labels s) :
    s.chars.received = List.replicate s.chars.j text ∧
      ∀ p ∈ s.records, s.chars.received = List.replicate 10 text ∧
        p.received = (List.range p.j).map (fun k => [⟨"Dies ist ein Test", k % 2 = 0⟩]) ∧
        p.readerStopped ≠ some .value := by
  have kept := kept_of_run run
  have texts : s.chars.received = List.replicate s.chars.j text := by
    have same : buffer1Test.messages = fun _ => text := by
      funext k
      rw [Writer.messages, buffer1Test, Function.iterate_id]
      rfl
    rw [kept.chars.received, same, List.map_const', List.length_range]
  refine ⟨texts, fun p member => ⟨?_, ?_, (kept.records p member).stopped⟩⟩
  · rw [texts, kept.started (Option.isSome_of_mem member)]
    rfl
  · rw [(kept.records p member).received]
    refine List.map_congr_left fun k _ => ?_
    rw [messages_records, lasts_records]

/-- The second pair has read two records. -/
def twoRecords : List Label :=
  (List.replicate 10 [.buffer1Test 18 0, .buffer2Test 18]).flatten ++
    [.buffer3Test 1 0, .buffer4Test 1, .buffer3Test 1 0, .buffer3Test (-1) 1, .buffer4Test 1]

theorem self_test_twoRecords : ∃ s, Run step boot twoRecords s ∧
    (s.records.map Pair.j = some 2 ∧ s.chars.received = List.replicate s.chars.j text) := by
  obtain ⟨s, run, check⟩ := exists_run_of_check step boot twoRecords
    (fun s => s.records.map Pair.j = some 2) (by decide +kernel)
  exact ⟨s, run, of_decide_eq_true check, (self_test run).1⟩

end TestSystem.BufferTest
