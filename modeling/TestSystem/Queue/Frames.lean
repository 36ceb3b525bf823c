import Mathlib.Data.List.Basic

/-!
# Messages of one length in a stream

A stream carries the elements of messages one after another. If all messages have the same
length, a reader that takes that many elements each time finds one whole message each time,
even where the last message is cut off.
-/

namespace TestSystem.Queue

variable {α : Type*} {f : ℕ → List α} {size n j : ℕ} {s : List α}

/-- The elements of the first `n` messages. -/
def stream (f : ℕ → List α) (n : ℕ) : List α := ((List.range n).map f).flatten

@[simp] theorem stream_zero : stream f 0 = [] := rfl

theorem stream_succ : stream f (n + 1) = stream f n ++ f n := by
  simp [stream, List.range_succ]

theorem length_stream (sizes : ∀ k, (f k).length = size) : (stream f n).length = n * size := by
  induction n with
  | zero => rw [stream_zero, List.length_nil, Nat.zero_mul]
  | succ n ih => rw [stream_succ, List.length_append, ih, sizes, Nat.succ_mul]

theorem take_drop_stream (sizes : ∀ k, (f k).length = size) (inside : j < n) :
    ((stream f n).drop (j * size)).take size = f j := by
  induction n with
  | zero => exact absurd inside (Nat.not_lt_zero j)
  | succ n ih =>
    rw [stream_succ]
    obtain earlier | rfl := Nat.lt_succ_iff_lt_or_eq.mp inside
    · have whole : j * size + size ≤ (stream f n).length := by
        rw [length_stream sizes, ← Nat.succ_mul]
        exact Nat.mul_le_mul_right size earlier
      rw [List.drop_append_of_le_length (by omega),
        List.take_append_of_le_length (by rw [List.length_drop]; omega), ih earlier]
    · -- The message is the last one.
      rw [← length_stream (n := j) sizes, List.drop_left, ← sizes j, List.take_length]

/-- What was written may end within a message. -/
theorem take_drop_of_prefix (sizes : ∀ k, (f k).length = size) (pos : 0 < size)
    (written : s <+: stream f n) (whole : (j + 1) * size ≤ s.length) :
    (s.drop (j * size)).take size = f j := by
  have enough : (j + 1) * size ≤ n * size :=
    length_stream (n := n) sizes ▸ Nat.le_trans whole written.length_le
  obtain ⟨rest, split⟩ := written
  rw [Nat.succ_mul] at whole
  rw [← take_drop_stream sizes (Nat.le_of_mul_le_mul_right enough pos), ← split,
    List.drop_append_of_le_length (by omega),
    List.take_append_of_le_length (by rw [List.length_drop]; omega)]

end TestSystem.Queue
