import Mathlib.Data.List.Basic

/-!
# Bounded queues

A queue with room for a fixed number of items, between a sender that does not wait
and a receiver that takes the items in order. The traffic through the queue is what
was offered, what of it found room and what was taken: an item that finds no room is
dropped, and nothing else is lost, repeated or overtaken.
-/

namespace TestSystem.Queue

/-- A queue with room for `capacity` items, the oldest first. -/
structure Bounded (α : Type*) (capacity : ℕ) where
  items : List α
  fits : items.length ≤ capacity
  deriving DecidableEq

variable {α : Type*} {capacity : ℕ} {x : α}

namespace Bounded

variable {q r : Bounded α capacity}

/-- The queue without an item. -/
def empty : Bounded α capacity := ⟨[], Nat.zero_le _⟩

/-- There is room for one more item. -/
def HasRoom (q : Bounded α capacity) : Prop := q.items.length < capacity

instance : Decidable q.HasRoom := inferInstanceAs (Decidable (_ < _))

/-- The item is put behind the others, if there is room. -/
def send (q : Bounded α capacity) (x : α) : Option (Bounded α capacity) :=
  if room : q.HasRoom then some ⟨q.items ++ [x], by rw [List.length_append]; exact room⟩ else none

/-- The oldest item, and the queue without it. -/
def receive : Bounded α capacity → Option (α × Bounded α capacity)
  | ⟨[], _⟩ => none
  | ⟨x :: rest, fits⟩ => some (x, ⟨rest, Nat.le_of_succ_le fits⟩)

theorem items_of_receive (received : q.receive = some (x, r)) : q.items = x :: r.items := by
  obtain ⟨items, fits⟩ := q
  cases items with
  | nil => cases received
  | cons y rest =>
    cases received
    rfl

theorem items_of_receive_none (none : q.receive = none) : q.items = [] := by
  obtain ⟨items, fits⟩ := q
  cases items with
  | nil => rfl
  | cons y rest => cases none

end Bounded

/-! ## Traffic -/

/-- A queue with all that was offered to it, what was accepted and what was taken. -/
structure Traffic (α : Type*) (capacity : ℕ) where
  queue : Bounded α capacity
  offered : List α
  accepted : List α
  taken : List α
  /-- Each accepted item was taken or waits, in the order of arrival. -/
  balanced : taken ++ queue.items = accepted
  ordered : accepted.Sublist offered
  deriving DecidableEq

namespace Traffic

variable {t u : Traffic α capacity}

/-- Nothing was offered yet. -/
def start : Traffic α capacity := ⟨.empty, [], [], [], rfl, .slnil⟩

/-- An item that finds no room is dropped. -/
def offer (t : Traffic α capacity) (x : α) : Traffic α capacity :=
  match sent : t.queue.send x with
  | some q =>
    { t with
      queue := q
      offered := t.offered ++ [x]
      accepted := t.accepted ++ [x]
      balanced := by
        unfold Bounded.send at sent
        split at sent
        · cases sent
          rw [← t.balanced, List.append_assoc]
        · cases sent
      ordered := t.ordered.append_right [x] }
  | none =>
    { t with
      offered := t.offered ++ [x]
      ordered := t.ordered.trans (List.sublist_append_left _ _) }

/-- The oldest item is taken, if there is one. -/
def take (t : Traffic α capacity) : Option (α × Traffic α capacity) :=
  match received : t.queue.receive with
  | some (x, q) =>
    some (x,
      { t with
        queue := q
        taken := t.taken ++ [x]
        balanced := by
          rw [← t.balanced, Bounded.items_of_receive received, List.append_assoc]
          rfl })
  | none => none

/-- All that was offered found room. -/
def Complete (t : Traffic α capacity) : Prop := t.accepted = t.offered

@[simp] theorem offered_offer : (t.offer x).offered = t.offered ++ [x] := by
  unfold offer
  split <;> rfl

@[simp] theorem taken_offer : (t.offer x).taken = t.taken := by
  unfold offer
  split <;> rfl

theorem send_isSome_iff {q : Bounded α capacity} : (q.send x).isSome ↔ q.HasRoom := by
  unfold Bounded.send
  split <;> simp [*]

theorem accepted_offer :
    (t.offer x).accepted = if t.queue.HasRoom then t.accepted ++ [x] else t.accepted := by
  unfold offer
  split
  case h_1 q sent =>
    have room : t.queue.HasRoom := send_isSome_iff.mp (Option.isSome_of_eq_some sent)
    rw [if_pos room]
  case h_2 refused =>
    have full : ¬ t.queue.HasRoom := fun room => by
      simpa [refused] using (send_isSome_iff (x := x)).mpr room
    rw [if_neg full]

theorem complete_start : (start : Traffic α capacity).Complete := rfl

/-- What was dropped once is missing for good. -/
theorem complete_offer_iff : (t.offer x).Complete ↔ t.Complete ∧ t.queue.HasRoom := by
  unfold Complete
  rw [accepted_offer, offered_offer]
  by_cases room : t.queue.HasRoom
  · simp [room]
  · have short : t.accepted.length ≤ t.offered.length := t.ordered.length_le
    constructor
    · intro same
      rw [if_neg room] at same
      have long := congrArg List.length same
      rw [List.length_append, List.length_singleton] at long
      omega
    · exact fun both => absurd both.2 room

/-- What is taken is the oldest accepted item that was not taken before. -/
theorem of_take (taken : t.take = some (x, u)) :
    u.offered = t.offered ∧ u.accepted = t.accepted ∧ u.taken = t.taken ++ [x] ∧
      t.queue.items = x :: u.queue.items := by
  unfold take at taken
  split at taken
  case h_1 y q received =>
    cases taken
    exact ⟨rfl, rfl, rfl, Bounded.items_of_receive received⟩
  case h_2 => cases taken

theorem of_take_none (none : t.take = none) : t.queue.items = [] := by
  unfold take at none
  split at none
  case h_1 => cases none
  case h_2 empty => exact Bounded.items_of_receive_none empty

end Traffic

end TestSystem.Queue
