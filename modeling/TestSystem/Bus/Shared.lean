import Mathlib.Algebra.BigOperators.Group.Finset.Piecewise
import Mathlib.Algebra.Order.BigOperators.Group.Finset

/-!
# A shared bus

Stations put items on a bus, and all of them see the items in one order. A reader goes
along the bus in that order; it may miss items, but takes none twice. Some of the stations
may do no more than answer what they take: if they take none of the answers, the bus
carries at most one answer of each of them for every item that came from the others.
-/

namespace TestSystem.Bus

variable {ι α : Type*}

/-- What is on a bus, the oldest item first, each with the station that put it there;
`none` is a sender that is not one of the stations. -/
abbrev Log (ι α : Type*) := List (Option ι × α)

/-- The messages alone, without their senders. -/
def contents (bus : Log ι α) : List α := bus.map Prod.snd

theorem contents_append {bus more : Log ι α} :
    contents (bus ++ more) = contents bus ++ contents more := List.map_append

/-! ## Readers -/

/-- A reader that has come to the position `next` of the items has taken some of those
before it that meet `p`, in their order. -/
structure Reading (p : α → Prop) [DecidablePred p] (items : List α) (next : ℕ)
    (taken : List α) : Prop where
  within : next ≤ items.length
  inOrder : taken.Sublist ((items.take next).filter p)

section Reading

variable {p : α → Prop} [DecidablePred p] {items taken : List α} {next k : ℕ} {x : α}

theorem Reading.start : Reading p items 0 [] := ⟨Nat.zero_le _, List.nil_sublist _⟩

/-- New items are put behind those that were passed. -/
theorem Reading.grow (reading : Reading p items next taken) (more : List α) :
    Reading p (items ++ more) next taken where
  within := reading.within.trans (by simp)
  inOrder := by
    rw [List.take_append_of_le_length reading.within]
    exact reading.inOrder

/-- The items between the two positions are missed. -/
theorem Reading.read (reading : Reading p items next taken) (later : next ≤ k)
    (here : items[k]? = some x) (meets : p x) : Reading p items (k + 1) (taken ++ [x]) where
  within := (List.getElem?_eq_some_iff.mp here).1
  inOrder := by
    have before : taken.Sublist ((items.take k).filter p) :=
      reading.inOrder.trans ((List.take_sublist_take_left later).filter _)
    rw [List.take_add_one, here, List.filter_append]
    exact before.append (by simp [meets])

theorem Reading.sublist (reading : Reading p items next taken) :
    taken.Sublist (items.filter p) :=
  reading.inOrder.trans ((List.take_sublist _ _).filter _)

theorem Reading.meets (reading : Reading p items next taken) (member : x ∈ taken) : p x := by
  simpa using (List.mem_filter.mp (reading.sublist.subset member)).2

end Reading

/-! ## Senders -/

section Senders

variable [DecidableEq ι] {F : Finset ι} {bus more : Log ι α} {i : ι} {x : α}

/-- What the station has put on the bus. -/
def sentBy (i : ι) (bus : Log ι α) : List α := contents (bus.filter fun item => item.1 = some i)

/-- What none of the stations in `F` has put on the bus. -/
def sentByOthers (F : Finset ι) (bus : Log ι α) : List α :=
  contents (bus.filter fun item => ∀ i ∈ F, item.1 ≠ some i)

theorem sentBy_append : sentBy i (bus ++ more) = sentBy i bus ++ sentBy i more := by
  simp [sentBy, contents]

theorem sentBy_own : sentBy i [(some i, x)] = [x] := by simp [sentBy, contents]

theorem sentBy_other {sender : Option ι} (other : sender ≠ some i) :
    sentBy i [(sender, x)] = [] := by
  simp [sentBy, contents, other]

theorem mem_sentBy : x ∈ sentBy i bus ↔ (some i, x) ∈ bus := by
  simp [sentBy, contents]

/-- Each item is from one of the stations in `F` or from elsewhere. -/
theorem length_eq_add_sum :
    bus.length = (sentByOthers F bus).length + ∑ i ∈ F, (sentBy i bus).length := by
  induction bus with
  | nil => simp [sentBy, sentByOthers, contents]
  | cons item bus ih =>
    simp only [sentBy, sentByOthers, contents, List.length_map] at ih ⊢
    obtain ⟨sender, x⟩ := item
    by_cases own : ∃ j ∈ F, sender = some j
    · obtain ⟨j, member, rfl⟩ := own
      have mine : ∑ i ∈ F, (((some j, x) :: bus).filter fun item => item.1 = some i).length =
          1 + ∑ i ∈ F, (bus.filter fun item => item.1 = some i).length := by
        calc
          _ = ∑ i ∈ F, ((if j = i then 1 else 0) +
              (bus.filter fun item => item.1 = some i).length) := by
            refine Finset.sum_congr rfl fun i _ => ?_
            by_cases same : j = i <;> simp [same, Nat.add_comm]
          _ = _ := by rw [Finset.sum_add_distrib, Finset.sum_ite_eq F j, if_pos member]
      have notOther : ¬ ∀ i ∈ F, some j ≠ some i := fun none => none j member rfl
      rw [mine, List.filter_cons_of_neg (by simpa using notOther), List.length_cons, ih]
      omega
    · have other : ∀ i ∈ F, sender ≠ some i := fun i member same => own ⟨i, member, same⟩
      have none : ∑ i ∈ F, (((sender, x) :: bus).filter fun item => item.1 = some i).length =
          ∑ i ∈ F, (bus.filter fun item => item.1 = some i).length :=
        Finset.sum_congr rfl fun i member => by
          rw [List.filter_cons_of_neg (by simpa using other i member)]
      rw [none, List.filter_cons_of_pos (by simpa using other), List.length_cons,
        List.length_cons, ih]
      omega

end Senders

/-! ## Stations that only answer -/

section Answers

variable [DecidableEq ι] {p : α → Prop} [DecidablePred p] {F : Finset ι} {bus : Log ι α}
  {answer : ι → α → α} {next : ι → ℕ} {taken : ι → List α}

/-- The station has answered what it took, perhaps the last item excepted. -/
def Answers (p : α → Prop) [DecidablePred p] (answer : α → α) (bus : Log ι α) (i : ι)
    (next : ℕ) (taken : List α) : Prop :=
  Reading p (contents bus) next taken ∧ sentBy i bus <+: taken.map answer

/-- Where the answers are not taken, the items that can be taken are from elsewhere. -/
theorem filter_contents (answers : ∀ i ∈ F, Answers p (answer i) bus i (next i) (taken i))
    (leaves : ∀ i ∈ F, ∀ x, p x → ¬ p (answer i x)) :
    (contents bus).filter p = (sentByOthers F bus).filter p := by
  have refused : ∀ i ∈ F, ∀ x ∈ sentBy i bus, ¬ p x := by
    intro i member x sent
    obtain ⟨reading, whole⟩ := answers i member
    obtain ⟨y, took, rfl⟩ := List.mem_map.mp (whole.subset sent)
    exact leaves i member y (reading.meets took)
  rw [contents, sentByOthers, contents, List.filter_map, List.filter_map, List.filter_filter]
  congr 1
  refine List.filter_congr fun item member => ?_
  by_cases meets : p item.2
  · have other : ∀ i ∈ F, item.1 ≠ some i := fun i station same =>
      refused i station item.2 (mem_sentBy.mpr (same ▸ member)) meets
    simpa [meets] using other
  · simp [meets]

/-- **No cascade.** There is at most one answer of each station to each item of the
others. -/
theorem length_le_of_answers
    (answers : ∀ i ∈ F, Answers p (answer i) bus i (next i) (taken i))
    (leaves : ∀ i ∈ F, ∀ x, p x → ¬ p (answer i x)) :
    bus.length ≤ (F.card + 1) * (sentByOthers F bus).length := by
  have each : ∀ i ∈ F, (sentBy i bus).length ≤ (sentByOthers F bus).length := by
    intro i member
    obtain ⟨reading, whole⟩ := answers i member
    calc
      _ ≤ (taken i).length := by simpa using whole.length_le
      _ ≤ ((contents bus).filter p).length := reading.sublist.length_le
      _ = ((sentByOthers F bus).filter p).length := by rw [filter_contents answers leaves]
      _ ≤ (sentByOthers F bus).length := List.length_filter_le _ _
  calc
    bus.length = (sentByOthers F bus).length + ∑ i ∈ F, (sentBy i bus).length :=
      length_eq_add_sum
    _ ≤ (sentByOthers F bus).length + F.card * (sentByOthers F bus).length :=
      Nat.add_le_add_left (Finset.sum_le_card_nsmul F _ _ each) _
    _ = (F.card + 1) * (sentByOthers F bus).length := by rw [Nat.add_comm, ← Nat.succ_mul]

end Answers

end TestSystem.Bus
