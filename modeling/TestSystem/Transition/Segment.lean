import Mathlib

/-!
# Cutting a log at its marks

A log of events is cut at the events a predicate marks. Each stretch between
two marks that follow one another is closed; the stretch after the last mark is
still open, and there is none before the first mark. Reading a log event by
event, an unmarked event extends the open stretch and a mark closes it.
-/

namespace TestSystem.Transition

variable {ε : Type*} {mark : ε → Bool} {log new seg : List ε} {e : ε}

/-- The closed stretches of a log, oldest first, and the open one. -/
structure Cut (ε : Type*) where
  closed : List (List ε)
  current : Option (List ε)

/-- One more event at the end of the log. -/
def Cut.push (mark : ε → Bool) (c : Cut ε) (e : ε) : Cut ε :=
  if mark e then ⟨c.closed ++ c.current.toList, some []⟩
  else ⟨c.closed, c.current.map (· ++ [e])⟩

/-- The stretches of a whole log. -/
def cut (mark : ε → Bool) (log : List ε) : Cut ε := log.foldl (Cut.push mark) ⟨[], none⟩

@[simp] theorem cut_nil : cut mark [] = ⟨[], none⟩ := rfl

theorem cut_append_mark (h : mark e) :
    cut mark (log ++ [e]) = ⟨(cut mark log).closed ++ (cut mark log).current.toList, some []⟩ := by
  simp [cut, Cut.push, h]

theorem cut_append_unmarked (h : ∀ e ∈ new, mark e = false) :
    cut mark (log ++ new) = ⟨(cut mark log).closed, (cut mark log).current.map (· ++ new)⟩ := by
  induction new using List.reverseRecOn with
  | nil => simp
  | append_singleton new e ih =>
    have hlast : mark e = false := h e (by simp)
    have hinit := ih fun e' member => h e' (by simp [member])
    rw [← List.append_assoc]
    generalize log ++ new = longer at hinit
    simp [cut, List.foldl_append, Cut.push, hlast] at hinit ⊢
    simp [hinit, Function.comp_def]

/-- A closed stretch stays closed. -/
theorem closed_prefix_append : (cut mark log).closed <+: (cut mark (log ++ new)).closed := by
  induction new using List.reverseRecOn with
  | nil => simp
  | append_singleton new e ih =>
    rw [← List.append_assoc]
    generalize log ++ new = longer at ih ⊢
    apply ih.trans
    by_cases h : mark e
    · rw [cut_append_mark h]
      exact List.prefix_append _ _
    · rw [cut_append_unmarked (by simpa using h)]

/-- What follows the last mark is the open stretch. -/
theorem current_append_mark {pre : List ε} {m : ε} (hm : mark m)
    (hseg : ∀ e ∈ seg, mark e = false) : (cut mark (pre ++ m :: seg)).current = some seg := by
  have hcut : cut mark (pre ++ [m] ++ seg) = _ := cut_append_unmarked hseg
  rw [show pre ++ m :: seg = pre ++ [m] ++ seg by simp, hcut, cut_append_mark hm]
  simp

/-- A mark closes the open stretch. -/
theorem closed_length_lt {pre post : List ε} {m : ε} (hm : mark m)
    (begun : (cut mark log).current.isSome) :
    (cut mark log).closed.length < (cut mark (log ++ (pre ++ m :: post))).closed.length := by
  -- Before `m` the stretch may have been closed and another opened, but one is open.
  have hopen : (cut mark (log ++ pre)).current.isSome := by
    induction pre using List.reverseRecOn with
    | nil => simpa using begun
    | append_singleton pre e ih =>
      rw [← List.append_assoc]
      generalize log ++ pre = longer at ih ⊢
      by_cases he : mark e
      · rw [cut_append_mark he]
        rfl
      · rw [cut_append_unmarked (by simpa using he)]
        simpa using ih
  obtain ⟨seg, hseg⟩ := Option.isSome_iff_exists.mp hopen
  calc (cut mark log).closed.length
    _ ≤ (cut mark (log ++ pre)).closed.length := closed_prefix_append.length_le
    _ < (cut mark (log ++ pre ++ [m])).closed.length := by
      rw [cut_append_mark hm, hseg]
      simp
    _ ≤ (cut mark (log ++ pre ++ [m] ++ post)).closed.length := closed_prefix_append.length_le
    _ = (cut mark (log ++ (pre ++ m :: post))).closed.length := by simp

/-- What lies between two marks is a closed stretch. -/
theorem mem_closed {pre post : List ε} {m m' : ε} (hm : mark m) (hm' : mark m')
    (hseg : ∀ e ∈ seg, mark e = false) :
    seg ∈ (cut mark (pre ++ m :: seg ++ m' :: post)).closed := by
  have hclosed : seg ∈ (cut mark (pre ++ [m] ++ seg ++ [m'])).closed := by
    rw [cut_append_mark hm', cut_append_unmarked hseg, cut_append_mark hm]
    simp
  have hwhole : pre ++ m :: seg ++ m' :: post = pre ++ [m] ++ seg ++ [m'] ++ post := by simp
  rw [hwhole]
  exact closed_prefix_append.subset hclosed

/-- The open stretch is what follows the last mark. -/
theorem exists_eq_of_current (h : (cut mark log).current = some seg) :
    ∃ pre m, mark m ∧ (∀ e ∈ seg, mark e = false) ∧ log = pre ++ m :: seg := by
  induction log using List.reverseRecOn generalizing seg with
  | nil => simp at h
  | append_singleton log e ih =>
    by_cases he : mark e
    · rw [cut_append_mark he] at h
      obtain rfl : [] = seg := by simpa using h
      exact ⟨log, e, he, by simp, rfl⟩
    · rw [cut_append_unmarked (by simpa using he)] at h
      obtain ⟨seg', hseg', rfl⟩ : ∃ seg', (cut mark log).current = some seg' ∧
          seg' ++ [e] = seg := by simpa using h
      obtain ⟨pre, m, hm, hfree, rfl⟩ := ih hseg'
      refine ⟨pre, m, hm, ?_, by simp⟩
      intro e' member
      rcases List.mem_append.mp member with before | last
      · exact hfree e' before
      · obtain rfl : e' = e := by simpa using last
        simpa using he

/-- Every closed stretch lies between two marks of the log. -/
theorem exists_eq_of_mem_closed (h : seg ∈ (cut mark log).closed) :
    ∃ pre m m' post, mark m ∧ mark m' ∧ (∀ e ∈ seg, mark e = false) ∧
      log = pre ++ m :: seg ++ m' :: post := by
  induction log using List.reverseRecOn with
  | nil => simp at h
  | append_singleton log e ih =>
    by_cases he : mark e
    · rw [cut_append_mark he] at h
      rcases List.mem_append.mp h with before | last
      · obtain ⟨pre, m, m', post, hm, hm', hfree, rfl⟩ := ih before
        exact ⟨pre, m, m', post ++ [e], hm, hm', hfree, by simp⟩
      · obtain ⟨pre, m, hm, hfree, rfl⟩ := exists_eq_of_current (by simpa using last)
        exact ⟨pre, m, e, [], hm, he, hfree, by simp⟩
    · rw [cut_append_unmarked (by simpa using he)] at h
      obtain ⟨pre, m, m', post, hm, hm', hfree, rfl⟩ := ih h
      exact ⟨pre, m, m', post ++ [e], hm, hm', hfree, by simp⟩

/-! ## Since the last mark -/

/-- The events after the last mark, or all of them. -/
def since (mark : ε → Bool) (log : List ε) : List ε :=
  (log.reverse.takeWhile fun e => !mark e).reverse

theorem since_append_mark (h : mark e) : since mark (log ++ [e]) = [] := by
  simp [since, h]

theorem since_append_unmarked (h : ∀ e ∈ new, mark e = false) :
    since mark (log ++ new) = since mark log ++ new := by
  induction new using List.reverseRecOn with
  | nil => simp
  | append_singleton new e ih =>
    have hlast : mark e = false := h e (by simp)
    have hinit := ih fun e' member => h e' (by simp [member])
    rw [← List.append_assoc, ← List.append_assoc, ← hinit]
    simp [since, hlast]

theorem mem_of_mem_since (h : e ∈ since mark log) : e ∈ log := by
  rw [since, List.mem_reverse] at h
  exact List.mem_reverse.mp ((List.takeWhile_prefix _).subset h)

/-- Events without a mark leave the marks of a log where they are. -/
theorem split_of_append_unmarked {pre post : List ε} {m : ε} (h : ∀ e ∈ new, mark e = false)
    (hm : mark m) (split : log ++ new = pre ++ m :: post) : ∃ post', log = pre ++ m :: post' := by
  -- The mark lies in the new events, which have none, or in the old log.
  rcases List.append_eq_append_iff.mp split with ⟨rest, -, hnew⟩ | ⟨rest, hlog, hrest⟩
  · have member : m ∈ new := by simp [hnew]
    rw [h m member] at hm
    cases hm
  · cases rest with
    | nil =>
      have member : m ∈ new := by simp [← List.nil_append new ▸ hrest]
      rw [h m member] at hm
      cases hm
    | cons first rest =>
      obtain ⟨rfl, -⟩ := List.cons.inj hrest
      exact ⟨rest, hlog⟩

end TestSystem.Transition
