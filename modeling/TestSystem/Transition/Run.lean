import TestSystem.Transition.Latest

/-!
# Finite runs of a labelled system

A labelled system is a partial step function: `step s a` is the state after the
label `a`, and `none` says that `a` is not enabled in `s`. A run records its
labels, oldest first, so that a property can speak about the past as well as
about the state reached.

An invariant reads the state alone; a history invariant also reads the labels.
Either may assume a condition that every label of the run meets, given the
labels before it. A rank that falls until a goal is reached turns one possible
step at a time into a whole run.
-/

namespace TestSystem.Transition

variable {σ α β : Type*} {step : σ → α → Option σ} {s t u : σ} {a : α} {as bs : List α}

/-- Starting at `s`, the labels `as` are enabled one after another and lead to
the last argument. -/
inductive Run (step : σ → α → Option σ) (s : σ) : List α → σ → Prop
  | nil : Run step s [] s
  | snoc {as : List α} {t : σ} {a : α} {u : σ} :
      Run step s as t → step t a = some u → Run step s (as ++ [a]) u

theorem Run.single (enabled : step s a = some t) : Run step s [a] t :=
  .snoc .nil enabled

theorem Run.append (first : Run step s as t) (second : Run step t bs u) :
    Run step s (as ++ bs) u := by
  induction second with
  | nil => simpa using first
  | snoc _ enabled ih =>
    rw [← List.append_assoc]
    exact .snoc ih enabled

/-- A run is the iterated step function, so a concrete run is checked by
evaluating it. -/
theorem run_iff_foldlM : Run step s as t ↔ as.foldlM step s = some t := by
  constructor
  · intro run
    induction run with
    | nil => rfl
    | snoc _ enabled ih => simp [ih, enabled]
  · -- The run grows at its end, so the fold is taken apart there too.
    induction as using List.reverseRecOn generalizing t with
    | nil =>
      intro last
      obtain rfl : s = t := by simpa using last
      exact .nil
    | append_singleton as a ih =>
      intro last
      obtain ⟨before, reached, enabled⟩ : ∃ before, as.foldlM step s = some before ∧
          step before a = some t := by
        simpa [Option.bind_eq_some_iff] using last
      exact .snoc (ih reached) enabled

/-- A check of the state that a concrete run reaches is evaluated. -/
theorem exists_run_of_check (step : σ → α → Option σ) (s : σ) (as : List α) (check : σ → Bool)
    (holds : (as.foldlM step s).map check = some true) : ∃ t, Run step s as t ∧ check t := by
  obtain ⟨t, last, checked⟩ := Option.map_eq_some_iff.mp holds
  exact ⟨t, run_iff_foldlM.mpr last, checked⟩

/-- Every run along a concatenation passes through a state between its parts. -/
theorem run_append_iff :
    Run step s (as ++ bs) u ↔ ∃ t, Run step s as t ∧ Run step t bs u := by
  constructor
  · intro run
    rw [run_iff_foldlM, List.foldlM_append, Option.bind_eq_bind, Option.bind_eq_some_iff] at run
    obtain ⟨t, first, second⟩ := run
    exact ⟨t, run_iff_foldlM.mpr first, run_iff_foldlM.mpr second⟩
  · rintro ⟨t, first, second⟩
    exact first.append second

/-- A run that has a first step goes on from the state after it. -/
theorem run_cons_iff : Run step s (a :: as) u ↔ ∃ t, step s a = some t ∧ Run step t as u := by
  simp [run_iff_foldlM, Option.bind_eq_some_iff]

/-- The state a run reaches is determined by its labels. -/
theorem Run.unique (first : Run step s as t) (second : Run step s as u) : t = u := by
  rw [run_iff_foldlM] at first second
  exact Option.some.inj (first.symm.trans second)

/-! ## What a run shows -/

/-- What `f` sees in the steps along the labels, oldest first. -/
def observed (f : σ → α → Option β) (step : σ → α → Option σ) : σ → List α → List β
  | _, [] => []
  | s, a :: as => (f s a).toList ++ (step s a).elim [] fun t => observed f step t as

/-- The last step of a run is seen after all others. -/
theorem observed_append_singleton {f : σ → α → Option β} (prior : Run step s as t) :
    observed f step s (as ++ [a]) = observed f step s as ++ (f t a).toList := by
  induction as generalizing s with
  | nil =>
    obtain rfl : s = t := by simpa using run_iff_foldlM.mp prior
    cases h : step s a <;> simp [observed, h]
  | cons b as ih =>
    obtain ⟨between, enabled, rest⟩ := run_cons_iff.mp prior
    simp [observed, enabled, ih rest]

/-! ## Conditions on the labels of a run -/

/-- Every label of the list meets `C`, given `past` and the labels before it. -/
def ObeysFrom (C : List α → α → Prop) (past : List α) : List α → Prop
  | [] => True
  | a :: as => C past a ∧ ObeysFrom C (past ++ [a]) as

/-- Every label meets `C`, given the labels before it. -/
def Obeys (C : List α → α → Prop) (as : List α) : Prop := ObeysFrom C [] as

theorem obeysFrom_append {C : List α → α → Prop} {past : List α} :
    ObeysFrom C past (as ++ bs) ↔ ObeysFrom C past as ∧ ObeysFrom C (past ++ as) bs := by
  induction as generalizing past with
  | nil => simp [ObeysFrom]
  | cons a as ih => simp [ObeysFrom, ih, and_assoc]

@[simp] theorem obeys_append_singleton {C : List α → α → Prop} :
    Obeys C (as ++ [a]) ↔ Obeys C as ∧ C as a := by
  simp [Obeys, obeysFrom_append, ObeysFrom]

/-! ## Rules -/

/-- A property of the labels and the state that holds at the start and survives
every step the condition admits holds at the end of every run that obeys the
condition. -/
theorem Run.history {C : List α → α → Prop} {I : List α → σ → Prop} (run : Run step s as t)
    (obeys : Obeys C as) (start : I [] s)
    (preserved : ∀ {as t a u}, Run step s as t → C as a → I as t → step t a = some u →
      I (as ++ [a]) u) :
    I as t := by
  induction run with
  | nil => exact start
  | snoc prior enabled ih =>
    obtain ⟨before, last⟩ := obeys_append_singleton.mp obeys
    exact preserved prior last (ih before) enabled

/-- Every step of the run along the labels meets `C` in the state before it. -/
def Along (C : σ → α → Prop) (step : σ → α → Option σ) (s : σ) (as : List α) : Prop :=
  ∀ past a rest t, as = past ++ a :: rest → Run step s past t → C t a

theorem along_cons {C : σ → α → Prop} :
    Along C step s (a :: as) ↔ C s a ∧ ∀ t ∈ step s a, Along C step t as := by
  constructor
  · intro guarded
    refine ⟨guarded [] a as s rfl .nil, ?_⟩
    intro t enabled past b rest u split reached
    exact guarded (a :: past) b rest u (by simp [split]) ((Run.single enabled).append reached)
  · rintro ⟨first, later⟩ past b rest u split reached
    -- The step in question is the first, or a step of the rest of the run.
    cases past with
    | nil =>
      obtain ⟨rfl, -⟩ := List.cons.inj split
      cases (run_iff_foldlM.mp reached)
      exact first
    | cons a' past =>
      obtain ⟨rfl, tail⟩ := List.cons.inj split
      obtain ⟨t, enabled, reached⟩ := run_cons_iff.mp reached
      exact later t enabled past b rest u tail reached

/-- The condition on a concrete run is evaluated. -/
def decidableAlong {C : σ → α → Prop} [∀ s a, Decidable (C s a)] :
    ∀ (s : σ) (as : List α), Decidable (Along C step s as)
  | _, [] => isTrue fun _ _ _ _ split _ => by simp at split
  | s, a :: as =>
    have : ∀ t, Decidable (Along C step t as) := fun t => decidableAlong t as
    decidable_of_iff (C s a ∧ ∀ t ∈ step s a, Along C step t as) along_cons.symm

instance {C : σ → α → Prop} [∀ s a, Decidable (C s a)] : Decidable (Along C step s as) :=
  decidableAlong s as

/-- The condition on the whole run covers its beginning. -/
theorem Along.of_append {C : σ → α → Prop} (guarded : Along C step s (as ++ bs)) :
    Along C step s as := fun past a rest t split reached =>
  guarded past a (rest ++ bs) t (by simp [split]) reached

theorem along_append_singleton {C : σ → α → Prop} (prior : Run step s as t) :
    Along C step s (as ++ [a]) ↔ Along C step s as ∧ C t a := by
  constructor
  · intro guarded
    exact ⟨guarded.of_append, guarded as a [] t rfl prior⟩
  · rintro ⟨before, last⟩ past b rest u split reached
    rcases append_singleton_eq_iff.mp split with ⟨rfl, rfl, -⟩ | ⟨rest, -, rfl⟩
    · exact prior.unique reached ▸ last
    · exact before past b rest u rfl reached

/-- An inductive invariant under a condition on the state before each step. -/
theorem Run.along {C : σ → α → Prop} {I : σ → Prop} (run : Run step s as t)
    (guarded : Along C step s as) (start : I s)
    (preserved : ∀ {t a u}, C t a → I t → step t a = some u → I u) : I t := by
  induction run with
  | nil => exact start
  | snoc prior enabled ih =>
    obtain ⟨before, last⟩ := (along_append_singleton prior).mp guarded
    exact preserved last (ih before) enabled

/-- Two conditions that agree where the invariant holds agree along a run. -/
theorem Run.along_congr {C D : σ → α → Prop} {I : σ → Prop} (run : Run step s as t) (start : I s)
    (preserved : ∀ {t a u}, C t a → I t → step t a = some u → I u)
    (agree : ∀ {t a u}, I t → step t a = some u → (C t a ↔ D t a)) :
    Along C step s as ↔ Along D step s as := by
  induction run with
  | nil =>
    constructor
    all_goals
      intro _ past a rest t split
      simp at split
  | snoc prior enabled ih =>
    rw [along_append_singleton prior, along_append_singleton prior, ← ih]
    refine and_congr_right fun before => agree ?_ enabled
    exact prior.along before start preserved

/-- An inductive invariant under a condition on single labels. -/
theorem Run.invariant {C : α → Prop} {I : σ → Prop} (run : Run step s as t)
    (labels : ∀ a ∈ as, C a) (start : I s)
    (preserved : ∀ {t a u}, C a → I t → step t a = some u → I u) : I t := by
  induction run with
  | nil => exact start
  | @snoc _ _ a _ _ enabled ih =>
    have last : C a := labels a (by simp)
    exact preserved last (ih fun b member => labels b (by simp [member])) enabled

/-- When every ranked state has a step that reaches the goal or leads to a
state of lower rank, some run reaches the goal. -/
theorem exists_run_of_rank {C : α → Prop} {I : ℕ → σ → Prop} {goal : σ → Prop} {n : ℕ}
    (advance : ∀ n s, I n s → ∃ a t, C a ∧ step s a = some t ∧ (goal t ∨ ∃ m < n, I m t))
    (start : I n s) : ∃ as t, Run step s as t ∧ (∀ a ∈ as, C a) ∧ goal t := by
  induction n using Nat.strong_induction_on generalizing s with
  | _ n ih =>
    obtain ⟨a, t, admitted, enabled, reached | ⟨m, lower, ranked⟩⟩ := advance n s start
    · exact ⟨[a], t, .single enabled, by simpa using admitted, reached⟩
    · -- The rank has fallen: the rest of the run is the induction's.
      obtain ⟨as, u, run, labels, reached⟩ := ih m lower ranked
      exact ⟨a :: as, u, (Run.single enabled).append run, by simpa using ⟨admitted, labels⟩,
        reached⟩

end TestSystem.Transition
