import Mathlib

/-!
# One part of a system and the events that concern it

When every event either is addressed to a part or leaves the part alone, the
part sees only its own events: after any history it is what those events alone
make of it, and two histories that agree on them leave it the same.

What a history hands out, event by event, may depend on the events before; a
stretch of events that hand out nothing can be left out.
-/

namespace TestSystem.Transition

variable {σ τ ε δ : Type*} {handle : σ → ε → σ} {own : ε → Option δ} {respond : τ → δ → τ}

/-- The part after a history is its own events applied to it. -/
theorem view_foldl (view : σ → τ)
    (addressed : ∀ s e, view (handle s e) = (own e).elim (view s) (respond (view s)))
    (s : σ) (es : List ε) :
    view (es.foldl handle s) = (es.filterMap own).foldl respond (view s) := by
  induction es generalizing s with
  | nil => rfl
  | cons e es ih =>
    rw [List.foldl_cons, ih, addressed]
    cases h : own e with
    | none => simp [h]
    | some d => simp [h]

/-! ## What a history hands out -/

section Collect

variable {f : List ε → ε → Option δ} {past es es' : List ε} {e : ε}

/-- What `f` makes of each event and the events before it, after `past`. -/
def collectFrom (f : List ε → ε → Option δ) : List ε → List ε → List δ
  | _, [] => []
  | past, e :: es => (f past e).toList ++ collectFrom f (past ++ [e]) es

/-- What `f` makes of every event and the events before it. -/
def collect (f : List ε → ε → Option δ) (es : List ε) : List δ := collectFrom f [] es

theorem collectFrom_append :
    collectFrom f past (es ++ es') = collectFrom f past es ++ collectFrom f (past ++ es) es' := by
  induction es generalizing past with
  | nil => simp [collectFrom]
  | cons e es ih => simp [collectFrom, ih]

theorem collectFrom_of_silent (silent : ∀ past, ∀ e ∈ es, f past e = none) :
    collectFrom f past es = [] := by
  induction es generalizing past with
  | nil => rfl
  | cons e es ih =>
    have rest : ∀ past, ∀ e ∈ es, f past e = none := fun past e member =>
      silent past e (List.mem_cons_of_mem _ member)
    simp [collectFrom, silent past e List.mem_cons_self, ih rest]

@[simp] theorem collect_append_singleton :
    collect f (es ++ [e]) = collect f es ++ (f es e).toList := by
  simp [collect, collectFrom_append, collectFrom]

theorem collect_append_of_silent (silent : ∀ past, ∀ e ∈ es', f past e = none) :
    collect f (es ++ es') = collect f es := by
  simp [collect, collectFrom_append, collectFrom_of_silent silent]

end Collect

end TestSystem.Transition
