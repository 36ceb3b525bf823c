import Mathlib

/-!
# A memory of words

Addresses are those of bytes, and a word is read and written at an address that is
a multiple of four. A block of words is stored upwards from its first address. An
address outside the block keeps its word, and a block that does not run past the
end of the memory is read back as it was stored.

The same holds of registers: a list of registers takes a list of words, and gives
back the words it had if these come from a block that it was stored to.
-/

namespace TestSystem.Machine

/-- A machine word. -/
abbrev Word := BitVec 32

/-- The memory by word; only aligned addresses are used. -/
abbrev Memory := Word → Word

/-- What a word transfer asks of its address. -/
def Aligned (a : Word) : Prop := a.toNat % 4 = 0

instance (a : Word) : Decidable (Aligned a) := inferInstanceAs (Decidable (_ = _))

namespace Memory

variable {m m' : Memory} {a b v : Word} {vs : List Word} {n : ℕ}

/-- One word is written. -/
def store (m : Memory) (a v : Word) : Memory := fun b => if b = a then v else m b

/-- The words from an address upwards. -/
def storeAll : Memory → Word → List Word → Memory
  | m, _, [] => m
  | m, a, v :: vs => storeAll (m.store a v) (a + 4) vs

/-- The `n` words from an address on. -/
def loadAll (m : Memory) : Word → ℕ → List Word
  | _, 0 => []
  | a, n + 1 => m a :: m.loadAll (a + 4) n

@[simp] theorem store_self : m.store a v a = v := by simp [store]

theorem store_of_ne (ne : b ≠ a) : m.store a v b = m b := by simp [store, ne]

/-- The block of `n` words at `a` ends before the address space does. -/
def Fits (a : Word) (n : ℕ) : Prop := a.toNat + 4 * n ≤ 2 ^ 32

/-- The address of a byte lies outside the block of `n` words at `a`. -/
def Outside (a : Word) (n : ℕ) (b : Word) : Prop :=
  b.toNat < a.toNat ∨ a.toNat + 4 * n ≤ b.toNat

theorem toNat_add_four (fits : Fits a (n + 1)) (pos : 0 < n) :
    (a + 4).toNat = a.toNat + 4 := by
  unfold Fits at fits
  bv_omega

theorem Outside.head_ne (outside : Outside a (n + 1) b) : b ≠ a := by
  rintro rfl
  unfold Outside at outside
  omega

/-- What lies outside a block lies outside the block without its first word. -/
theorem Outside.tail (outside : Outside a (n + 1) b) (fits : Fits a (n + 1)) (pos : 0 < n) :
    Outside (a + 4) n b := by
  have next := toNat_add_four fits pos
  unfold Outside at outside ⊢
  omega

theorem Fits.tail (fits : Fits a (n + 1)) (pos : 0 < n) : Fits (a + 4) n := by
  have next := toNat_add_four fits pos
  unfold Fits at fits ⊢
  omega

/-- A block leaves the rest of the memory alone. -/
theorem storeAll_of_outside (fits : Fits a vs.length) (outside : Outside a vs.length b) :
    m.storeAll a vs b = m b := by
  induction vs generalizing m a with
  | nil => rfl
  | cons v vs ih =>
    have head : m.store a v b = m b := store_of_ne outside.head_ne
    cases vs with
    | nil => exact head
    | cons w ws =>
      have tail := ih (m := m.store a v) (fits.tail (Nat.succ_pos _))
        (outside.tail fits (Nat.succ_pos _))
      exact tail.trans head

theorem outside_head (fits : Fits a (n + 1)) (pos : 0 < n) : Outside (a + 4) n a := by
  have next := toNat_add_four fits pos
  left
  omega

theorem loadAll_storeAll (vs : List Word) (fits : Fits a vs.length) :
    (m.storeAll a vs).loadAll a vs.length = vs := by
  induction vs generalizing m a with
  | nil => rfl
  | cons v vs ih =>
    cases vs with
    | nil => simp [storeAll, loadAll]
    | cons w ws =>
      have pos : 0 < (w :: ws).length := Nat.succ_pos _
      have head : m.storeAll a (v :: w :: ws) a = v := by
        have kept := storeAll_of_outside (m := m.store a v) (fits.tail pos) (outside_head fits pos)
        exact kept.trans store_self
      have tail := ih (m := m.store a v) (fits.tail pos)
      exact congrArg₂ List.cons head tail

/-- A block is read from the words it lies in, and from no others. -/
theorem loadAll_congr (fits : Fits a n) (same : ∀ b, ¬ Outside a n b → m b = m' b) :
    m.loadAll a n = m'.loadAll a n := by
  induction n generalizing a with
  | zero => rfl
  | succ n ih =>
    have head : m a = m' a := by
      apply same
      unfold Outside
      omega
    cases n with
    | zero => simp [loadAll, head]
    | succ n =>
      have tail : m.loadAll (a + 4) (n + 1) = m'.loadAll (a + 4) (n + 1) := by
        apply ih (fits.tail (Nat.succ_pos _))
        intro b inside
        exact same b fun outside => inside (outside.tail fits (Nat.succ_pos _))
      exact congrArg₂ List.cons head tail

end Memory

/-! ## Lists of registers -/

variable {ρ : Type*} [DecidableEq ρ] {f g : ρ → Word} {r : ρ} {rs : List ρ}

/-- Registers take words, in order; a register without a word keeps its own. -/
def setAll : (ρ → Word) → List ρ → List Word → ρ → Word
  | f, r :: rs, v :: vs => setAll (Function.update f r v) rs vs
  | f, _, _ => f

theorem setAll_of_notMem (vs : List Word) (absent : r ∉ rs) : setAll f rs vs r = f r := by
  induction rs generalizing f vs with
  | nil => rfl
  | cons r' rs ih =>
    cases vs with
    | nil => rfl
    | cons v vs =>
      have ne : r ≠ r' := List.ne_of_not_mem_cons absent
      exact (ih vs (List.not_mem_of_not_mem_cons absent)).trans (Function.update_of_ne ne v f)

/-- Enough words leave nothing of what the registers of the list held. -/
theorem setAll_of_mem {vs : List Word} (enough : rs.length ≤ vs.length) (listed : r ∈ rs) :
    setAll f rs vs r = setAll g rs vs r := by
  induction rs generalizing f g vs with
  | nil => simp at listed
  | cons r' rs ih =>
    cases vs with
    | nil => simp at enough
    | cons v vs =>
      by_cases again : r ∈ rs
      · exact ih (Nat.le_of_succ_le_succ enough) again
      · have here : r = r' := by simpa [again] using listed
        have last (h : ρ → Word) : setAll h (r' :: rs) (v :: vs) r = v := by
          rw [here] at again ⊢
          exact (setAll_of_notMem vs again).trans (Function.update_self r' v h)
        rw [last, last]

/-- The registers of the list end with the words that `g` has for them. -/
theorem setAll_map_append (f g : ρ → Word) (rs : List ρ) (ws : List Word) (r : ρ) :
    setAll f rs (rs.map g ++ ws) r = if r ∈ rs then g r else f r := by
  induction rs generalizing f with
  | nil => rfl
  | cons r' rs ih =>
    have head : setAll f (r' :: rs) ((r' :: rs).map g ++ ws) r =
        setAll (Function.update f r' (g r')) rs (rs.map g ++ ws) r := rfl
    rw [head, ih]
    by_cases same : r = r'
    · subst same
      simp
    · simp [same]

theorem setAll_map (f g : ρ → Word) (rs : List ρ) (r : ρ) :
    setAll f rs (rs.map g) r = if r ∈ rs then g r else f r := by
  simpa using setAll_map_append f g rs [] r

end TestSystem.Machine
