import TestSystem.PpmGenerator.Task

/-!
# Setting up the generator

`ppm_init` allocates the object and its table of slots, registers the interrupt of
the timer and creates the semaphore; each of these may fail. What was allocated is
released again, but the interrupt stays registered when the semaphore fails. The
size of the table is computed with 32 bits, and three slots are written whatever
their number is.
-/

namespace TestSystem.PpmGenerator

/-- What the functions that `ppm_init` calls return, and what fresh memory holds. A
block is named by its address, a missing one is a null pointer. -/
structure InitAnswer where
  object : Option ℕ
  table : Option ℕ
  timer : Option ℕ
  setCallback : Int32
  semaphore : Bool
  waittime : UInt32
  sum : UInt32
  contents : ℕ → UInt32

/-- What `ppm_init` leaves behind. -/
structure Built where
  returned : Option Ppm
  allocated : List ℕ
  released : List ℕ
  /-- The data pointer with which `timerHandler` is registered. -/
  registered : Option ℕ
  /-- The indices of the slots that were written to. -/
  written : List ℕ

/-- `sizeof(struct ppm_slot) * ppm->slots`, in entries; `size_t` has 32 bits. -/
def tableEntries (slots : UInt32) : ℕ := (4 * slots).toNat / 4

/-- An entry whose first `count` bytes are set to zero; the machine is little-endian. -/
def zeroBytes (count : ℕ) (value : UInt32) : UInt32 :=
  if 4 ≤ count then 0
  else UInt32.ofNat (value.toNat / 2 ^ (8 * count) * 2 ^ (8 * count))

/-- The slots that `memset` reaches. -/
def clearedIndices (slots : UInt32) : List ℕ := List.range ((slots.toNat + 3) / 4)

/-- `memset((void *) ppm->slot, 0, ppm->slots)`: as many bytes as there are slots. -/
def clearTable (slots : UInt32) (slot : List UInt32) : List UInt32 :=
  (clearedIndices slots).foldl
    (fun slot index => slot.modify index (zeroBytes (slots.toNat - 4 * index))) slot

/-- What is stored where: the loop over all slots, and the three assignments after it. -/
def fillStores (slots : UInt32) : List (ℕ × UInt32) :=
  (List.range slots.toNat).map (fun index => (index, 1000)) ++ [(0, 0), (1, 200), (2, 200)]

/-- The table after the stores. -/
def fillTable (slots : UInt32) (slot : List UInt32) : List UInt32 :=
  (fillStores slots).foldl (fun slot store => slot.set store.1 store.2) slot

/-- The indices of the stores. -/
def filledIndices (slots : UInt32) : List ℕ := (fillStores slots).map Prod.fst

/-- `ppm_init_error_2` and the labels after it. -/
def ppmInitError2 (object table : ℕ) (registered : Option ℕ) (written : List ℕ) : Built :=
  { returned := none
    allocated := [object, table]
    released := [table, object]
    registered := registered
    written := written }

/-- The table after `memset`. -/
def clearedTable (slots : UInt32) (answer : InitAnswer) : List UInt32 :=
  clearTable slots ((List.range (tableEntries slots)).map answer.contents)

/-- The object that is returned; the semaphore was given and taken again. -/
def handedOver (slots : UInt32) (answer : InitAnswer) : Ppm where
  slots := slots
  slot := fillTable slots (clearedTable slots answer)
  timer := none
  pin := false
  sem := false
  waittime := answer.waittime
  pos := 0
  state := .stoped
  sum := answer.sum
  log := []

/-- `ppm_init`, given what each allocation and call of a driver answers. -/
def ppmInit (slots : UInt32) (answer : InitAnswer) : Built :=
  match answer.object with
  | none => { returned := none, allocated := [], released := [], registered := none, written := [] }
  | some object =>
    match answer.table with
    | none =>
      { returned := none
        allocated := [object]
        released := [object]
        registered := none
        written := [] }
    | some table =>
      match answer.timer with
      | none => ppmInitError2 object table none (clearedIndices slots)
      | some _ =>
        if answer.setCallback < 0 then
          ppmInitError2 object table none (clearedIndices slots)
        -- The callback is registered from here on.
        else if answer.semaphore = false then
          ppmInitError2 object table (some object) (clearedIndices slots)
        else
          { returned := some (handedOver slots answer)
            allocated := [object, table]
            released := []
            registered := some object
            written := clearedIndices slots ++ filledIndices slots }

/-- A generator is returned with everything in place, or nothing of it is left. -/
structure CompleteOrNothing (slots : UInt32) (answer : InitAnswer) : Prop where
  complete : ∀ ppm, (ppmInit slots answer).returned = some ppm →
    ppm.slot.length = slots.toNat ∧ (∀ index ∈ (ppmInit slots answer).written,
      index < slots.toNat) ∧ (∀ value ∈ ppm.slot, value.toNat ≤ 1000) ∧
      ppm.state = .stoped ∧ ppm.sem = false ∧
      (ppmInit slots answer).registered = answer.object
  nothing : (ppmInit slots answer).returned = none →
    (∀ block ∈ (ppmInit slots answer).allocated, block ∈ (ppmInit slots answer).released) ∧
      ∀ block, (ppmInit slots answer).registered = some block →
        block ∉ (ppmInit slots answer).released

variable {slots : UInt32} {answer : InitAnswer} {slot : List UInt32}

/-! ## The table -/

/-- A loop over the beginning of a list that writes every element. -/
theorem foldl_set_range (value : UInt32) {n : ℕ} (room : n ≤ slot.length) :
    (List.range n).foldl (fun slot index => slot.set index value) slot =
      List.replicate n value ++ slot.drop n := by
  induction n with
  | zero => rfl
  | succ n ih =>
    have next : slot.drop n = slot[n] :: slot.drop (n + 1) := List.drop_eq_getElem_cons room
    rw [List.range_succ, List.foldl_append, ih (Nat.le_of_succ_le room), next]
    simp only [List.foldl_cons, List.foldl_nil, List.set_append, List.length_replicate,
      Nat.lt_irrefl, if_false, Nat.sub_self, List.set_cons_zero, List.replicate_succ',
      List.append_assoc, List.singleton_append]

theorem toNat_tableEntries (slots : UInt32) : tableEntries slots = slots.toNat % 2 ^ 30 := by
  simp only [tableEntries, UInt32.toNat_mul, UInt32.reduceToNat]
  omega

/-- Stores that keep the length keep it one after another. -/
theorem length_foldl {ι : Type*} {store : List UInt32 → ι → List UInt32}
    (keeps : ∀ slot i, (store slot i).length = slot.length) (stores : List ι)
    (slot : List UInt32) : (stores.foldl store slot).length = slot.length := by
  induction stores generalizing slot with
  | nil => rfl
  | cons i stores ih => rw [List.foldl_cons, ih, keeps]

theorem length_fillTable (slots : UInt32) (slot : List UInt32) :
    (fillTable slots slot).length = slot.length :=
  length_foldl (fun _ _ => List.length_set) _ slot

theorem length_clearTable (slots : UInt32) (slot : List UInt32) :
    (clearTable slots slot).length = slot.length :=
  length_foldl (fun slot index => by rw [List.length_modify]) _ slot

/-- A table of the right size is filled, and no entry exceeds 1000. -/
theorem le_of_mem_fillTable (all : slot.length = slots.toNat) :
    ∀ value ∈ fillTable slots slot, value.toNat ≤ 1000 := by
  have filled : fillTable slots slot =
      (((List.replicate slots.toNat 1000).set 0 0).set 1 200).set 2 200 := by
    rw [fillTable, fillStores, List.foldl_append, List.foldl_map, foldl_set_range 1000 all.ge,
      ← all, List.drop_length, List.append_nil]
    rfl
  intro value member
  rw [filled] at member
  rcases List.mem_or_eq_of_mem_set member with member | rfl
  · rcases List.mem_or_eq_of_mem_set member with member | rfl
    · rcases List.mem_or_eq_of_mem_set member with member | rfl
      · rw [List.eq_of_mem_replicate member]
        decide
      · decide
    · decide
  · decide

/-! ## The outcomes -/

/-- The object, the table, the timer and its callback are there. -/
def InitAnswer.Prepared (answer : InitAnswer) : Prop :=
  answer.object ≠ none ∧ answer.table ≠ none ∧ answer.timer ≠ none ∧ ¬ answer.setCallback < 0

/-- Where a part is missing, what was allocated is released and nothing is registered. -/
theorem ppmInit_of_not_prepared (slots : UInt32) (missing : ¬ answer.Prepared) :
    (ppmInit slots answer).returned = none ∧ (ppmInit slots answer).registered = none ∧
      ∀ block ∈ (ppmInit slots answer).allocated, block ∈ (ppmInit slots answer).released := by
  cases hobject : answer.object with
  | none => simp [ppmInit, hobject]
  | some object =>
    cases htable : answer.table with
    | none => simp [ppmInit, hobject, htable]
    | some table =>
      cases htimer : answer.timer with
      | none => simp [ppmInit, hobject, htable, htimer, ppmInitError2]
      | some timer =>
        have refused : answer.setCallback < 0 := by
          simpa [InitAnswer.Prepared, hobject, htable, htimer] using missing
        simp [ppmInit, hobject, htable, htimer, refused, ppmInitError2]

/-- Without the semaphore the object is released while its callback is registered. -/
theorem ppmInit_of_no_semaphore (slots : UInt32) (prepared : answer.Prepared)
    (missing : answer.semaphore = false) :
    ∃ object, (ppmInit slots answer).returned = none ∧
      (ppmInit slots answer).registered = some object ∧
      object ∈ (ppmInit slots answer).released := by
  obtain ⟨hobject, htable, htimer, accepted⟩ := prepared
  obtain ⟨object, hobject⟩ := Option.ne_none_iff_exists'.mp hobject
  obtain ⟨table, htable⟩ := Option.ne_none_iff_exists'.mp htable
  obtain ⟨timer, htimer⟩ := Option.ne_none_iff_exists'.mp htimer
  refine ⟨object, ?_⟩
  simp [ppmInit, hobject, htable, htimer, accepted, missing, ppmInitError2]

/-- With everything there the generator is returned. -/
theorem ppmInit_of_all (slots : UInt32) (prepared : answer.Prepared)
    (semaphore : answer.semaphore = true) :
    (ppmInit slots answer).returned = some (handedOver slots answer) ∧
      (ppmInit slots answer).registered = answer.object ∧
      (ppmInit slots answer).written = clearedIndices slots ++ filledIndices slots := by
  obtain ⟨hobject, htable, htimer, accepted⟩ := prepared
  obtain ⟨object, hobject⟩ := Option.ne_none_iff_exists'.mp hobject
  obtain ⟨table, htable⟩ := Option.ne_none_iff_exists'.mp htable
  obtain ⟨timer, htimer⟩ := Option.ne_none_iff_exists'.mp htimer
  simp [ppmInit, hobject, htable, htimer, accepted, semaphore]

theorem length_clearedTable (slots : UInt32) (answer : InitAnswer) :
    (clearedTable slots answer).length = slots.toNat % 2 ^ 30 := by
  simp [clearedTable, length_clearTable, toNat_tableEntries]

/-- What the outcomes and the number of slots must be. -/
def Demands (slots : UInt32) (answer : InitAnswer) : Prop :=
  answer.Prepared → answer.semaphore = true ∧ 3 ≤ slots.toNat ∧ slots.toNat < 2 ^ 30

/-- The generator that is returned can be started. -/
theorem created_of_ppmInit {ppm : Ppm} (demands : Demands slots answer)
    (returned : (ppmInit slots answer).returned = some ppm) :
    Created ppm ∧ ppm.slots = slots ∧ ∀ value ∈ ppm.slot, value.toNat ≤ 1000 := by
  by_cases prepared : answer.Prepared
  · obtain ⟨semaphore, -, few⟩ := demands prepared
    obtain ⟨returned', -, -⟩ := ppmInit_of_all slots prepared semaphore
    obtain rfl := Option.some.inj (returned'.symm.trans returned)
    have all : (clearedTable slots answer).length = slots.toNat := by
      rw [length_clearedTable, Nat.mod_eq_of_lt few]
    refine ⟨⟨rfl, rfl, rfl, ?_, rfl⟩, rfl, le_of_mem_fillTable all⟩
    exact (length_fillTable _ _).trans all
  · have missing := (ppmInit_of_not_prepared slots prepared).1
    rw [returned] at missing
    cases missing

theorem demands_of_completeOrNothing (whole : CompleteOrNothing slots answer) :
    Demands slots answer := by
  intro prepared
  have semaphore : answer.semaphore = true := by
    by_contra missing
    -- Otherwise the object is released and stays registered.
    obtain ⟨object, returned, registered, released⟩ :=
      ppmInit_of_no_semaphore slots prepared (by simpa using missing)
    exact (whole.nothing returned).2 object registered released
  obtain ⟨returned, -, written⟩ := ppmInit_of_all slots prepared semaphore
  obtain ⟨all, inside, -⟩ := whole.complete _ returned
  refine ⟨semaphore, ?_, ?_⟩
  · -- The last of the three assignments is inside the table.
    exact inside 2 (by simp [written, filledIndices, fillStores])
  -- The size in bytes wraps, so the length is a remainder.
  · have length : (handedOver slots answer).slot.length = slots.toNat % 2 ^ 30 :=
      (length_fillTable _ _).trans (length_clearedTable slots answer)
    rw [length] at all
    have := Nat.mod_lt slots.toNat (by decide : 0 < 2 ^ 30)
    omega

theorem lt_of_mem_written (enough : 3 ≤ slots.toNat) :
    ∀ index ∈ clearedIndices slots ++ filledIndices slots, index < slots.toNat := by
  intro index member
  simp only [clearedIndices, filledIndices, fillStores, List.map_append, List.map_map,
    List.mem_append, List.mem_map, List.mem_range, List.mem_cons, List.not_mem_nil, or_false,
    List.map_cons, List.map_nil, Function.comp_apply, exists_eq_right] at member
  omega

theorem completeOrNothing_of_demands (demands : Demands slots answer) :
    CompleteOrNothing slots answer := by
  constructor
  · intro ppm returned
    obtain ⟨created, hslots, small⟩ := created_of_ppmInit demands returned
    by_cases prepared : answer.Prepared
    · obtain ⟨semaphore, enough, -⟩ := demands prepared
      obtain ⟨-, registered, written⟩ := ppmInit_of_all slots prepared semaphore
      refine ⟨hslots ▸ created.slot, ?_, small, created.state, created.sem, registered⟩
      rw [written]
      exact lt_of_mem_written enough
    · have missing := (ppmInit_of_not_prepared slots prepared).1
      rw [returned] at missing
      cases missing
  · intro failed
    by_cases prepared : answer.Prepared
    · have returned := (ppmInit_of_all slots prepared (demands prepared).1).1
      rw [failed] at returned
      cases returned
    · obtain ⟨-, registered, released⟩ := ppmInit_of_not_prepared slots prepared
      refine ⟨released, fun block held => ?_⟩
      rw [registered] at held
      cases held

/-- **When `ppm_init` delivers a complete generator or nothing.** It does so for given
outcomes and a number of slots exactly if, whenever the object, the table, the timer
and its callback are there, the semaphore is too and there are at least three and
fewer than 2 ^ 30 slots. -/
theorem completeOrNothing_iff (slots : UInt32) (answer : InitAnswer) :
    CompleteOrNothing slots answer ↔ Demands slots answer :=
  ⟨demands_of_completeOrNothing, completeOrNothing_of_demands⟩

/-- Everything succeeds but the semaphore, if it is asked to fail. -/
def answering (semaphore : Bool) : InitAnswer where
  object := some 1
  table := some 2
  timer := some 3
  setCallback := 0
  semaphore := semaphore
  waittime := 0
  sum := 0
  contents := fun _ => 0

/-- With two slots the third is written, with 2 ^ 30 the table is empty, and without a
semaphore the callback of a released object stays registered. -/
theorem not_completeOrNothing :
    ¬ CompleteOrNothing 2 (answering true) ∧ ¬ CompleteOrNothing (2 ^ 30) (answering true) ∧
      ¬ CompleteOrNothing 8 (answering false) := by
  have prepared (semaphore : Bool) : (answering semaphore).Prepared := by
    simp [InitAnswer.Prepared, answering]
  refine ⟨fun whole => ?_, fun whole => ?_, fun whole => ?_⟩
  · exact absurd (demands_of_completeOrNothing whole (prepared true)).2.1 (by decide)
  · exact absurd (demands_of_completeOrNothing whole (prepared true)).2.2 (by decide)
  · exact absurd (demands_of_completeOrNothing whole (prepared false)).1 (by decide)

end TestSystem.PpmGenerator
