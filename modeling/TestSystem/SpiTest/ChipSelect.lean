import TestSystem.SpiTest.Command

/-!
# The select pin of the SPI test

With `CONFIG_SPI_TEST_SINGEL_BYTE` the function `transfer` drives the select pin
itself and passes the words to the driver one at a time. When a word fails it
returns at once with the code of this word, and the pin stays active. When none
fails the words sent and received are those of the build that passes all of them in
one call.
-/

namespace TestSystem.SpiTest

/-- The transfer of word `i` fails, where the driver was called `before` times
already. -/
def WordFails (spi : Spi) (before : ℕ) (send recv : List UInt16) (i : ℕ) : Prop :=
  ∃ word slot, send[i]? = some word ∧ recv[i]? = some slot ∧ (spi (before + i) [word] [slot]).1 < 0

/-- What the driver does: a transfer writes the buffer it was given, and if it
succeeds this holds what the slave has answered to each word. -/
structure Exchanges (spi : Spi) (send recv : List UInt16) (answer : ℕ → UInt16) : Prop where
  fits : ∀ n word slot, (spi n [word] [slot]).2.length = 1
  word : ∀ i word slot, send[i]? = some word → recv[i]? = some slot →
    ¬ (spi i [word] [slot]).1 < 0 → (spi i [word] [slot]).2 = [answer i]
  whole : ¬ (spi 0 send recv).1 < 0 → (spi 0 send recv).2 = (List.range send.length).map answer

/-- If word `i` is the first that fails, the words up to it were attempted, nothing
behind it was received, and its code is returned. If none fails, the words are those
of one call. -/
structure WordByWord (spi : Spi) (send recv : List UInt16) : Prop where
  failure : ∀ i word slot, send[i]? = some word → recv[i]? = some slot →
    (spi i [word] [slot]).1 < 0 → (∀ j < i, ¬ WordFails spi 0 send recv j) →
      (transfer true spi send recv).sent = (send.take (i + 1)).map (fun word => [word]) ∧
        (∀ j, i < j → (transfer true spi send recv).recv[j]? = recv[j]?) ∧
        (transfer true spi send recv).ret = (spi i [word] [slot]).1
  success : (∀ i, ¬ WordFails spi 0 send recv i) →
    ¬ (transfer true spi send recv).ret < 0 ∧
      (transfer true spi send recv).sent.flatten = (transfer false spi send recv).sent.flatten ∧
      (¬ (transfer false spi send recv).ret < 0 →
        (transfer true spi send recv).recv = (transfer false spi send recv).recv)

/-- In addition the pin is set again when `transfer` returns. -/
structure PinReleased (spi : Spi) (send recv : List UInt16) : Prop
    extends WordByWord spi send recv where
  released : (transfer true spi send recv).released

variable {spi : Spi} {send recv : List UInt16} {answer : ℕ → UInt16} {before i : ℕ} {ret : Int32}
  {word slot : UInt16}

/-! ## The words before and after the first one -/

theorem wordFails_zero :
    WordFails spi before (word :: send) (slot :: recv) 0 ↔ (spi before [word] [slot]).1 < 0 := by
  simp [WordFails]

theorem wordFails_succ :
    WordFails spi before (word :: send) (slot :: recv) (i + 1) ↔
      WordFails spi (before + 1) send recv i := by
  simp only [WordFails, List.getElem?_cons_succ, Nat.add_assoc, Nat.add_comm 1]

/-- Behind the word that was written stands what the buffer had there. -/
theorem getElem?_written_append (fits : ∀ n word slot, (spi n [word] [slot]).2.length = 1)
    (before : ℕ) (word slot : UInt16) (recv : List UInt16) (j : ℕ) :
    ((spi before [word] [slot]).2 ++ recv)[j + 1]? = recv[j]? := by
  have behind : (spi before [word] [slot]).2.length ≤ j + 1 := by
    rw [fits]
    omega
  rw [List.getElem?_append_right behind, fits]
  rfl

theorem transferEach_of_neg (failed : (spi before [word] [slot]).1 < 0) :
    transferEach spi before ret (word :: send) (slot :: recv) =
      { ret := (spi before [word] [slot]).1
        recv := (spi before [word] [slot]).2 ++ recv
        sent := [[word]]
        released := false } := by
  simp [transferEach, failed]

theorem transferEach_of_nonneg (accepted : ¬ (spi before [word] [slot]).1 < 0) :
    transferEach spi before ret (word :: send) (slot :: recv) =
      let rest := transferEach spi (before + 1) (spi before [word] [slot]).1 send recv
      { rest with
        recv := (spi before [word] [slot]).2 ++ rest.recv
        sent := [word] :: rest.sent } := by
  simp [transferEach, accepted]

/-! ## The loop -/

/-- The loop up to the first word that fails. -/
theorem transferEach_of_fails (fits : ∀ n word slot, (spi n [word] [slot]).2.length = 1)
    (ret : Int32) (hword : send[i]? = some word) (hslot : recv[i]? = some slot)
    (failed : (spi (before + i) [word] [slot]).1 < 0)
    (first : ∀ j < i, ¬ WordFails spi before send recv j) :
    (transferEach spi before ret send recv).released = false ∧
      (transferEach spi before ret send recv).sent =
        (send.take (i + 1)).map (fun word => [word]) ∧
      (∀ j, i < j → (transferEach spi before ret send recv).recv[j]? = recv[j]?) ∧
      (transferEach spi before ret send recv).ret = (spi (before + i) [word] [slot]).1 := by
  induction send generalizing before i ret recv with
  | nil => simp at hword
  | cons next send ih =>
    cases recv with
    | nil => simp at hslot
    | cons room recv =>
      cases i with
      | zero =>
        obtain rfl : next = word := by simpa using hword
        obtain rfl : room = slot := by simpa using hslot
        have now : (spi before [next] [room]).1 < 0 := failed
        rw [transferEach_of_neg now]
        refine ⟨rfl, rfl, fun j behind => ?_, rfl⟩
        obtain ⟨j, rfl⟩ := Nat.exists_eq_succ_of_ne_zero behind.ne'
        exact getElem?_written_append fits before next room recv j
      | succ i =>
        have accepted : ¬ (spi before [next] [room]).1 < 0 := fun negative =>
          first 0 (Nat.succ_pos i) (wordFails_zero.mpr negative)
        rw [List.getElem?_cons_succ] at hword hslot
        rw [← Nat.add_assoc, Nat.add_right_comm] at failed
        obtain ⟨released, sent, behind, code⟩ :=
          ih (spi before [next] [room]).1 hword hslot failed fun j less fails =>
            first (j + 1) (Nat.succ_lt_succ less) (wordFails_succ.mpr fails)
        rw [transferEach_of_nonneg accepted]
        refine ⟨released, ?_, fun j later => ?_, ?_⟩
        · simp [sent]
        · obtain ⟨j, rfl⟩ := Nat.exists_eq_succ_of_ne_zero (Nat.ne_zero_of_lt later)
          rw [getElem?_written_append fits, List.getElem?_cons_succ]
          exact behind j (Nat.lt_of_succ_lt_succ later)
        · rw [← Nat.add_assoc, Nat.add_right_comm]
          exact code

/-- The loop when no word fails. -/
theorem transferEach_of_not_fails (ret : Int32) (room : send.length = recv.length)
    (answers : ∀ i word slot, send[i]? = some word → recv[i]? = some slot →
      ¬ (spi (before + i) [word] [slot]).1 < 0 →
        (spi (before + i) [word] [slot]).2 = [answer (before + i)])
    (succeeds : ∀ i, ¬ WordFails spi before send recv i) (nonneg : ¬ ret < 0) :
    (transferEach spi before ret send recv).released = true ∧
      ¬ (transferEach spi before ret send recv).ret < 0 ∧
      (transferEach spi before ret send recv).recv =
        (List.range send.length).map fun k => answer (before + k) := by
  induction send generalizing before ret recv with
  | nil =>
    obtain rfl : recv = [] := List.length_eq_zero_iff.mp room.symm
    exact ⟨rfl, nonneg, rfl⟩
  | cons word send ih =>
    cases recv with
    | nil => simp at room
    | cons slot recv =>
      have accepted : ¬ (spi before [word] [slot]).1 < 0 := wordFails_zero.not.mp (succeeds 0)
      have received : (spi before [word] [slot]).2 = [answer before] :=
        answers 0 word slot rfl rfl accepted
      have shift (k : ℕ) : before + (k + 1) = before + 1 + k := by omega
      have answers' : ∀ i word slot, send[i]? = some word → recv[i]? = some slot →
          ¬ (spi (before + 1 + i) [word] [slot]).1 < 0 →
            (spi (before + 1 + i) [word] [slot]).2 = [answer (before + 1 + i)] := by
        intro i word' slot' hword hslot
        rw [← shift]
        exact answers (i + 1) word' slot' hword hslot
      have succeeds' : ∀ i, ¬ WordFails spi (before + 1) send recv i := fun i =>
        wordFails_succ.not.mp (succeeds (i + 1))
      obtain ⟨released, nonneg', rest⟩ :=
        ih (spi before [word] [slot]).1 (Nat.succ.inj room) answers' succeeds' accepted
      rw [transferEach_of_nonneg accepted]
      refine ⟨released, nonneg', ?_⟩
      simp only [received, rest, List.length_cons, List.range_succ_eq_map, List.map_cons,
        List.map_map, Nat.add_zero, List.singleton_append]
      congr 2
      funext k
      exact congrArg answer (shift k).symm

/-! ## The pin -/

/-- The first word that fails ends the loop with the pin active. -/
theorem not_released_of_fails (fits : ∀ n word slot, (spi n [word] [slot]).2.length = 1)
    (fails : ∃ i, WordFails spi 0 send recv i) :
    (transfer true spi send recv).released = false := by
  classical
  obtain ⟨word, slot, hword, hslot, failed⟩ := Nat.find_spec fails
  have first : ∀ j < Nat.find fails, ¬ WordFails spi 0 send recv j := fun j => Nat.find_min fails
  exact (transferEach_of_fails fits 0 hword hslot failed first).1

theorem transfer_of_not_fails (room : send.length = recv.length)
    (exchanges : Exchanges spi send recv answer) (succeeds : ∀ i, ¬ WordFails spi 0 send recv i) :
    (transfer true spi send recv).released = true ∧ ¬ (transfer true spi send recv).ret < 0 ∧
      (transfer true spi send recv).recv = (List.range send.length).map answer := by
  have answers : ∀ i word slot, send[i]? = some word → recv[i]? = some slot →
      ¬ (spi (0 + i) [word] [slot]).1 < 0 →
        (spi (0 + i) [word] [slot]).2 = [answer (0 + i)] := by
    simpa using exchanges.word
  simpa [transfer] using transferEach_of_not_fails 0 room answers succeeds (by decide)

/-- Apart from the pin, `transfer` does what is expected whether words fail or not. -/
theorem wordByWord_transfer (room : send.length = recv.length)
    (exchanges : Exchanges spi send recv answer) : WordByWord spi send recv := by
  constructor
  · intro i word slot hword hslot failed first
    have failed' : (spi (0 + i) [word] [slot]).1 < 0 := by rwa [Nat.zero_add]
    obtain ⟨-, sent, behind, code⟩ :=
      transferEach_of_fails exchanges.fits 0 hword hslot failed' first
    rw [Nat.zero_add] at code
    exact ⟨sent, behind, code⟩
  · intro succeeds
    obtain ⟨-, nonneg, received⟩ := transfer_of_not_fails room exchanges succeeds
    have once : (transfer false spi send recv).sent.flatten = send := by simp [transfer]
    refine ⟨nonneg, (sent_transfer true spi send recv room nonneg).trans once.symm, ?_⟩
    intro whole
    exact received.trans (exchanges.whole whole).symm

/-- **When the select pin is released.** For all words and whatever the driver answers,
`transfer` of the build with `CONFIG_SPI_TEST_SINGEL_BYTE` does what is expected, and
leaves the pin set, exactly if no word fails. -/
theorem pinReleased_iff (room : send.length = recv.length)
    (exchanges : Exchanges spi send recv answer) :
    PinReleased spi send recv ↔ ∀ i, ¬ WordFails spi 0 send recv i := by
  constructor
  · intro pin i fails
    have active := not_released_of_fails exchanges.fits ⟨i, fails⟩
    rw [pin.released] at active
    cases active
  · intro succeeds
    exact ⟨wordByWord_transfer room exchanges, (transfer_of_not_fails room exchanges succeeds).1⟩

/-- A slave that answers each word with its number and 0x100. If word `bad` is
transferred, the driver reports an error and leaves the buffer alone. -/
def countingSpi (bad : ℕ) : Spi := fun n send recv =>
  if n ≤ bad ∧ bad < n + send.length then (-1, recv)
  else (0, (List.range send.length).map fun k => 0x100 + UInt16.ofNat (n + k))

theorem countingSpi_of_nonneg {bad n : ℕ} (accepted : ¬ (countingSpi bad n send recv).1 < 0) :
    (countingSpi bad n send recv).2 =
      (List.range send.length).map fun k => 0x100 + UInt16.ofNat (n + k) := by
  unfold countingSpi at accepted ⊢
  split at accepted
  · exact absurd (by decide : (-1 : Int32) < 0) accepted
  · next other => rw [if_neg other]

theorem exchanges_countingSpi (bad : ℕ) (send recv : List UInt16) :
    Exchanges (countingSpi bad) send recv fun k => 0x100 + UInt16.ofNat k where
  fits n word slot := by
    unfold countingSpi
    split <;> rfl
  word i word slot _ _ accepted := countingSpi_of_nonneg accepted
  whole accepted := by simpa using countingSpi_of_nonneg accepted

/-- Three words, none of which fails. -/
theorem pinReleased_threeWords : PinReleased (countingSpi 3) [1, 2, 3] [0, 0, 0] := by
  refine (pinReleased_iff (by decide) (exchanges_countingSpi 3 [1, 2, 3] [0, 0, 0])).mpr ?_
  rintro i ⟨word, slot, hword, -, failed⟩
  have inside : i < 3 := (List.getElem?_eq_some_iff.mp hword).1
  have other : ¬ (i ≤ 3 ∧ 3 ≤ i) := by omega
  simp [countingSpi, other] at failed

/-- The second of three words fails: the pin stays active. -/
theorem not_pinReleased_threeWords : ¬ PinReleased (countingSpi 1) [1, 2, 3] [0, 0, 0] := by
  intro pin
  have active : (transfer true (countingSpi 1) [1, 2, 3] [0, 0, 0]).released = false := by decide
  rw [pin.released] at active
  cases active

end TestSystem.SpiTest
