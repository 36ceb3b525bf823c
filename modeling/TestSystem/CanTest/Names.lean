import TestSystem.Mask.Positions

/-!
# The names of CAN errors

`print_can_error` of `src/c28x/can_test.c` prints a line for each bit that is set in
the two masks, with the name of the bit from a table. The table of the data has
its groups at the offsets that the source gives. In the table of the errors a
comma is missing, so two names are one entry and the names after it are at the
wrong bits.
-/

namespace TestSystem.CanTest

open TestSystem.Mask

/-- There is no comma after `"CAN_ERR_TRX"`. -/
def canErrNames : List String :=
  ["CAN_ERR_CTRL", "CAN_ERR_PROT", "CAN_ERR_TRX" ++ "CAN_ERR_ACK", "CAN_ERR_BUSOFF",
    "CAN_ERR_BUSERROR", "CAN_ERR_RESTARTED"]

/-- Controller, offset 0. -/
def controllerNames : List String :=
  ["CAN_ERR_CRTL_UNSPEC", "CAN_ERR_CRTL_RX_OVERFLOW", "CAN_ERR_CRTL_TX_OVERFLOW",
    "CAN_ERR_CRTL_RX_WARNING", "CAN_ERR_CRTL_TX_WARNING", "CAN_ERR_CRTL_RX_PASSIVE",
    "CAN_ERR_CRTL_TX_PASSIVE", "CAN_ERR_CRTL_ACTIVE"]

/-- Protocol, offset 8. -/
def protocolNames : List String :=
  ["CAN_ERR_PROT_UNSPEC", "CAN_ERR_PROT_BIT", "CAN_ERR_PROT_FORM", "CAN_ERR_PROT_STUFF",
    "CAN_ERR_PROT_BIT0", "CAN_ERR_PROT_BIT1", "CAN_ERR_PROT_OVERLOAD", "CAN_ERR_PROT_ACTIVE",
    "CAN_ERR_PROT_TX", "CAN_ERR_UNKNOWN", "CAN_ERR_UNKNOWN", "CAN_ERR_UNKNOWN", "CAN_ERR_UNKNOWN",
    "CAN_ERR_UNKNOWN", "CAN_ERR_UNKNOWN", "CAN_ERR_UNKNOWN"]

/-- Protocol (location), offset 24. -/
def locationNames : List String :=
  ["CAN_ERR_PROT_LOC_UNSPEC", "CAN_ERR_PROT_LOC_SOF", "CAN_ERR_PROT_LOC_ID28_21",
    "CAN_ERR_PROT_LOC_ID20_18", "CAN_ERR_PROT_LOC_SRTR", "CAN_ERR_PROT_LOC_IDE",
    "CAN_ERR_PROT_LOC_ID17_13", "CAN_ERR_PROT_LOC_ID12_05", "CAN_ERR_PROT_LOC_ID04_00",
    "CAN_ERR_PROT_LOC_RTR", "CAN_ERR_PROT_LOC_RES1", "CAN_ERR_PROT_LOC_RES0",
    "CAN_ERR_PROT_LOC_DLC", "CAN_ERR_PROT_LOC_DATA", "CAN_ERR_PROT_LOC_CRC_SEQ",
    "CAN_ERR_PROT_LOC_CRC_DEL", "CAN_ERR_PROT_LOC_ACK", "CAN_ERR_PROT_LOC_ACK_DEL",
    "CAN_ERR_PROT_LOC_EOF", "CAN_ERR_PROT_LOC_INTERM", "CAN_ERR_UNKNOWN", "CAN_ERR_UNKNOWN",
    "CAN_ERR_UNKNOWN", "CAN_ERR_UNKNOWN"]

/-- Transceiver, offset 48. -/
def transceiverNames : List String :=
  ["CAN_ERR_TRX_UNSPEC", "CAN_ERR_TRX_CANH_NO_WIRE", "CAN_ERR_TRX_CANH_SHORT_TO_BAT",
    "CAN_ERR_TRX_CANH_SHORT_TO_VCC", "CAN_ERR_TRX_CANH_SHORT_TO_GND", "CAN_ERR_TRX_CANL_NO_WIRE",
    "CAN_ERR_TRX_CANL_SHORT_TO_BAT", "CAN_ERR_TRX_CANL_SHORT_TO_VCC",
    "CAN_ERR_TRX_CANL_SHORT_TO_GND", "CAN_ERR_TRX_CANL_SHORT_TO_CANH"]

/-- `can_error_data_names`, four tables one after the other. -/
def canErrDataNames : List String :=
  controllerNames ++ protocolNames ++ locationNames ++ transceiverNames

/-- A line that `print_can_error` prints. -/
inductive Line
  /-- `"CAN error: %s\n"`. -/
  | error (name : String)
  /-- `"CAN error: unknown, bit=%d\n"`. -/
  | unknownError (bit : ℕ)
  /-- `"CAN error (data): %s\n"`. -/
  | data (name : String)
  /-- `"CAN error (data): unknown, bit=%d\n"`. -/
  | unknownData (bit : ℕ)
  deriving DecidableEq, Repr

variable {w v : ℕ}

/-- A loop over the bits of a mask, from bit `i` on, that prints `line` of each one
that is set. -/
def printBits (line : ℕ → Line) (i : ℕ) (mask : BitVec w) : List Line :=
  if mask = 0 then []
  else (if mask &&& 1 ≠ 0 then [line i] else []) ++ printBits line (i + 1) (mask >>> 1)
termination_by mask.toNat
decreasing_by exact toNat_shiftRight_one_lt ‹_›

/-- The line of a set bit of `err`. -/
def errorLine (i : ℕ) : Line :=
  if h : i < canErrNames.length then .error canErrNames[i] else .unknownError i

/-- The line of a set bit of `err_data`. -/
def dataLine (i : ℕ) : Line :=
  if h : i < canErrDataNames.length then .data canErrDataNames[i] else .unknownData i

/-- `print_can_error`: the lines of both masks. -/
def printCanError (err : BitVec w) (errData : BitVec v) : List Line :=
  printBits errorLine 0 err ++ printBits dataLine 0 errData

/-! ## What the bits stand for -/

/-- The seven flags, from bit 0 on. -/
def flagNames : List String :=
  ["CAN_ERR_CTRL", "CAN_ERR_PROT", "CAN_ERR_TRX", "CAN_ERR_ACK", "CAN_ERR_BUSOFF",
    "CAN_ERR_BUSERROR", "CAN_ERR_RESTARTED"]

/-- The groups of the data, each with the bit at which it begins. -/
def dataGroups : List (ℕ × List String) :=
  [(0, controllerNames), (8, protocolNames), (24, locationNames), (48, transceiverNames)]

/-- The line that the names of the driver's flags call for. -/
def documentedError (i : ℕ) : Line := (flagNames[i]?).elim (.unknownError i) .error

/-- The entry of the group that has one for bit `i`. -/
def documentedData (i : ℕ) : Line :=
  (dataGroups.findSome? fun group =>
    if group.1 ≤ i then group.2[i - group.1]? else none).elim (.unknownData i) .data

/-- One line for each bit that is set, in increasing order and first for the errors,
says what the bit stands for. -/
def NamedBitForBit (err : BitVec w) (errData : BitVec v) : Prop :=
  printCanError err errData =
    (positions err).map documentedError ++ (positions errData).map documentedData

/-- The loop comes to the bits that are set, in increasing order. -/
theorem printBits_eq (line : ℕ → Line) (i : ℕ) (mask : BitVec w) :
    printBits line i mask = (positions mask).map fun k => line (i + k) := by
  induction i, mask using printBits.induct with
  | case1 i => simp [printBits]
  | case2 i mask nonzero ih =>
    have later : (fun k => line (i + 1 + k)) = (fun k => line (i + k)) ∘ (· + 1) := by
      funext k
      simp [Nat.add_assoc, Nat.add_comm 1]
    rw [printBits, if_neg nonzero, ih, positions_eq_append mask, List.map_append, List.map_map,
      later]
    by_cases lowest : mask.getLsbD 0
    · rw [if_pos (and_one_ne_zero_iff.mpr lowest), if_pos lowest]
      rfl
    · rw [if_neg (and_one_ne_zero_iff.not.mpr lowest), if_neg lowest]
      rfl

theorem printCanError_eq (err : BitVec w) (errData : BitVec v) :
    printCanError err errData =
      (positions err).map errorLine ++ (positions errData).map dataLine := by
  simp only [printCanError, printBits_eq, Nat.zero_add]

/-- The groups follow one another without a gap. -/
theorem dataLine_eq (i : ℕ) : dataLine i = documentedData i := by
  by_cases listed : i < 58
  · have table : ∀ i : Fin 58, dataLine i = documentedData i := by decide
    exact table ⟨i, listed⟩
  · have beyond : ¬ i < canErrDataNames.length := listed
    have ends : ∀ group ∈ dataGroups, group.1 + group.2.length ≤ 58 := by decide
    have missing : (dataGroups.findSome? fun group =>
        if group.1 ≤ i then group.2[i - group.1]? else none) = none := by
      rw [List.findSome?_eq_none_iff]
      intro group member
      -- The group has ended before the bit.
      have unnamed : group.2[i - group.1]? = none :=
        List.getElem?_eq_none (by have := ends group member; omega)
      rw [unnamed, ite_self]
    rw [dataLine, dif_neg beyond, documentedData, missing]
    rfl

/-- The missing comma shifts the names from the third flag on. -/
theorem errorLine_eq_iff (i : ℕ) : errorLine i = documentedError i ↔ ¬ (2 ≤ i ∧ i ≤ 6) := by
  by_cases flag : i < 7
  · have table : ∀ i : Fin 7, errorLine i = documentedError i ↔ ¬ (2 ≤ (i : ℕ) ∧ (i : ℕ) ≤ 6) := by
      decide
    exact table ⟨i, flag⟩
  · have beyond : ¬ i < canErrNames.length := fun h => flag (h.trans (by decide))
    have unnamed : flagNames[i]? = none := List.getElem?_eq_none (not_lt.mp flag)
    refine iff_of_true ?_ (by omega)
    rw [errorLine, dif_neg beyond, documentedError, unnamed]
    rfl

/-- **When the errors are named bit for bit.** The lines that are printed name what the
bits stand for exactly if none of the bits 2 to 6 of the errors is set. -/
theorem namedBitForBit_iff (err : BitVec w) (errData : BitVec v) :
    NamedBitForBit err errData ↔ ∀ i, 2 ≤ i → i ≤ 6 → err.getLsbD i = false := by
  have data : dataLine = documentedData := funext dataLine_eq
  rw [NamedBitForBit, printCanError_eq, data, List.append_left_inj, List.map_inj_left]
  constructor
  · intro named i low high
    by_contra set
    have agrees := named i (mem_positions.mpr (by simpa using set))
    exact (errorLine_eq_iff i).mp agrees ⟨low, high⟩
  · intro clear i member
    rw [errorLine_eq_iff]
    rintro ⟨low, high⟩
    have set := mem_positions.mp member
    rw [clear i low high] at set
    cases set

/-- The flag `CAN_ERR_ACK` is printed as `CAN_ERR_BUSOFF`. -/
theorem not_namedBitForBit_ack :
    ¬ NamedBitForBit (8 : BitVec 32) (0 : BitVec 64) ∧
      printCanError (8 : BitVec 32) (0 : BitVec 64) = [.error "CAN_ERR_BUSOFF"] := by
  have printed : printCanError (8 : BitVec 32) (0 : BitVec 64) = [.error "CAN_ERR_BUSOFF"] := by
    rw [printCanError_eq]
    decide
  refine ⟨fun named => ?_, printed⟩
  rw [NamedBitForBit, printed] at named
  revert named
  decide

end TestSystem.CanTest
