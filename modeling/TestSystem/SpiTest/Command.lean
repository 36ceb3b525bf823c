import TestSystem.SpiTest.Checksum

/-!
# The commands sent to an SD card

`sendCommand` of `src/s32k/spitest.c` fills an array with idle words, places the
six bytes of a command in it and transfers it, in one piece or word by word. It
then looks for a response. The index of the command is always that of `CMD(0)`,
whatever `cmd` is: the bytes are a valid command, but decode to `cmd` only if this
is 0.
-/

namespace TestSystem.SpiTest

open TestSystem.Crc

/-- `SD_COMMAND_OFFSET`, the idle bytes before a frame. -/
abbrev sdCommandOffset : ℕ := 1

/-- Idle bytes, index, argument, checksum, the wait for the response, the response,
and idle bytes. -/
abbrev sdCommandLen : ℕ := sdCommandOffset + 1 + 4 + 1 + 8 + 1 + 8

/-- `CMD(n)` of `sd.h`. -/
def cmdOf (n : UInt16) : UInt16 := n

/-- An argument that `& 0xFF` has reduced to a byte, as a word. -/
def lowByte (x : Int32) : UInt16 := (x &&& 0xFF).toUInt32.toUInt16

/-- The array `send`. The source does not use `cmd`. -/
def commandWords (_cmd : Int8) (arg : Int32) : List UInt16 :=
  let send := List.replicate sdCommandLen 0xFFFF
  let send := send.set (sdCommandOffset + 0) (64 ||| cmdOf 0)
  let send := send.set (sdCommandOffset + 1) (lowByte (arg >>> 24))
  let send := send.set (sdCommandOffset + 2) (lowByte (arg >>> 16))
  let send := send.set (sdCommandOffset + 3) (lowByte (arg >>> 8))
  let send := send.set (sdCommandOffset + 4) (lowByte arg)
  send.set (sdCommandOffset + 5) ((crc7 (send.drop sdCommandOffset) 5).toUInt16 <<< 1 ||| 1)

/-! ## The transfer -/

/-- `spiSlave_transfer`, given how often it was called before: what it returns and
leaves in the receive buffer. -/
abbrev Spi := ℕ → List UInt16 → List UInt16 → Int32 × List UInt16

/-- What a transfer returns, leaves in the receive buffer, and has passed to the
driver; whether the select pin is set again. -/
structure Transferred where
  ret : Int32
  recv : List UInt16
  sent : List (List UInt16)
  released : Bool
  deriving DecidableEq, Repr

/-- The loop of `CONFIG_SPI_TEST_SINGEL_BYTE`, with the value of `ret` so far. -/
def transferEach (spi : Spi) : ℕ → Int32 → List UInt16 → List UInt16 → Transferred
  | i, _, word :: send, slot :: recv =>
    let answer := spi i [word] [slot]
    if answer.1 < 0 then
      { ret := answer.1, recv := answer.2 ++ recv, sent := [[word]], released := false }
    else
      let rest := transferEach spi (i + 1) answer.1 send recv
      { rest with recv := answer.2 ++ rest.recv, sent := [word] :: rest.sent }
  | _, ret, _, recv => { ret := ret, recv := recv, sent := [], released := true }

/-- `transfer`, with and without `CONFIG_SPI_TEST_SINGEL_BYTE`. -/
def transfer (singleByte : Bool) (spi : Spi) (send recv : List UInt16) : Transferred :=
  if singleByte then
    transferEach spi 0 0 send recv
  else
    let answer := spi 0 send recv
    { ret := answer.1, recv := answer.2, sent := [send], released := true }

/-- A line that `sendCommand` prints. -/
inductive Line
  /-- `"Recvice Data: %d: 0x%x\n"`. -/
  | received (i : ℕ) (word : UInt16)
  /-- `"Card din't responsed :(\n"`. -/
  | noResponse
  /-- `"\n"`. -/
  | newline
  deriving DecidableEq, Repr

/-- The return value is missing when an assertion has failed. -/
structure Commanded where
  transferred : Transferred
  printed : List Line
  ret : Option Int32
  deriving DecidableEq, Repr

/-- The words in which the response may be, with their indices. -/
def responses (recv : List UInt16) : List Line :=
  (((List.range sdCommandLen).zip recv).drop (sdCommandOffset + 5)).filterMap fun slot =>
    if slot.2 ≠ 0xFF then some (.received slot.1 slot.2) else none

/-- The frame is sent and every word that is not idle printed. -/
def sendCommand (singleByte : Bool) (spi : Spi) (cmd : Int8) (arg : Int32) : Commanded :=
  let result := transfer singleByte spi (commandWords cmd arg) (List.replicate sdCommandLen 0xAEAE)
  if result.ret < 0 then
    { transferred := result, printed := [], ret := none }
  else if responses result.recv = [] then
    { transferred := result, printed := [.noResponse], ret := none }
  else
    { transferred := result, printed := responses result.recv ++ [.newline], ret := some 0 }

/-! ## What a card reads -/

/-- The six bytes of the command. -/
def tokenOf (words : List UInt16) : List UInt16 := (words.drop sdCommandOffset).take 6

/-- The checksum of the first five bytes, and the end bit. -/
def checkOf (token : List UInt16) : ℕ := (run sdGenerator 0 (lowBits (token.take 5))).toNat * 2 + 1

/-- The four bytes after the index, the most significant first. -/
def argumentOf : List UInt16 → ℕ
  | _ :: a :: b :: c :: d :: _ => ((a.toNat * 256 + b.toNat) * 256 + c.toNat) * 256 + d.toNat
  | _ => 0

/-- Start bit 0, transmission bit 1, the index, the argument, and the checksum. -/
def decode (words : List UInt16) : Option (Int8 × Int32) :=
  let token := tokenOf words
  let index := (token.headD 0).toNat
  if index / 64 = 1 ∧ token.getLastD 0 = UInt16.ofNat (checkOf token) then
    some (Int8.ofNat (index % 64), (UInt32.ofNat (argumentOf token)).toInt32)
  else
    none

/-- The words are a valid command with this index and argument. -/
structure ValidFrame (cmd : Int8) (arg : Int32) (words : List UInt16) : Prop where
  bytes : ∀ word ∈ tokenOf words, word ≤ 0xFF
  start : ((tokenOf words).headD 0).toNat / 128 = 0
  transmission : ((tokenOf words).headD 0).toNat / 64 % 2 = 1
  index : (((tokenOf words).headD 0).toNat % 64 : ℤ) = cmd.toInt
  argument : argumentOf (tokenOf words) = arg.toUInt32.toNat
  check : ((tokenOf words).getLastD 0).toNat = checkOf (tokenOf words)
  decodes : decode words = some (cmd, arg)
  idle : ∀ word ∈ words.take sdCommandOffset ++ words.drop (sdCommandOffset + 6),
    word.toUInt8 = 0xFF

variable {arg arg' : Int32} {cmd cmd' : Int8}

/-! ## The bytes of the argument -/

theorem toNat_lowByte (x : Int32) : (lowByte x).toNat = x.toUInt32.toNat % 256 := by
  have masked : (x &&& 0xFF).toUInt32 = x.toUInt32 &&& 0xFF := rfl
  have mask : x.toUInt32.toNat &&& (0xFF : UInt32).toNat = x.toUInt32.toNat % 2 ^ 8 :=
    Nat.and_two_pow_sub_one_eq_mod _ 8
  rw [lowByte, masked, UInt32.toNat_toUInt16, UInt32.toNat_and, mask]
  omega

/-- The sign that is shifted in stays above the byte. -/
theorem setWidth_sshiftRight (x : BitVec 32) {k : ℕ} (small : k ≤ 24) :
    (x.sshiftRight k).setWidth 8 = (x >>> k).setWidth 8 := by
  ext i hi
  have inside : k + i < 32 := by omega
  have notSign : ¬ 32 ≤ i := by omega
  simp [BitVec.getLsbD_sshiftRight, inside, notSign]

theorem toNat_sshiftRight_mod (x : BitVec 32) {k : ℕ} (small : k ≤ 24) :
    (x.sshiftRight k).toNat % 256 = x.toNat / 2 ^ k % 256 := by
  have same := congrArg BitVec.toNat (setWidth_sshiftRight x small)
  rwa [BitVec.toNat_setWidth, BitVec.toNat_setWidth, BitVec.toNat_ushiftRight,
    Nat.shiftRight_eq_div_pow] at same

/-- The four bytes are the argument. -/
theorem argument_of_bytes (arg : Int32) :
    (((lowByte (arg >>> 24)).toNat * 256 + (lowByte (arg >>> 16)).toNat) * 256 +
      (lowByte (arg >>> 8)).toNat) * 256 + (lowByte arg).toNat = arg.toUInt32.toNat := by
  have byte3 : (arg >>> 24).toUInt32.toNat % 256 = arg.toUInt32.toNat / 2 ^ 24 % 256 :=
    toNat_sshiftRight_mod arg.toBitVec (by decide)
  have byte2 : (arg >>> 16).toUInt32.toNat % 256 = arg.toUInt32.toNat / 2 ^ 16 % 256 :=
    toNat_sshiftRight_mod arg.toBitVec (by decide)
  have byte1 : (arg >>> 8).toUInt32.toNat % 256 = arg.toUInt32.toNat / 2 ^ 8 % 256 :=
    toNat_sshiftRight_mod arg.toBitVec (by decide)
  have bound := arg.toUInt32.toNat_lt
  simp only [toNat_lowByte, byte3, byte2, byte1]
  omega

theorem lowByte_le (x : Int32) : lowByte x ≤ 0xFF := by
  have hbyte := toNat_lowByte x
  rw [UInt16.le_iff_toNat_le]
  have limit : (0xFF : UInt16).toNat = 255 := rfl
  omega

/-! ## The frame -/

/-- The first five bytes of the command. -/
def header (arg : Int32) : List UInt16 :=
  [64, lowByte (arg >>> 24), lowByte (arg >>> 16), lowByte (arg >>> 8), lowByte arg]

/-- The last byte of the command. -/
def checkWord (arg : Int32) : UInt16 := (crc7 (header arg) 5).toUInt16 <<< 1 ||| 1

theorem tokenOf_commandWords (cmd : Int8) (arg : Int32) :
    tokenOf (commandWords cmd arg) = header arg ++ [checkWord arg] := rfl

theorem headD_tokenOf_commandWords (cmd : Int8) (arg : Int32) :
    ((tokenOf (commandWords cmd arg)).headD 0).toNat = 64 := rfl

theorem toNat_checkWord (arg : Int32) :
    (checkWord arg).toNat = (run sdGenerator 0 (lowBits (header arg))).toNat * 2 + 1 := by
  -- The checksum has seven bits, so the shift drops none.
  have table : ∀ n : Fin 128, ((UInt8.ofNat n).toUInt16 <<< 1 ||| 1).toNat = n * 2 + 1 := by
    decide +kernel
  have register := toNat_crc7 (header arg)
  have hcrc : crc7 (header arg) 5 =
      UInt8.ofNat (run sdGenerator 0 (lowBits (header arg))).toNat := by
    rw [← register, UInt8.ofNat_toNat]
    rfl
  rw [checkWord, hcrc]
  exact table (run sdGenerator 0 (lowBits (header arg))).toFin

theorem checkOf_commandWords (cmd : Int8) (arg : Int32) :
    checkOf (tokenOf (commandWords cmd arg)) = (checkWord arg).toNat := by
  rw [toNat_checkWord, tokenOf_commandWords]
  rfl

theorem argumentOf_commandWords (cmd : Int8) (arg : Int32) :
    argumentOf (tokenOf (commandWords cmd arg)) = arg.toUInt32.toNat := by
  rw [← argument_of_bytes, tokenOf_commandWords]
  rfl

/-- Whatever is asked for, the card reads `CMD(0)` and the argument. -/
theorem decode_commandWords (cmd : Int8) (arg : Int32) :
    decode (commandWords cmd arg) = some (0, arg) := by
  have first := headD_tokenOf_commandWords cmd arg
  have last : (tokenOf (commandWords cmd arg)).getLastD 0 = checkWord arg := rfl
  have check : checkWord arg = UInt16.ofNat (checkOf (tokenOf (commandWords cmd arg))) := by
    rw [checkOf_commandWords, UInt16.ofNat_toNat]
  simp only [decode]
  rw [if_pos ⟨by rw [first], last.trans check⟩, first, argumentOf_commandWords, UInt32.ofNat_toNat]
  rfl

theorem commandWords_inj : commandWords cmd arg = commandWords cmd' arg' ↔ arg = arg' := by
  constructor
  · intro same
    have decoded := decode_commandWords cmd arg
    rw [same, decode_commandWords] at decoded
    exact (Prod.mk.inj (Option.some.inj decoded)).2.symm
  · rintro rfl
    rfl

/-- With the index 0 the frame is what was asked for. -/
theorem validFrame_zero (arg : Int32) : ValidFrame 0 arg (commandWords 0 arg) where
  bytes word member := by
    rw [tokenOf_commandWords, List.mem_append, List.mem_singleton] at member
    -- The first five are bytes as they were masked, the last by the width of the register.
    rcases member with inside | rfl
    · simp only [header, List.mem_cons, List.not_mem_nil, or_false] at inside
      rcases inside with rfl | rfl | rfl | rfl | rfl
      · decide
      all_goals exact lowByte_le _
    · rw [UInt16.le_iff_toNat_le, toNat_checkWord]
      have small := (run sdGenerator 0 (lowBits (header arg))).isLt
      have limit : (0xFF : UInt16).toNat = 255 := rfl
      omega
  start := by rw [headD_tokenOf_commandWords]
  transmission := by rw [headD_tokenOf_commandWords]
  index := by
    rw [headD_tokenOf_commandWords]
    rfl
  argument := argumentOf_commandWords 0 arg
  check := (checkOf_commandWords 0 arg).symm
  decodes := decode_commandWords 0 arg
  idle word member := by
    have idle : word ∈ [0xFFFF] ++ List.replicate 17 (0xFFFF : UInt16) := member
    simp only [List.singleton_append, List.mem_cons, List.mem_replicate] at idle
    rcases idle with rfl | ⟨-, rfl⟩ <;> rfl

/-- **When a frame decodes to what was asked.** For every command and argument the
frame is valid exactly if the command is 0, and two different calls send different
frames unless they differ in the command only. -/
theorem validFrame_iff (cmd cmd' : Int8) (arg arg' : Int32) :
    (ValidFrame cmd arg (commandWords cmd arg) ↔ cmd = 0) ∧
      (((cmd, arg) ≠ (cmd', arg') → commandWords cmd arg ≠ commandWords cmd' arg') ↔
        cmd = cmd' ∨ arg ≠ arg') := by
  refine ⟨⟨fun valid => ?_, ?_⟩, ?_⟩
  · have decoded := valid.decodes
    rw [decode_commandWords] at decoded
    exact (Prod.mk.inj (Option.some.inj decoded)).1.symm
  · rintro rfl
    exact validFrame_zero arg
  · rw [ne_eq, ne_eq, commandWords_inj, Prod.mk.injEq]
    tauto

/-- `CMD(8)` with the argument 0x1AA is sent as `CMD(0)`. -/
theorem not_validFrame_cmd8 :
    ¬ ValidFrame 8 0x1AA (commandWords 8 0x1AA) ∧
      commandWords 8 0x1AA = commandWords 0 0x1AA := by
  refine ⟨fun valid => ?_, rfl⟩
  have index := valid.index
  revert index
  decide

/-! ## What is passed to the driver -/

/-- Word by word the words are passed on in order, and all of them unless the driver fails. -/
theorem sent_transferEach (spi : Spi) (i : ℕ) (ret : Int32) (send recv : List UInt16)
    (room : send.length = recv.length)
    (completed : ¬ (transferEach spi i ret send recv).ret < 0) :
    (transferEach spi i ret send recv).sent.flatten = send := by
  induction send generalizing i ret recv with
  | nil => cases recv <;> rfl
  | cons word send ih =>
    cases recv with
    | nil => simp at room
    | cons slot recv =>
      have rest : send.length = recv.length := by simpa using room
      rw [transferEach] at completed ⊢
      split at completed
      · next failed => exact absurd failed completed
      · next accepted =>
        rw [if_neg accepted]
        -- The word is passed on, and the loop goes on with the rest.
        simpa using ih (i + 1) _ recv rest completed

theorem sent_transfer (singleByte : Bool) (spi : Spi) (send recv : List UInt16)
    (room : send.length = recv.length) (completed : ¬ (transfer singleByte spi send recv).ret < 0) :
    (transfer singleByte spi send recv).sent.flatten = send := by
  cases singleByte with
  | true => exact sent_transferEach spi 0 0 send recv room completed
  | false => simp [transfer]

end TestSystem.SpiTest
