import TestSystem.Crc.Register

/-!
# The checksum of SD commands

`crc7` of `src/s32k/spitest.c` keeps the register of seven bits in the upper bits
of a byte and takes in eight bits of the message with three shifts. It is the
cyclic redundancy check with the generator x^7 + x^3 + 1, taken one bit at a time
over the low bytes of the words.
-/

namespace TestSystem.SpiTest

open TestSystem.Crc

/-- `f = e ^ (e >> 4) ^ (e >> 7)` and `crc = (f << 1) ^ (f << 4)`, in bytes. -/
def crcByte (e : UInt8) : UInt8 :=
  let f := e ^^^ (e >>> 4) ^^^ (e >>> 7)
  (f <<< 1) ^^^ (f <<< 4)

/-- One turn of the loop: only the low byte of the word is used. -/
def crcStep (crc : UInt8) (word : UInt16) : UInt8 := crcByte (crc ^^^ word.toUInt8)

/-- The checksum over the first `len` words. -/
def crc7 (data : List UInt16) (len : ℕ) : UInt8 := ((data.take len).foldl crcStep 0) >>> 1

/-- x^7 + x^3 + 1 without the leading term. -/
def sdGenerator : BitVec 7 := 0b0001001

/-- The low bytes of the words, bit by bit. -/
def lowBits (data : List UInt16) : List Bool :=
  data.flatMap fun word => msbFirst word.toUInt8.toBitVec

/-- The register as `crc7` keeps it. -/
def aligned (register : BitVec 7) : BitVec 8 := register.setWidth 8 <<< 1

variable {crc : UInt8} {register : BitVec 7}

/-- The three shifts are eight steps of the empty register. -/
theorem crcByte_toBitVec (e : UInt8) :
    (crcByte e).toBitVec = aligned (run sdGenerator 0 (msbFirst e.toBitVec)) := by
  have table : ∀ byte : BitVec 8, (crcByte (UInt8.ofBitVec byte)).toBitVec =
      aligned (run sdGenerator 0 (msbFirst byte)) := by decide +kernel
  exact table e.toBitVec

theorem getMsbD_aligned (register : BitVec 7) (i : ℕ) :
    (aligned register).getMsbD i = register.getMsbD i := by
  rw [aligned, BitVec.getMsbD_shiftLeft, BitVec.getMsbD_setWidth]
  simp

/-- The bits in the register and those of the byte may be added first. -/
theorem run_msbFirst (register : BitVec 7) (byte : BitVec 8) :
    run sdGenerator register (msbFirst byte) =
      run sdGenerator 0 (msbFirst (aligned register ^^^ byte)) := by
  unfold msbFirst
  rw [run_eq_run_zero (by decide)]
  congr 1
  apply List.map_congr_left
  intro i _
  rw [BitVec.getMsbD_xor, getMsbD_aligned]

theorem crcStep_toBitVec (hcrc : crc.toBitVec = aligned register) (word : UInt16) :
    (crcStep crc word).toBitVec =
      aligned (run sdGenerator register (msbFirst word.toUInt8.toBitVec)) := by
  rw [crcStep, crcByte_toBitVec, UInt8.toBitVec_xor, hcrc, ← run_msbFirst]

theorem foldl_crcStep (hcrc : crc.toBitVec = aligned register) (data : List UInt16) :
    (data.foldl crcStep crc).toBitVec = aligned (run sdGenerator register (lowBits data)) := by
  induction data generalizing crc register with
  | nil => exact hcrc
  | cons word data ih =>
    have bits : lowBits (word :: data) = msbFirst word.toUInt8.toBitVec ++ lowBits data := rfl
    rw [List.foldl_cons, bits, run_append]
    exact ih (crcStep_toBitVec hcrc word)

theorem toNat_shiftRight_aligned (hcrc : crc.toBitVec = aligned register) :
    (crc >>> 1).toNat = register.toNat := by
  have small := register.isLt
  -- The lowest bit of the byte is empty.
  have hnat : crc.toNat = register.toNat * 2 := by
    have := congrArg BitVec.toNat hcrc
    rw [aligned, BitVec.toNat_shiftLeft, BitVec.toNat_setWidth, Nat.shiftLeft_eq] at this
    rw [← UInt8.toNat_toBitVec, this]
    omega
  rw [UInt8.toNat_shiftRight, hnat, Nat.shiftRight_eq_div_pow]
  simp

/-- What is left of the words is the list of their low bytes. -/
theorem lowBits_eq_of_map_eq {data data' : List UInt16}
    (same : data'.map UInt16.toUInt8 = data.map UInt16.toUInt8) : lowBits data' = lowBits data := by
  have bytes (data : List UInt16) :
      lowBits data = (data.map UInt16.toUInt8).flatMap fun byte => msbFirst byte.toBitVec := by
    rw [lowBits, List.flatMap_map]
  rw [bytes, bytes, same]

theorem toNat_crc7 (data : List UInt16) :
    (crc7 data data.length).toNat = (run sdGenerator 0 (lowBits data)).toNat := by
  rw [crc7, List.take_length]
  have start : (0 : UInt8).toBitVec = aligned 0 := by decide
  exact toNat_shiftRight_aligned (foldl_crcStep start data)

/-- **`crc7` is the bitwise check.** For every list of words it is the remainder that
the register holds after the low bytes, it is below 128, and the upper bytes do not
matter. -/
theorem crc7_bitwise (data : List UInt16) :
    (crc7 data data.length).toNat = (run sdGenerator 0 (lowBits data)).toNat ∧
      (crc7 data data.length).toNat < 128 ∧
      ∀ data' : List UInt16, data'.map UInt16.toUInt8 = data.map UInt16.toUInt8 →
        crc7 data' data'.length = crc7 data data.length := by
  refine ⟨toNat_crc7 data, ?_, ?_⟩
  · rw [toNat_crc7]
    exact BitVec.isLt _
  · intro data' same
    apply UInt8.toNat_inj.mp
    rw [toNat_crc7, toNat_crc7, lowBits_eq_of_map_eq same]

end TestSystem.SpiTest
