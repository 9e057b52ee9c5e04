import AudioStudio.Core.LittleEndian

/-!
# CRC-32 of the two wire layers

The firmware tests the low bit and branches; the host multiplies the polynomial
by a mask.  Both loops run eight times for each byte of the input.
-/

namespace AudioStudio.Wire

open LittleEndian

def crcPolynomial : UInt32 := 0xedb88320

/-- One round of the firmware's bit loop in `ac_crc32`. -/
def acCrc32Bit (crc : UInt32) : UInt32 :=
  if crc &&& 1 ≠ 0 then (crc >>> 1) ^^^ crcPolynomial else crc >>> 1

def acCrc32Byte (crc : UInt32) (byte : UInt8) : UInt32 :=
  acCrc32Bit^[8] (crc ^^^ byte.toUInt32)

/-- `ac_crc32` of `ac_datalink.c` and of `ac_transport.c`. -/
def acCrc32 (data : Bytes) : UInt32 :=
  ~~~ data.foldl acCrc32Byte 0xffffffff

/-- One round of the host's bit loop in `crc32`. -/
def crc32Bit (crc : UInt32) : UInt32 :=
  let mask := 0 - (crc &&& 1)
  (crc >>> 1) ^^^ (crcPolynomial &&& mask)

def crc32Byte (crc : UInt32) (byte : UInt8) : UInt32 :=
  crc32Bit^[8] (crc ^^^ byte.toUInt32)

/-- `crc32` of `transport_checksum.hpp`. -/
def crc32 (data : Bytes) : UInt32 :=
  data.foldl crc32Byte 0xffffffff ^^^ 0xffffffff

/-! ## The two loops agree -/

theorem low_bit_cases (crc : UInt32) : crc &&& 1 = 0 ∨ crc &&& 1 = 1 := by
  have hmod : (crc &&& (1 : UInt32)).toNat = crc.toNat % 2 := by
    rw [UInt32.toNat_and]
    exact Nat.and_one_is_mod _
  rcases Nat.mod_two_eq_zero_or_one crc.toNat with hzero | hone
  · exact Or.inl (UInt32.toNat_inj.mp (hmod.trans hzero))
  · exact Or.inr (UInt32.toNat_inj.mp (hmod.trans hone))

theorem crc32Bit_eq_acCrc32Bit (crc : UInt32) : crc32Bit crc = acCrc32Bit crc := by
  unfold crc32Bit acCrc32Bit
  rcases low_bit_cases crc with hzero | hone
  · rw [hzero, if_neg (by decide)]
    change (crc >>> 1) ^^^ (crcPolynomial &&& (0 : UInt32)) = crc >>> 1
    simp
  · rw [hone, if_pos (by decide)]
    rfl

theorem crc32Byte_eq_acCrc32Byte : crc32Byte = acCrc32Byte := by
  funext crc byte
  unfold crc32Byte acCrc32Byte
  rw [funext crc32Bit_eq_acCrc32Bit]

/-- The branching and the masked CRC-32 are one function. -/
theorem crc32_eq_acCrc32 (data : Bytes) : crc32 data = acCrc32 data := by
  unfold crc32 acCrc32
  rw [crc32Byte_eq_acCrc32Byte]
  generalize data.foldl acCrc32Byte 0xffffffff = crc
  apply UInt32.toBitVec_inj.mp
  simp only [UInt32.toBitVec_xor, UInt32.toBitVec_not]
  exact BitVec.xor_allOnes

/-- The check value of the reflected CRC-32 on the digits `123456789`. -/
example : acCrc32 [0x31, 0x32, 0x33, 0x34, 0x35, 0x36, 0x37, 0x38, 0x39] = 0xcbf43926 := by
  decide +kernel

attribute [irreducible] acCrc32 crc32

end AudioStudio.Wire
