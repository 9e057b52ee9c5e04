import AudioStudio.Core.CrcPolynomial
import AudioStudio.Rpc.Corruption
import AudioStudio.Config.PrivatePayload

/-!
# One checksum

The firmware, the transport, the RPC frames and the configuration compiler each have a CRC-32 of
their own.  All of them are the remainder of one polynomial division.
-/

namespace AudioStudio.Config

open LittleEndian (Bytes)
open Wire (acCrc32 crc32 crcPolynomial bitsOf)
open Rpc (rpcCrc32)
open Polynomial

/-- The generator of CRC-32. -/
noncomputable def crc32Generator : (ZMod 2)[X] :=
  X ^ 32 + X ^ 26 + X ^ 23 + X ^ 22 + X ^ 16 + X ^ 12 + X ^ 11 + X ^ 10 + X ^ 8 + X ^ 7 + X ^ 5 +
    X ^ 4 + X ^ 2 + X + 1

/-- All coefficients of a register. -/
noncomputable def crc32Ones : (ZMod 2)[X] := ∑ k ∈ Finset.range 32, X ^ k

/-- The message is moved up by the width of the register, its first coefficients are complemented,
it is divided by the generator, and the remainder is complemented.  The bits of a byte come lowest
first. -/
noncomputable def crc32Remainder (data : Bytes) : (ZMod 2)[X] :=
  (crc32Ones * X ^ (8 * data.length) + Crc.message (bitsOf data) * X ^ 32) %ₘ crc32Generator +
    crc32Ones

/-- The word `0xEDB88320` of the sources is the generator, reflected. -/
theorem generator_crcPolynomial : Crc.generator crcPolynomial.toBitVec = crc32Generator := by
  have hbits : ∀ k < 32, Crc.ofBool (crcPolynomial.toBitVec.getLsbD (32 - 1 - k)) =
      if k ∈ [26, 23, 22, 16, 12, 11, 10, 8, 7, 5, 4, 2, 1, 0] then 1 else 0 := by
    decide
  have hpoly : Crc.polynomial crcPolynomial.toBitVec = ∑ k ∈ Finset.range 32,
      if k ∈ [26, 23, 22, 16, 12, 11, 10, 8, 7, 5, 4, 2, 1, 0] then (X ^ k : (ZMod 2)[X])
      else 0 := by
    refine Finset.sum_congr rfl fun k hk => ?_
    rw [hbits k (Finset.mem_range.mp hk)]
    split_ifs
    · exact monomial_one_right_eq_X_pow k
    · exact monomial_zero_right k
  rw [Crc.generator, hpoly, crc32Generator]
  simp only [Finset.sum_range_succ, Finset.sum_range_zero]
  norm_num
  ring

theorem polynomial_allOnes : Crc.polynomial (BitVec.allOnes 32) = crc32Ones := by
  refine Finset.sum_congr rfl fun k hk => ?_
  have hk := Finset.mem_range.mp hk
  rw [BitVec.getLsbD_allOnes, decide_eq_true (by omega)]
  exact monomial_one_right_eq_X_pow k

theorem polynomial_acCrc32 (data : Bytes) :
    Crc.polynomial (acCrc32 data).toBitVec = crc32Remainder data := by
  have hones : (0xffffffff : UInt32).toBitVec = BitVec.allOnes 32 := by decide
  rw [acCrc32, UInt32.toBitVec_not, ← BitVec.xor_allOnes, Crc.polynomial_xor,
    Wire.foldl_acCrc32Byte_toBitVec, Crc.polynomial_feed (by decide), hones, polynomial_allOnes,
    generator_crcPolynomial, Wire.bitsOf_length, crc32Remainder]

/-- All implementations return one word: the one whose coefficients are the remainder. -/
theorem crc32_implementations (data : Bytes) :
    crc32 data = acCrc32 data ∧ rpcCrc32 data = acCrc32 data ∧ payloadCrc data = acCrc32 data ∧
      ∀ crc : UInt32, crc = acCrc32 data ↔ Crc.polynomial crc.toBitVec = crc32Remainder data := by
  refine ⟨Wire.crc32_eq_acCrc32 data, Rpc.rpcCrc32_eq_acCrc32 data, payloadCrc_eq data,
    fun crc => ?_⟩
  rw [← polynomial_acCrc32]
  constructor
  · rintro rfl
    rfl
  · exact fun heq => UInt32.toBitVec_inj.mp (Crc.polynomial_injective heq)

end AudioStudio.Config
