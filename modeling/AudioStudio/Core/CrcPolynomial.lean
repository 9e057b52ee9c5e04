import AudioStudio.Core.Crc
import Mathlib.Algebra.Polynomial.Div
import Mathlib.Algebra.Polynomial.Degree.Lemmas
import Mathlib.Algebra.Field.ZMod
import Mathlib.Tactic.LinearCombination

/-!
# Checks as polynomial remainders

A reflected register is a polynomial over GF(2): its lowest bit is the coefficient of the highest
power.  A shift multiplies by `X` and reduces by the generator, so that feeding a register leaves
the remainder of a polynomial division.
-/

namespace AudioStudio.Crc

open Polynomial

/-- A bit as an element of GF(2). -/
def ofBool (bit : Bool) : ZMod 2 := if bit then 1 else 0

theorem ofBool_xor (a b : Bool) : ofBool (a ^^ b) = ofBool a + ofBool b := by
  cases a
  · cases b
    · rfl
    · rfl
  · cases b
    · rfl
    · decide

variable {w : Nat} {poly register : BitVec w}

/-- The polynomial of a register, lowest bit first. -/
noncomputable def polynomial (register : BitVec w) : (ZMod 2)[X] :=
  ∑ k ∈ Finset.range w, monomial k (ofBool (register.getLsbD (w - 1 - k)))

/-- The polynomial that a register is reduced by: `poly` without its leading power. -/
noncomputable def generator (poly : BitVec w) : (ZMod 2)[X] := X ^ w + polynomial poly

/-- The polynomial of a message, first bit first. -/
noncomputable def message : List Bool → (ZMod 2)[X]
  | [] => 0
  | bit :: bits => C (ofBool bit) * X ^ bits.length + message bits

/-! ## Registers -/

theorem coeff_polynomial (register : BitVec w) (k : Nat) :
    (polynomial register).coeff k =
      if k < w then ofBool (register.getLsbD (w - 1 - k)) else 0 := by
  simp only [polynomial, finsetSum_coeff, coeff_monomial, Finset.sum_ite_eq', Finset.mem_range]

theorem polynomial_injective : Function.Injective (polynomial : BitVec w → (ZMod 2)[X]) := by
  intro a b heq
  apply BitVec.eq_of_getLsbD_eq
  intro position hposition
  have hcoeff := congrArg (coeff · (w - 1 - position)) heq
  have hinside : w - 1 - position < w := by omega
  have hback : w - 1 - (w - 1 - position) = position := by omega
  simp only [coeff_polynomial, if_pos hinside, hback] at hcoeff
  revert hcoeff
  cases a.getLsbD position
  · cases b.getLsbD position
    · exact fun _ => rfl
    · exact fun hzero => absurd hzero (by decide)
  · cases b.getLsbD position
    · exact fun hone => absurd hone (by decide)
    · exact fun _ => rfl

theorem degree_polynomial_lt (register : BitVec w) : (polynomial register).degree < w := by
  rw [degree_lt_iff_coeff_zero]
  intro k hk
  rw [coeff_polynomial, if_neg (by omega)]

theorem monic_generator (poly : BitVec w) : (generator poly).Monic :=
  monic_X_pow_add (degree_polynomial_lt poly)

theorem polynomial_xor (a b : BitVec w) : polynomial (a ^^^ b) = polynomial a + polynomial b := by
  ext k
  rw [coeff_add, coeff_polynomial, coeff_polynomial, coeff_polynomial]
  split_ifs
  · rw [BitVec.getLsbD_xor, ofBool_xor]
  · exact (add_zero 0).symm

/-- A shift multiplies by `X` without the power that leaves the register. -/
theorem polynomial_ushiftRight (hw : 0 < w) (register : BitVec w) :
    polynomial (register >>> 1) =
      X * polynomial register + C (ofBool (register.getLsbD 0)) * X ^ w := by
  ext k
  rw [coeff_add, coeff_C_mul, coeff_X_pow, coeff_polynomial, BitVec.getLsbD_ushiftRight]
  cases k with
  | zero =>
      have hleft : register.getLsbD (1 + (w - 1 - 0)) = false :=
        BitVec.getLsbD_of_ge register _ (by omega)
      rw [if_pos hw, hleft, coeff_X_mul_zero, if_neg (by omega), mul_zero, add_zero]
      rfl
  | succ k =>
      rw [coeff_X_mul, coeff_polynomial]
      by_cases hinside : k + 1 < w
      · have hplace : 1 + (w - 1 - (k + 1)) = w - 1 - k := by omega
        rw [if_pos hinside, if_pos (by omega), if_neg (by omega), hplace, mul_zero, add_zero]
      · rw [if_neg hinside]
        by_cases hlast : k + 1 = w
        · have hlow : w - 1 - k = 0 := by omega
          rw [if_pos (by omega), if_pos hlast, hlow, mul_one]
          exact (CharTwo.add_self_eq_zero _).symm
        · rw [if_neg (by omega), if_neg hlast, mul_zero, add_zero]

theorem polynomial_ofBit (hw : 0 < w) (bit : Bool) :
    polynomial (ofBit bit : BitVec w) = C (ofBool bit) * X ^ (w - 1) := by
  ext k
  rw [coeff_polynomial, coeff_C_mul, coeff_X_pow]
  by_cases hhigh : k = w - 1
  · have hlow : w - 1 - k = 0 := by omega
    rw [if_pos (by omega), if_pos hhigh, ofBit_getLsbD hw, hlow, mul_one]
    rfl
  · rw [if_neg hhigh, mul_zero]
    split_ifs with hinside
    · rw [ofBit_getLsbD hw, decide_eq_false (by omega), Bool.false_and]
      rfl
    · rfl

/-! ## Feeding -/

theorem polynomial_step (poly : BitVec w) (hw : 0 < w) (register : BitVec w) :
    X * polynomial register =
      polynomial (step poly register) + generator poly * C (ofBool (register.getLsbD 0)) := by
  have hshift := polynomial_ushiftRight hw register
  unfold step generator
  cases hlow : register.getLsbD 0 with
  | false =>
      rw [hlow] at hshift
      rw [if_neg Bool.false_ne_true, hshift]
      simp [ofBool]
  | true =>
      rw [hlow] at hshift
      rw [if_pos rfl, polynomial_xor, hshift]
      simp only [ofBool, if_true, C_1, one_mul, mul_one]
      have hpower : (X : (ZMod 2)[X]) ^ w + X ^ w = 0 := CharTwo.add_self_eq_zero _
      have hpoly : polynomial poly + polynomial poly = 0 := CharTwo.add_self_eq_zero _
      linear_combination -hpower - hpoly

/-- The induction is on the bits, over any register: each bit moves what is in front of it up by
one power. -/
theorem feed_congruent (poly : BitVec w) (hw : 0 < w) (register : BitVec w) (bits : List Bool) :
    ∃ quotient, polynomial (feed poly register bits) + generator poly * quotient =
      polynomial register * X ^ bits.length + message bits * X ^ w := by
  induction bits generalizing register with
  | nil => exact ⟨0, by simp [message]⟩
  | cons bit bits ih =>
      obtain ⟨quotient, hbits⟩ := ih (step poly (register ^^^ ofBit bit))
      have hstep := polynomial_step poly hw (register ^^^ ofBit bit)
      have hpower : (X : (ZMod 2)[X]) ^ w = X * X ^ (w - 1) := by
        rw [← pow_succ', Nat.sub_add_cancel hw]
      rw [polynomial_xor, polynomial_ofBit hw] at hstep
      refine ⟨quotient + C (ofBool ((register ^^^ ofBit bit).getLsbD 0)) * X ^ bits.length, ?_⟩
      rw [feed_cons, message, List.length_cons, pow_succ]
      rw [hpower] at hbits ⊢
      linear_combination hbits - X ^ bits.length * hstep

/-- What is left in the register is the remainder of what it held, moved up by the length of the
message, and of the message, moved up by the width. -/
theorem polynomial_feed (hw : 0 < w) (register : BitVec w) (bits : List Bool) :
    polynomial (feed poly register bits) =
      (polynomial register * X ^ bits.length + message bits * X ^ w) %ₘ generator poly := by
  obtain ⟨quotient, hcongruent⟩ := feed_congruent poly hw register bits
  have hdegree : (polynomial (feed poly register bits)).degree < (generator poly).degree := by
    rw [generator, degree_add_eq_left_of_degree_lt]
    · rw [degree_X_pow]
      exact degree_polynomial_lt _
    · rw [degree_X_pow]
      exact degree_polynomial_lt _
  exact (div_modByMonic_unique quotient _ (monic_generator poly) ⟨hcongruent, hdegree⟩).2.symm

end AudioStudio.Crc
