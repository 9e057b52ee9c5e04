import Mathlib.Logic.Function.Iterate
import Mathlib.Data.List.Basic

/-!
# Reflected cyclic redundancy checks

A register takes in one bit after another at its low end.  A shift is linear over
exclusive or and, for a polynomial whose high bit is set, loses nothing; so inputs
that differ only within one register's width leave different registers.
-/

namespace AudioStudio.Crc

variable {w : Nat} (poly : BitVec w)

/-- One shift of the register. -/
def step (register : BitVec w) : BitVec w :=
  if register.getLsbD 0 then (register >>> 1) ^^^ poly else register >>> 1

/-- A bit as the lowest bit of a register. -/
def ofBit (bit : Bool) : BitVec w :=
  (BitVec.ofBool bit).setWidth w

def feed (register : BitVec w) (bits : List Bool) : BitVec w :=
  bits.foldl (fun register bit => step poly (register ^^^ ofBit bit)) register

/-- The word of some bits, the first bit lowest. -/
def word : List Bool → BitVec w
  | [] => 0#w
  | bit :: bits => ofBit bit ^^^ (word bits <<< 1)

/-! ## One shift -/

section Step

variable {poly}

theorem xor_cancel (a b : BitVec w) : a ^^^ poly ^^^ (b ^^^ poly) = a ^^^ b := by
  rw [BitVec.xor_comm b poly, BitVec.xor_assoc, ← BitVec.xor_assoc poly poly b,
    BitVec.xor_self, BitVec.zero_xor]

theorem step_xor (a b : BitVec w) : step poly (a ^^^ b) = step poly a ^^^ step poly b := by
  unfold step
  rw [BitVec.getLsbD_xor, BitVec.ushiftRight_xor_distrib]
  cases a.getLsbD 0 with
  | false =>
      cases b.getLsbD 0 with
      | false => rfl
      | true => exact BitVec.xor_assoc _ _ _
  | true =>
      cases b.getLsbD 0 with
      | false =>
          show a >>> 1 ^^^ b >>> 1 ^^^ poly = a >>> 1 ^^^ poly ^^^ b >>> 1
          rw [BitVec.xor_assoc, BitVec.xor_assoc, BitVec.xor_comm (b >>> 1)]
      | true => exact (xor_cancel _ _).symm

/-- Only the empty register shifts to the empty register. -/
theorem step_eq_zero (hpoly : poly.msb = true) {register : BitVec w}
    (hzero : step poly register = 0#w) : register = 0#w := by
  unfold step at hzero
  cases hlow : register.getLsbD 0 with
  | false =>
      rw [hlow, if_neg Bool.false_ne_true] at hzero
      apply BitVec.eq_of_getLsbD_eq
      intro position hposition
      cases position with
      | zero => simpa using hlow
      | succ position =>
          have hbit := congrArg (·.getLsbD position) hzero
          simpa [BitVec.getLsbD_ushiftRight, Nat.add_comm] using hbit
  | true =>
      -- The high bit that the shift clears is set again by the polynomial.
      rw [hlow, if_pos rfl, BitVec.xor_eq_zero_iff] at hzero
      have hmsb : (register >>> 1).msb = true := hzero ▸ hpoly
      rw [BitVec.msb_eq_getLsbD_last, BitVec.getLsbD_ushiftRight,
        BitVec.getLsbD_of_ge register _ (by omega)] at hmsb
      cases hmsb

theorem step_injective (hpoly : poly.msb = true) : Function.Injective (step poly) := by
  intro a b heq
  have hzero : step poly (a ^^^ b) = 0#w := by rw [step_xor, heq, BitVec.xor_self]
  exact BitVec.xor_eq_zero_iff.mp (step_eq_zero hpoly hzero)

/-- A shift undoes a shift that lost no bit. -/
theorem step_shiftLeft {register : BitVec w} (hhigh : register.getLsbD (w - 1) = false) :
    step poly (register <<< 1) = register := by
  have hlow : (register <<< 1).getLsbD 0 = false := by simp
  rw [step, hlow, if_neg Bool.false_ne_true]
  apply BitVec.eq_of_getLsbD_eq
  intro position hposition
  rw [BitVec.getLsbD_ushiftRight, BitVec.getLsbD_shiftLeft]
  by_cases hlast : position = w - 1
  · rw [hlast, hhigh]
    simp
    omega
  · have hinside : 1 + position < w := by omega
    simp [hinside]

end Step

/-! ## Words of bits -/

theorem ofBit_getLsbD (hw : 0 < w) (bit : Bool) (position : Nat) :
    (ofBit bit : BitVec w).getLsbD position = (decide (position = 0) && bit) := by
  unfold ofBit
  rw [BitVec.getLsbD_setWidth, BitVec.getLsbD_ofBool]
  by_cases hposition : position = 0
  · subst hposition
    simp [hw]
  · simp [hposition]

theorem word_getLsbD (bits : List Bool) {position : Nat} (hposition : position < w) :
    (word bits : BitVec w).getLsbD position = bits.getD position false := by
  induction bits generalizing position with
  | nil => simp [word]
  | cons bit bits ih =>
      rw [word, BitVec.getLsbD_xor, ofBit_getLsbD (by omega), BitVec.getLsbD_shiftLeft]
      cases position with
      | zero => simp
      | succ position =>
          rw [Nat.add_sub_cancel, ih (by omega)]
          simp [hposition]

theorem word_injective {bits bits' : List Bool} (hlength : bits.length = bits'.length)
    (hw : bits.length ≤ w) (heq : (word bits : BitVec w) = word bits') : bits = bits' := by
  apply List.ext_getElem hlength
  intro position hposition hposition'
  have hbit := congrArg (·.getLsbD position) heq
  rw [word_getLsbD bits (by omega), word_getLsbD bits' (by omega)] at hbit
  simpa [hposition, hposition'] using hbit

/-! ## Feeding -/

section Feed

variable {poly}

@[simp] theorem feed_nil (register : BitVec w) : feed poly register [] = register := rfl

@[simp] theorem feed_cons (register : BitVec w) (bit : Bool) (bits : List Bool) :
    feed poly register (bit :: bits) = feed poly (step poly (register ^^^ ofBit bit)) bits := rfl

theorem feed_append (register : BitVec w) (bits bits' : List Bool) :
    feed poly register (bits ++ bits') = feed poly (feed poly register bits) bits' :=
  List.foldl_append

/-- Bits that fit the register can be added at once and shifted afterwards. -/
theorem feed_eq_iterate (register : BitVec w) {bits : List Bool} (hw : bits.length ≤ w) :
    feed poly register bits = (step poly)^[bits.length] (register ^^^ word bits) := by
  induction bits generalizing register with
  | nil => simp [word]
  | cons bit bits ih =>
      rw [List.length_cons] at hw
      have hhigh : (word bits : BitVec w).getLsbD (w - 1) = false := by
        rw [word_getLsbD bits (by omega)]
        rw [List.getD_eq_getElem?_getD, List.getElem?_eq_none (by omega), Option.getD_none]
      rw [feed_cons, ih _ (by omega), List.length_cons, Function.iterate_succ_apply, word,
        ← BitVec.xor_assoc, step_xor (register ^^^ ofBit bit), step_shiftLeft hhigh]

theorem feed_injective (hpoly : poly.msb = true) (bits : List Bool) :
    Function.Injective (feed poly · bits) := by
  induction bits with
  | nil => exact fun _ _ heq => heq
  | cons bit bits ih =>
      intro register register' heq
      have hstep := step_injective hpoly (ih heq)
      have hcancel := congrArg (· ^^^ ofBit bit) hstep
      simpa [BitVec.xor_assoc] using hcancel

/-- Different bits within the register's width leave different registers, whatever
stands before and behind them. -/
theorem feed_burst_ne (hpoly : poly.msb = true) (register : BitVec w)
    {front burst burst' back : List Bool} (hlength : burst.length = burst'.length)
    (hw : burst.length ≤ w) (hne : burst ≠ burst') :
    feed poly register (front ++ burst ++ back) ≠ feed poly register (front ++ burst' ++ back) := by
  intro heq
  rw [feed_append, feed_append, feed_append, feed_append] at heq
  have hburst := feed_injective hpoly back heq
  generalize feed poly register front = held at hburst
  rw [feed_eq_iterate _ hw, feed_eq_iterate _ (hlength ▸ hw), ← hlength] at hburst
  have hword := (step_injective hpoly).iterate _ hburst
  have hcancel : (word burst : BitVec w) = word burst' := by
    have hxor := congrArg (held ^^^ ·) hword
    simpa [← BitVec.xor_assoc] using hxor
  exact hne (word_injective hlength hw hcancel)

end Feed

end AudioStudio.Crc
