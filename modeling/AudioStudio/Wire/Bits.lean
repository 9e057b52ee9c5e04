import AudioStudio.Core.Crc
import AudioStudio.Wire.Checksum

/-!
# What the checksum sees

Bytes are transmitted as bits, the lowest of each byte first.  The CRC-32 of the wire
layers is the bit-serial register fed with them, so it tells apart any two byte strings
of one length that differ in at most 32 consecutive bits.
-/

namespace AudioStudio.Wire

open LittleEndian

/-! ## Bits of byte strings -/

def byteBits (byte : UInt8) : List Bool :=
  (List.range 8).map byte.toBitVec.getLsbD

def bitsOf (data : Bytes) : List Bool :=
  data.flatMap byteBits

@[simp] theorem byteBits_length (byte : UInt8) : (byteBits byte).length = 8 := by
  rw [byteBits, List.length_map, List.length_range]

@[simp] theorem bitsOf_cons (byte : UInt8) (data : Bytes) :
    bitsOf (byte :: data) = byteBits byte ++ bitsOf data := List.flatMap_cons

theorem bitsOf_append (first second : Bytes) :
    bitsOf (first ++ second) = bitsOf first ++ bitsOf second := List.flatMap_append

@[simp] theorem bitsOf_length (data : Bytes) : (bitsOf data).length = 8 * data.length := by
  induction data with
  | nil => rfl
  | cons byte data ih =>
      rw [bitsOf_cons, List.length_append, ih, byteBits_length, List.length_cons]
      omega

theorem byteBits_injective : Function.Injective byteBits := by
  intro byte byte' heq
  apply UInt8.toBitVec_inj.mp
  apply BitVec.eq_of_getLsbD_eq
  intro position hposition
  have hbit := congrArg (·[position]?) heq
  simpa [byteBits, hposition] using hbit

theorem bitsOf_injective : Function.Injective bitsOf := by
  intro data data' heq
  induction data generalizing data' with
  | nil =>
      cases data' with
      | nil => rfl
      | cons byte' data' =>
          have hlength := congrArg List.length heq
          simp at hlength
          omega
  | cons byte data ih =>
      cases data' with
      | nil =>
          have hlength := congrArg List.length heq
          simp at hlength
      | cons byte' data' =>
          rw [bitsOf_cons, bitsOf_cons] at heq
          obtain ⟨hbyte, hdata⟩ := List.append_inj heq (by simp)
          rw [byteBits_injective hbyte, ih hdata]

/-- The bits of a slice are a slice of the bits. -/
theorem bitsOf_take (data : Bytes) (count : Nat) :
    bitsOf (data.take count) = (bitsOf data).take (8 * count) := by
  induction data generalizing count with
  | nil => simp [bitsOf]
  | cons byte data ih =>
      cases count with
      | zero => rfl
      | succ count =>
          rw [List.take_succ_cons, bitsOf_cons, bitsOf_cons, ih,
            show 8 * (count + 1) = (byteBits byte).length + 8 * count by
              rw [byteBits_length]; omega, List.take_length_add_append]

theorem bitsOf_drop (data : Bytes) (count : Nat) :
    bitsOf (data.drop count) = (bitsOf data).drop (8 * count) := by
  induction data generalizing count with
  | nil => simp [bitsOf]
  | cons byte data ih =>
      cases count with
      | zero => rfl
      | succ count =>
          rw [List.drop_succ_cons, bitsOf_cons, ih,
            show 8 * (count + 1) = (byteBits byte).length + 8 * count by
              rw [byteBits_length]; omega, List.drop_length_add_append]

/-! ## The register -/

theorem crcPolynomial_msb : crcPolynomial.toBitVec.msb = true := by
  decide

theorem acCrc32Bit_toBitVec (crc : UInt32) :
    (acCrc32Bit crc).toBitVec = Crc.step crcPolynomial.toBitVec crc.toBitVec := by
  have hlow : (crc &&& 1).toBitVec = (BitVec.ofBool (crc.toBitVec.getLsbD 0)).setWidth 32 :=
    BitVec.and_one_eq_setWidth_ofBool_getLsbD
  unfold acCrc32Bit Crc.step
  cases hbit : crc.toBitVec.getLsbD 0 with
  | false =>
      rw [hbit] at hlow
      have hzero : crc &&& 1 = 0 := UInt32.toBitVec_inj.mp hlow
      rw [if_neg (not_not.mpr hzero), if_neg Bool.false_ne_true]
      exact UInt32.toBitVec_shiftRight crc 1
  | true =>
      rw [hbit] at hlow
      have hone : crc &&& 1 = 1 := UInt32.toBitVec_inj.mp hlow
      rw [if_pos (by rw [hone]; decide), if_pos rfl, UInt32.toBitVec_xor]
      exact congrArg (· ^^^ crcPolynomial.toBitVec) (UInt32.toBitVec_shiftRight crc 1)

theorem word_byteBits (byte : UInt8) :
    (Crc.word (byteBits byte) : BitVec 32) = byte.toUInt32.toBitVec := by
  apply BitVec.eq_of_getLsbD_eq
  intro position hposition
  rw [Crc.word_getLsbD _ hposition]
  by_cases hinside : position < 8
  · simp [byteBits, hinside, hposition]
  · simp [byteBits, hinside, BitVec.getLsbD_of_ge byte.toBitVec position (by omega)]

theorem acCrc32Byte_toBitVec (crc : UInt32) (byte : UInt8) :
    (acCrc32Byte crc byte).toBitVec =
      Crc.feed crcPolynomial.toBitVec crc.toBitVec (byteBits byte) := by
  have hiterate : ∀ (count : Nat) (register : UInt32),
      (acCrc32Bit^[count] register).toBitVec =
        (Crc.step crcPolynomial.toBitVec)^[count] register.toBitVec := by
    intro count
    induction count with
    | zero => exact fun _ => rfl
    | succ count ih =>
        intro register
        rw [Function.iterate_succ_apply, Function.iterate_succ_apply, ih, acCrc32Bit_toBitVec]
  rw [Crc.feed_eq_iterate _ (by simp), byteBits_length, word_byteBits, acCrc32Byte, hiterate,
    UInt32.toBitVec_xor]

theorem foldl_acCrc32Byte_toBitVec (crc : UInt32) (data : Bytes) :
    (data.foldl acCrc32Byte crc).toBitVec =
      Crc.feed crcPolynomial.toBitVec crc.toBitVec (bitsOf data) := by
  induction data generalizing crc with
  | nil => rfl
  | cons byte data ih =>
      rw [List.foldl_cons, ih, bitsOf_cons, Crc.feed_append, acCrc32Byte_toBitVec]

/-! ## Errors -/

/-- The second byte string is the first with an error in at most 32 consecutive bits. -/
structure Burst (data data' : Bytes) : Prop where
  length : data'.length = data.length
  differs : data' ≠ data
  confined : ∃ start, (bitsOf data').take start = (bitsOf data).take start ∧
    (bitsOf data').drop (start + 32) = (bitsOf data).drop (start + 32)

/-- The second byte string is the first with one bit flipped. -/
def FlipsBit (position : Nat) (data data' : Bytes) : Prop :=
  position < (bitsOf data).length ∧ bitsOf data' = (bitsOf data).modify position (!·)

/-- The checksum sees every burst. -/
theorem acCrc32_burst_ne {data data' : Bytes} (hburst : Burst data data') :
    acCrc32 data ≠ acCrc32 data' := by
  intro heq
  obtain ⟨start, hfront, hback⟩ := hburst.confined
  have hbits : (bitsOf data).length = (bitsOf data').length := by
    rw [bitsOf_length, bitsOf_length, hburst.length]
  have hsplit : ∀ bits : List Bool,
      bits.take start ++ (bits.drop start).take 32 ++ bits.drop (start + 32) = bits := by
    intro bits
    rw [← List.take_add, List.take_append_drop]
  have hlength : ((bitsOf data).drop start |>.take 32).length =
      ((bitsOf data').drop start |>.take 32).length := by
    rw [List.length_take, List.length_take, List.length_drop, List.length_drop, hbits]
  have hne : ((bitsOf data).drop start).take 32 ≠ ((bitsOf data').drop start).take 32 := by
    intro hsame
    apply hburst.differs
    apply bitsOf_injective
    rw [← hsplit (bitsOf data'), hfront, ← hsame, hback, hsplit]
  have hregister : (data.foldl acCrc32Byte 0xffffffff).toBitVec =
      (data'.foldl acCrc32Byte 0xffffffff).toBitVec := by
    unfold acCrc32 at heq
    rw [UInt32.not_inj.mp heq]
  rw [foldl_acCrc32Byte_toBitVec, foldl_acCrc32Byte_toBitVec, ← hsplit (bitsOf data),
    ← hsplit (bitsOf data'), hfront, hback] at hregister
  exact Crc.feed_burst_ne crcPolynomial_msb _ hlength (List.length_take_le _ _) hne hregister

/-! ### One bit -/

namespace FlipsBit

variable {position : Nat} {data data' : Bytes}

theorem length (hflips : FlipsBit position data data') : data'.length = data.length := by
  have hbits := congrArg List.length hflips.2
  rw [List.length_modify, bitsOf_length, bitsOf_length] at hbits
  omega

/-- A part of the bytes without the flipped bit stays as it is. -/
theorem drop_eq (hflips : FlipsBit position data data') {offset : Nat}
    (houtside : position < 8 * offset) : data'.drop offset = data.drop offset := by
  apply bitsOf_injective
  rw [bitsOf_drop, bitsOf_drop, hflips.2, List.drop_modify_of_lt _ _ _ _ houtside]

variable {count : Nat}

theorem take_eq (hflips : FlipsBit position data data') (houtside : 8 * count ≤ position) :
    data'.take count = data.take count := by
  apply bitsOf_injective
  rw [bitsOf_take, bitsOf_take, hflips.2, List.take_modify, List.modify_eq_self]
  exact (List.length_take_le _ _).trans houtside

/-- One flipped bit is a burst. -/
theorem burst (hflips : FlipsBit position data data') : Burst data data' where
  length := hflips.length
  differs := by
    intro hsame
    have hbit := congrArg (·[position]?) hflips.2
    rw [hsame] at hbit
    simp [List.getElem?_eq_getElem hflips.1] at hbit
  confined := by
    refine ⟨position, ?_, ?_⟩
    · rw [hflips.2, List.take_modify, List.modify_eq_self (List.length_take_le _ _)]
    · rw [hflips.2, List.drop_modify_of_lt _ _ _ _ (by omega)]

/-- The flip inside a front of the bytes. -/
theorem take (hflips : FlipsBit position data data') (hinside : position < 8 * count) :
    FlipsBit position (data.take count) (data'.take count) := by
  constructor
  · have hposition := hflips.1
    rw [bitsOf_take, List.length_take]
    omega
  · rw [bitsOf_take, bitsOf_take, hflips.2, List.take_modify]

/-- The flip behind a front of the bytes. -/
theorem drop (hflips : FlipsBit position data data') (hinside : 8 * count ≤ position) :
    FlipsBit (position - 8 * count) (data.drop count) (data'.drop count) := by
  constructor
  · have hposition := hflips.1
    rw [bitsOf_drop, List.length_drop]
    omega
  · rw [bitsOf_drop, bitsOf_drop, hflips.2, List.drop_modify_of_ge _ _ _ _ hinside]

/-- Bytes behind a flip do not undo it. -/
theorem append (hflips : FlipsBit position data data') (rest : Bytes) :
    FlipsBit position (data ++ rest) (data' ++ rest) := by
  have hposition := hflips.1
  constructor
  · rw [bitsOf_append, List.length_append]
    omega
  · rw [bitsOf_append, bitsOf_append, hflips.2]
    apply List.ext_getElem?
    intro index
    by_cases hindex : index < (bitsOf data).length
    · rw [List.getElem?_append_left (by simpa using hindex), List.getElem?_modify,
        List.getElem?_modify, List.getElem?_append_left hindex]
    · rw [List.getElem?_modify_ne _ _ (by omega),
        List.getElem?_append_right (by simpa using hindex),
        List.getElem?_append_right (by omega), List.length_modify]

end FlipsBit

end AudioStudio.Wire
