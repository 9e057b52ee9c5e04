import Mathlib.Data.Nat.Bitwise

/-!
# Little-endian words in byte strings

Fixed-width words are written least significant byte first.  Reading is total:
a byte outside the string reads as zero, and every caller checks lengths first.
-/

namespace AudioStudio.LittleEndian

abbrev Bytes := List UInt8

instance : LawfulBEq Bytes := inferInstance

/-! ## Words and their bytes -/

def le16 (value : UInt16) : Bytes :=
  [value.toUInt8, (value >>> 8).toUInt8]

def le32 (value : UInt32) : Bytes :=
  [value.toUInt8, (value >>> 8).toUInt8, (value >>> 16).toUInt8, (value >>> 24).toUInt8]

def of16 (b₀ b₁ : UInt8) : UInt16 :=
  b₀.toUInt16 ||| (b₁.toUInt16 <<< 8)

def of32 (b₀ b₁ b₂ b₃ : UInt8) : UInt32 :=
  b₀.toUInt32 ||| (b₁.toUInt32 <<< 8) ||| (b₂.toUInt32 <<< 16) ||| (b₃.toUInt32 <<< 24)

@[simp] theorem le16_length (value : UInt16) : (le16 value).length = 2 := rfl

@[simp] theorem le32_length (value : UInt32) : (le32 value).length = 4 := rfl

/-- Disjoint bit ranges: the union of a low part and a shifted part is their sum. -/
theorem or_shifted {low high : Nat} (width : Nat) (hlow : low < 2 ^ width) :
    low ||| 2 ^ width * high = low + 2 ^ width * high := by
  rw [Nat.or_comm, ← Nat.two_pow_add_eq_or_of_lt hlow, Nat.add_comm]

theorem of16_toNat (b₀ b₁ : UInt8) :
    (of16 b₀ b₁).toNat = b₀.toNat + 256 * b₁.toNat := by
  have h₀ := b₀.toNat_lt
  have h₁ := b₁.toNat_lt
  simp only [of16, UInt16.toNat_or, UInt8.toNat_toUInt16, UInt16.toNat_shiftLeft]
  rw [show b₁.toNat <<< ((8 : UInt16).toNat % 16) % 2 ^ 16 = 2 ^ 8 * b₁.toNat by
    rw [show (8 : UInt16).toNat % 16 = 8 from rfl, Nat.shiftLeft_eq]; omega]
  rw [or_shifted 8 h₀]
  omega

theorem of32_toNat (b₀ b₁ b₂ b₃ : UInt8) :
    (of32 b₀ b₁ b₂ b₃).toNat =
      b₀.toNat + 256 * b₁.toNat + 65536 * b₂.toNat + 16777216 * b₃.toNat := by
  have h₀ := b₀.toNat_lt
  have h₁ := b₁.toNat_lt
  have h₂ := b₂.toNat_lt
  have h₃ := b₃.toNat_lt
  simp only [of32, UInt32.toNat_or, UInt8.toNat_toUInt32, UInt32.toNat_shiftLeft]
  rw [show b₁.toNat <<< ((8 : UInt32).toNat % 32) % 2 ^ 32 = 2 ^ 8 * b₁.toNat by
    rw [show (8 : UInt32).toNat % 32 = 8 from rfl, Nat.shiftLeft_eq]; omega]
  rw [show b₂.toNat <<< ((16 : UInt32).toNat % 32) % 2 ^ 32 = 2 ^ 16 * b₂.toNat by
    rw [show (16 : UInt32).toNat % 32 = 16 from rfl, Nat.shiftLeft_eq]; omega]
  rw [show b₃.toNat <<< ((24 : UInt32).toNat % 32) % 2 ^ 32 = 2 ^ 24 * b₃.toNat by
    rw [show (24 : UInt32).toNat % 32 = 24 from rfl, Nat.shiftLeft_eq]; omega]
  rw [or_shifted 8 h₀]
  rw [or_shifted 16 (by omega)]
  rw [or_shifted 24 (by omega)]
  omega

@[simp] theorem of16_le16 (value : UInt16) :
    of16 value.toUInt8 (value >>> 8).toUInt8 = value := by
  have hvalue := value.toNat_lt
  simp only [← UInt16.toNat_inj, of16_toNat, UInt16.toNat_toUInt8, UInt16.toNat_shiftRight,
    Nat.shiftRight_eq_div_pow]
  simp
  omega

@[simp] theorem of32_le32 (value : UInt32) :
    of32 value.toUInt8 (value >>> 8).toUInt8 (value >>> 16).toUInt8 (value >>> 24).toUInt8 =
      value := by
  have hvalue := value.toNat_lt
  simp only [← UInt32.toNat_inj, of32_toNat, UInt32.toNat_toUInt8, UInt32.toNat_shiftRight,
    Nat.shiftRight_eq_div_pow]
  simp
  omega

theorem le32_of32 (b₀ b₁ b₂ b₃ : UInt8) : le32 (of32 b₀ b₁ b₂ b₃) = [b₀, b₁, b₂, b₃] := by
  have hword := of32_toNat b₀ b₁ b₂ b₃
  have h₀ := b₀.toNat_lt
  have h₁ := b₁.toNat_lt
  have h₂ := b₂.toNat_lt
  have h₃ := b₃.toNat_lt
  simp only [le32, List.cons.injEq, and_true, ← UInt8.toNat_inj, UInt32.toNat_toUInt8,
    UInt32.toNat_shiftRight, hword, Nat.shiftRight_eq_div_pow]
  simp
  omega

/-- Comparing a word is comparing its four bytes. -/
theorem of32_eq_iff (b₀ b₁ b₂ b₃ : UInt8) (value : UInt32) :
    of32 b₀ b₁ b₂ b₃ = value ↔ [b₀, b₁, b₂, b₃] = le32 value := by
  constructor
  · intro heq
    rw [← heq, le32_of32]
  · intro heq
    simp only [le32, List.cons.injEq, and_true] at heq
    obtain ⟨rfl, rfl, rfl, rfl⟩ := heq
    exact of32_le32 value

/-! ## Bytes at an offset -/

def byteAt (data : Bytes) (offset : Nat) : UInt8 :=
  data.getD offset 0

def word16 (data : Bytes) (offset : Nat) : UInt16 :=
  of16 (byteAt data offset) (byteAt data (offset + 1))

def word32 (data : Bytes) (offset : Nat) : UInt32 :=
  of32 (byteAt data offset) (byteAt data (offset + 1)) (byteAt data (offset + 2))
    (byteAt data (offset + 3))

/-- Overwrite `bytes.length` bytes of a buffer from `offset` on. -/
def poke (buffer : Bytes) (offset : Nat) (bytes : Bytes) : Bytes :=
  buffer.take offset ++ bytes ++ buffer.drop (offset + bytes.length)

variable {bytes : Bytes} {offset : Nat}

theorem poke_length {buffer : Bytes} (hfits : offset + bytes.length ≤ buffer.length) :
    (poke buffer offset bytes).length = buffer.length := by
  simp only [poke, List.length_append, List.length_take, List.length_drop]
  omega

/-- Overwriting exactly the tail that follows a prefix keeps the prefix. -/
theorem poke_append {front back : Bytes} (hoffset : offset = front.length)
    (hlength : bytes.length = back.length) :
    poke (front ++ back) offset bytes = front ++ bytes := by
  subst hoffset
  simp [poke, hlength]

/-- Writing the next field into a cleared buffer appends it to the fields before it. -/
theorem poke_zeros {front : Bytes} {zeros : Nat} (hoffset : offset = front.length) :
    poke (front ++ List.replicate zeros 0) offset bytes =
      (front ++ bytes) ++ List.replicate (zeros - bytes.length) 0 := by
  subst hoffset
  simp [poke]

theorem byteAt_append_left {left right : Bytes} (hlt : offset < left.length) :
    byteAt (left ++ right) offset = byteAt left offset := by
  simp [byteAt, List.getElem?_append_left hlt]

variable {data : Bytes}

theorem byteAt_take {count : Nat} (hlt : offset < count) :
    byteAt (data.take count) offset = byteAt data offset := by
  simp [byteAt, List.getElem?_take_of_lt hlt]

theorem word32_append_left {left right : Bytes} (hle : offset + 4 ≤ left.length) :
    word32 (left ++ right) offset = word32 left offset := by
  simp only [word32]
  rw [byteAt_append_left (by omega), byteAt_append_left (by omega),
    byteAt_append_left (by omega), byteAt_append_left (by omega)]

theorem word32_take {count : Nat} (hle : offset + 4 ≤ count) :
    word32 (data.take count) offset = word32 data offset := by
  simp only [word32]
  rw [byteAt_take (by omega), byteAt_take (by omega), byteAt_take (by omega),
    byteAt_take (by omega)]

theorem word32_le32 (value : UInt32) (rest : Bytes) : word32 (le32 value ++ rest) 0 = value := by
  simp only [word32, byteAt, le32, List.cons_append, List.nil_append, List.getD_cons_zero,
    List.getD_cons_succ, of32_le32]

theorem word32_eq_iff (data : Bytes) (offset : Nat) (value : UInt32) :
    word32 data offset = value ↔
      [byteAt data offset, byteAt data (offset + 1), byteAt data (offset + 2),
        byteAt data (offset + 3)] = le32 value :=
  of32_eq_iff _ _ _ _ value

/-! ## Slices of a header -/

theorem byteAt_drop (data : Bytes) (offset position : Nat) :
    byteAt (data.drop offset) position = byteAt data (offset + position) := by
  simp [byteAt]

theorem le32_word32 (hle : offset + 4 ≤ data.length) :
    le32 (word32 data offset) = (data.drop offset).take 4 := by
  have hlength : 4 ≤ (data.drop offset).length := by
    rw [List.length_drop]
    omega
  have hword : word32 data offset = word32 (data.drop offset) 0 := by
    simp only [word32, byteAt_drop, Nat.add_zero, Nat.zero_add]
  rw [hword]
  match data.drop offset, hlength with
  | _ :: _ :: _ :: _ :: _, _ => exact le32_of32 _ _ _ _

theorem le16_of16 (b₀ b₁ : UInt8) : le16 (of16 b₀ b₁) = [b₀, b₁] := by
  have hword := of16_toNat b₀ b₁
  have h₀ := b₀.toNat_lt
  have h₁ := b₁.toNat_lt
  simp only [le16, List.cons.injEq, and_true, ← UInt8.toNat_inj, UInt16.toNat_toUInt8,
    UInt16.toNat_shiftRight, hword, Nat.shiftRight_eq_div_pow]
  simp
  omega

theorem le16_word16 (hle : offset + 2 ≤ data.length) :
    le16 (word16 data offset) = (data.drop offset).take 2 := by
  have hlength : 2 ≤ (data.drop offset).length := by
    rw [List.length_drop]
    omega
  have hword : word16 data offset = word16 (data.drop offset) 0 := by
    simp only [word16, byteAt_drop, Nat.add_zero, Nat.zero_add]
  rw [hword]
  match data.drop offset, hlength with
  | _ :: _ :: _, _ => exact le16_of16 _ _

theorem byteAt_slice (hlt : offset < data.length) :
    [byteAt data offset] = (data.drop offset).take 1 := by
  have hlength : 1 ≤ (data.drop offset).length := by
    rw [List.length_drop]
    omega
  have hbyte : byteAt data offset = byteAt (data.drop offset) 0 := by
    rw [byteAt_drop, Nat.add_zero]
  rw [hbyte]
  match data.drop offset, hlength with
  | _ :: _, _ => rfl

/-- A slice behind a front makes a longer front. -/
theorem take_slice (data : Bytes) (offset count : Nat) :
    data.take offset ++ (data.drop offset).take count = data.take (offset + count) :=
  List.take_add.symm

end AudioStudio.LittleEndian
