import AudioStudio.Core.Base64
import AudioStudio.Core.Text

/-!
# The two Base64 encoders

The RPC API and the GUI backend each have their own `base64Encode`.
-/

namespace AudioStudio.Rpc

open LittleEndian (Bytes)

def kAlphabet : Bytes :=
  asciiBytes "ABCDEFGHIJKLMNOPQRSTUVWXYZabcdefghijklmnopqrstuvwxyz0123456789+/"

/-- The four characters that the pass at `i` pushes. -/
def base64EncodePass (bytes : Bytes) (i : Nat) : Bytes :=
  let b0 : UInt32 := (bytes.getD i 0).toUInt32
  let b1 : UInt32 := if i + 1 < bytes.length then (bytes.getD (i + 1) 0).toUInt32 else 0
  let b2 : UInt32 := if i + 2 < bytes.length then (bytes.getD (i + 2) 0).toUInt32 else 0
  let value := (b0 <<< 16) ||| (b1 <<< 8) ||| b2
  [kAlphabet.getD ((value >>> 18) &&& 0x3f).toNat 0,
    kAlphabet.getD ((value >>> 12) &&& 0x3f).toNat 0,
    if i + 1 < bytes.length then kAlphabet.getD ((value >>> 6) &&& 0x3f).toNat 0 else 0x3d,
    if i + 2 < bytes.length then kAlphabet.getD (value &&& 0x3f).toNat 0 else 0x3d]

def base64EncodeLoop (bytes : Bytes) (i : Nat) (out : Bytes) : Bytes :=
  if i < bytes.length then base64EncodeLoop bytes (i + 3) (out ++ base64EncodePass bytes i)
  else out
termination_by bytes.length - i

def base64Encode (bytes : Bytes) : Bytes :=
  base64EncodeLoop bytes 0 []

end AudioStudio.Rpc

namespace AudioStudio.Gui

open LittleEndian (Bytes)

def table : Bytes :=
  asciiBytes "ABCDEFGHIJKLMNOPQRSTUVWXYZabcdefghijklmnopqrstuvwxyz0123456789+/"

def base64EncodePass (data : Bytes) (i : Nat) : Bytes :=
  let b0 : UInt32 := (data.getD i 0).toUInt32
  let b1 : UInt32 := if i + 1 < data.length then (data.getD (i + 1) 0).toUInt32 else 0
  let b2 : UInt32 := if i + 2 < data.length then (data.getD (i + 2) 0).toUInt32 else 0
  let n := (b0 <<< 16) ||| (b1 <<< 8) ||| b2
  [table.getD ((n >>> 18) &&& 0x3f).toNat 0,
    table.getD ((n >>> 12) &&& 0x3f).toNat 0,
    if i + 1 < data.length then table.getD ((n >>> 6) &&& 0x3f).toNat 0 else 0x3d,
    if i + 2 < data.length then table.getD (n &&& 0x3f).toNat 0 else 0x3d]

def base64EncodeLoop (data : Bytes) (i : Nat) (out : Bytes) : Bytes :=
  if i < data.length then base64EncodeLoop data (i + 3) (out ++ base64EncodePass data i)
  else out
termination_by data.length - i

def base64Encode (data : Bytes) : Bytes :=
  base64EncodeLoop data 0 []

end AudioStudio.Gui

namespace AudioStudio.Rpc

open LittleEndian (Bytes or_shifted)

/-! ## The bits of a group -/

/-- The word that a group of three bytes is packed into. -/
def packed (b₀ b₁ b₂ : UInt8) : UInt32 :=
  (b₀.toUInt32 <<< 16) ||| (b₁.toUInt32 <<< 8) ||| b₂.toUInt32

theorem packed_toNat (b₀ b₁ b₂ : UInt8) :
    (packed b₀ b₁ b₂).toNat = b₀.toNat * 65536 + b₁.toNat * 256 + b₂.toNat := by
  have h₀ := b₀.toNat_lt
  have h₁ := b₁.toNat_lt
  have h₂ := b₂.toNat_lt
  simp only [packed, UInt32.toNat_or, UInt8.toNat_toUInt32, UInt32.toNat_shiftLeft]
  rw [show b₀.toNat <<< ((16 : UInt32).toNat % 32) % 2 ^ 32 = 2 ^ 16 * b₀.toNat by
    rw [show (16 : UInt32).toNat % 32 = 16 from rfl, Nat.shiftLeft_eq]; omega]
  rw [show b₁.toNat <<< ((8 : UInt32).toNat % 32) % 2 ^ 32 = 2 ^ 8 * b₁.toNat by
    rw [show (8 : UInt32).toNat % 32 = 8 from rfl, Nat.shiftLeft_eq]; omega]
  rw [Nat.or_assoc, Nat.or_comm (2 ^ 8 * b₁.toNat), or_shifted 8 h₂, Nat.or_comm,
    or_shifted 16 (by omega)]
  omega

theorem six_bits (value : UInt32) : (value &&& 0x3f).toNat = value.toNat % 64 := by
  rw [UInt32.toNat_and]
  exact Nat.and_two_pow_sub_one_eq_mod value.toNat 6

theorem packed_first (b₀ b₁ b₂ : UInt8) :
    ((packed b₀ b₁ b₂ >>> 18) &&& 0x3f).toNat = b₀.toNat / 4 := by
  have h₀ := b₀.toNat_lt
  have h₁ := b₁.toNat_lt
  have h₂ := b₂.toNat_lt
  rw [six_bits, UInt32.toNat_shiftRight, packed_toNat, Nat.shiftRight_eq_div_pow,
    show 2 ^ ((18 : UInt32).toNat % 32) = 262144 from rfl]
  omega

theorem packed_second (b₀ b₁ b₂ : UInt8) :
    ((packed b₀ b₁ b₂ >>> 12) &&& 0x3f).toNat = b₀.toNat % 4 * 16 + b₁.toNat / 16 := by
  have h₁ := b₁.toNat_lt
  have h₂ := b₂.toNat_lt
  rw [six_bits, UInt32.toNat_shiftRight, packed_toNat, Nat.shiftRight_eq_div_pow,
    show 2 ^ ((12 : UInt32).toNat % 32) = 4096 from rfl]
  omega

theorem packed_third (b₀ b₁ b₂ : UInt8) :
    ((packed b₀ b₁ b₂ >>> 6) &&& 0x3f).toNat = b₁.toNat % 16 * 4 + b₂.toNat / 64 := by
  have h₂ := b₂.toNat_lt
  rw [six_bits, UInt32.toNat_shiftRight, packed_toNat, Nat.shiftRight_eq_div_pow,
    show 2 ^ ((6 : UInt32).toNat % 32) = 64 from rfl]
  omega

theorem packed_fourth (b₀ b₁ b₂ : UInt8) :
    (packed b₀ b₁ b₂ &&& 0x3f).toNat = b₂.toNat % 64 := by
  rw [six_bits, packed_toNat]
  omega

theorem kAlphabet_getD : ∀ bits < 64, kAlphabet.getD bits 0 = Base64.letter bits := by
  decide

/-! ## The loop is the encoding -/

variable {bytes : Bytes} {i : Nat}

theorem drop_eq_getD_cons (hi : i < bytes.length) :
    bytes.drop i = bytes.getD i 0 :: bytes.drop (i + 1) := by
  rw [List.drop_eq_getElem_cons hi, List.getD_eq_getElem bytes 0 hi]

/-- What stands for a group at `i`: the letters of its bytes, and padding for the missing ones. -/
theorem encode_drop (hi : i < bytes.length) :
    Base64.encode (bytes.drop i) =
      (let b1 := if i + 1 < bytes.length then bytes.getD (i + 1) 0 else 0
        let b2 := if i + 2 < bytes.length then bytes.getD (i + 2) 0 else 0
        [Base64.letter ((bytes.getD i 0).toNat / 4),
          Base64.letter ((bytes.getD i 0).toNat % 4 * 16 + b1.toNat / 16),
          if i + 1 < bytes.length then Base64.letter (b1.toNat % 16 * 4 + b2.toNat / 64)
          else Base64.pad,
          if i + 2 < bytes.length then Base64.letter (b2.toNat % 64) else Base64.pad]) ++
        Base64.encode (bytes.drop (i + 3)) := by
  by_cases hsecond : i + 1 < bytes.length
  · by_cases hthird : i + 2 < bytes.length
    · simp only [if_pos hsecond, if_pos hthird]
      rw [drop_eq_getD_cons hi, drop_eq_getD_cons hsecond, drop_eq_getD_cons hthird]
      rfl
    · have hend : bytes.drop (i + 2) = [] := List.drop_of_length_le (not_lt.mp hthird)
      have hover : bytes.drop (i + 3) = [] := List.drop_of_length_le (by omega)
      simp only [if_pos hsecond, if_neg hthird]
      rw [drop_eq_getD_cons hi, drop_eq_getD_cons hsecond, hend, hover]
      rfl
  · have hthird : ¬i + 2 < bytes.length := by omega
    have hend : bytes.drop (i + 1) = [] := List.drop_of_length_le (not_lt.mp hsecond)
    have hover : bytes.drop (i + 3) = [] := List.drop_of_length_le (by omega)
    simp only [if_neg hsecond, if_neg hthird]
    rw [drop_eq_getD_cons hi, hend, hover]
    rfl

theorem toUInt32_guarded (present : Prop) [Decidable present] (byte : UInt8) :
    (if present then byte.toUInt32 else 0) = (if present then byte else 0).toUInt32 := by
  split_ifs
  · rfl
  · rfl

theorem base64EncodePass_eq (hi : i < bytes.length) :
    Base64.encode (bytes.drop i) =
      base64EncodePass bytes i ++ Base64.encode (bytes.drop (i + 3)) := by
  have h₀ := (bytes.getD i 0).toNat_lt
  have h₁ := (if i + 1 < bytes.length then bytes.getD (i + 1) 0 else 0).toNat_lt
  have h₂ := (if i + 2 < bytes.length then bytes.getD (i + 2) 0 else 0).toNat_lt
  have hpacked : (bytes.getD i 0).toUInt32 <<< 16 |||
      (if i + 1 < bytes.length then (bytes.getD (i + 1) 0).toUInt32 else 0) <<< 8 |||
      (if i + 2 < bytes.length then (bytes.getD (i + 2) 0).toUInt32 else 0) =
        packed (bytes.getD i 0) (if i + 1 < bytes.length then bytes.getD (i + 1) 0 else 0)
          (if i + 2 < bytes.length then bytes.getD (i + 2) 0 else 0) := by
    rw [packed, toUInt32_guarded, toUInt32_guarded]
  rw [encode_drop hi]
  simp only [base64EncodePass, hpacked, packed_first, packed_second, packed_third, packed_fourth]
  rw [kAlphabet_getD _ (by omega), kAlphabet_getD _ (by omega), kAlphabet_getD _ (by omega),
    kAlphabet_getD _ (by omega)]
  rfl

/-- From byte `i` on the loop writes the encoding of what is left. -/
theorem base64EncodeLoop_eq (bytes : Bytes) (i : Nat) (out : Bytes) :
    base64EncodeLoop bytes i out = out ++ Base64.encode (bytes.drop i) := by
  fun_induction base64EncodeLoop bytes i out with
  | case1 i out hi ih => rw [ih, base64EncodePass_eq hi, List.append_assoc]
  | case2 i out hi =>
      rw [List.drop_of_length_le (not_lt.mp hi)]
      exact (List.append_nil out).symm

theorem base64Encode_eq (bytes : Bytes) : base64Encode bytes = Base64.encode bytes := by
  rw [base64Encode, base64EncodeLoop_eq, List.drop_zero, List.nil_append]

end AudioStudio.Rpc

namespace AudioStudio.Gui

open LittleEndian (Bytes)

theorem base64EncodeLoop_eq_rpc (data : Bytes) (i : Nat) (out : Bytes) :
    base64EncodeLoop data i out = Rpc.base64EncodeLoop data i out := by
  fun_induction base64EncodeLoop data i out with
  | case1 i out hi ih =>
      rw [Rpc.base64EncodeLoop, if_pos hi]
      exact ih
  | case2 i out hi => rw [Rpc.base64EncodeLoop, if_neg hi]

theorem base64Encode_eq_rpc (data : Bytes) : base64Encode data = Rpc.base64Encode data :=
  base64EncodeLoop_eq_rpc data 0 []

/-- The two encoders return the same text: four characters for every three bytes or fewer, letters
first, then the padding, from which the bytes are read again; so no two inputs share it. -/
theorem base64Encode_exact (bytes : Bytes) :
    Rpc.base64Encode bytes = base64Encode bytes ∧
      (base64Encode bytes).length = 4 * ((bytes.length + 2) / 3) ∧
      (∃ letters, base64Encode bytes =
          letters ++ List.replicate (Base64.padding bytes.length) Base64.pad ∧
        ∀ byte ∈ letters, ∃ bits < 64, byte = Base64.letter bits ∧ byte ≠ Base64.pad) ∧
      Base64.decode (base64Encode bytes) = some bytes ∧
      ∀ other, base64Encode other = base64Encode bytes → other = bytes := by
  simp only [base64Encode_eq_rpc, Rpc.base64Encode_eq]
  refine ⟨trivial, Base64.length_encode bytes, ?_, Base64.decode_encode bytes, ?_⟩
  · obtain ⟨letters, hencoded, hletters⟩ := Base64.encode_eq_letters_padding bytes
    refine ⟨letters, hencoded, fun byte hmem => ?_⟩
    obtain ⟨bits, hbits, rfl⟩ := hletters byte hmem
    exact ⟨bits, hbits, rfl, Base64.letter_ne_pad hbits⟩
  · exact fun other heq => Base64.encode_injective heq

end AudioStudio.Gui
