import AudioStudio.Core.LittleEndian

/-!
# Base64

The encoding of RFC 4648: three bytes are four letters of six bits, and a last group of one or
two bytes is filled up with the padding letter.
-/

namespace AudioStudio.Base64

open LittleEndian (Bytes)

/-- `=`. -/
def pad : UInt8 := 0x3d

/-- The letter of six bits. -/
def letter (bits : Nat) : UInt8 :=
  if bits < 26 then UInt8.ofNat (0x41 + bits)
  else if bits < 52 then UInt8.ofNat (0x61 + (bits - 26))
  else if bits < 62 then UInt8.ofNat (0x30 + (bits - 52))
  else if bits = 62 then 0x2b
  else 0x2f

/-- The six bits of a letter. -/
def sextet (byte : UInt8) : Option Nat :=
  if 0x41 ≤ byte ∧ byte ≤ 0x5a then some (byte.toNat - 0x41)
  else if 0x61 ≤ byte ∧ byte ≤ 0x7a then some (byte.toNat - 0x61 + 26)
  else if 0x30 ≤ byte ∧ byte ≤ 0x39 then some (byte.toNat - 0x30 + 52)
  else if byte = 0x2b then some 62
  else if byte = 0x2f then some 63
  else none

theorem sextet_letter : ∀ bits < 64, sextet (letter bits) = some bits := by
  decide

theorem sextet_pad : sextet pad = none := by
  decide

theorem letter_ne_pad {bits : Nat} (hbits : bits < 64) : letter bits ≠ pad := by
  intro heq
  have hletter := sextet_letter bits hbits
  rw [heq, sextet_pad] at hletter
  cases hletter

/-! ## Encoding and decoding -/

def encode : Bytes → Bytes
  | [] => []
  | [b₀] => [letter (b₀.toNat / 4), letter (b₀.toNat % 4 * 16), pad, pad]
  | [b₀, b₁] =>
      [letter (b₀.toNat / 4), letter (b₀.toNat % 4 * 16 + b₁.toNat / 16),
        letter (b₁.toNat % 16 * 4), pad]
  | b₀ :: b₁ :: b₂ :: rest =>
      letter (b₀.toNat / 4) :: letter (b₀.toNat % 4 * 16 + b₁.toNat / 16) ::
        letter (b₁.toNat % 16 * 4 + b₂.toNat / 64) :: letter (b₂.toNat % 64) :: encode rest

def decodeOne (a b : UInt8) : Option Bytes := do
  let x ← sextet a
  let y ← sextet b
  return [UInt8.ofNat (x * 4 + y / 16)]

def decodeTwo (a b c : UInt8) : Option Bytes := do
  let x ← sextet a
  let y ← sextet b
  let z ← sextet c
  return [UInt8.ofNat (x * 4 + y / 16), UInt8.ofNat (y % 16 * 16 + z / 4)]

def decodeThree (a b c d : UInt8) : Option Bytes := do
  let x ← sextet a
  let y ← sextet b
  let z ← sextet c
  let w ← sextet d
  return [UInt8.ofNat (x * 4 + y / 16), UInt8.ofNat (y % 16 * 16 + z / 4),
    UInt8.ofNat (z % 4 * 64 + w)]

/-- Padding stands only at the end of the last group. -/
def decode : Bytes → Option Bytes
  | [] => some []
  | a :: b :: c :: d :: rest =>
      if rest = [] ∧ d = pad then
        if c = pad then decodeOne a b else decodeTwo a b c
      else do
        let front ← decodeThree a b c d
        let back ← decode rest
        return front ++ back
  | _ => none

theorem decodeOne_encoded (b₀ : UInt8) :
    decodeOne (letter (b₀.toNat / 4)) (letter (b₀.toNat % 4 * 16)) = some [b₀] := by
  have hb₀ := b₀.toNat_lt
  rw [decodeOne, sextet_letter _ (by omega), sextet_letter _ (by omega)]
  have hbyte : b₀.toNat / 4 * 4 + b₀.toNat % 4 * 16 / 16 = b₀.toNat := by omega
  simp only [bind, Option.bind, pure, hbyte, UInt8.ofNat_toNat]

theorem decodeTwo_encoded (b₀ b₁ : UInt8) :
    decodeTwo (letter (b₀.toNat / 4)) (letter (b₀.toNat % 4 * 16 + b₁.toNat / 16))
      (letter (b₁.toNat % 16 * 4)) = some [b₀, b₁] := by
  have hb₀ := b₀.toNat_lt
  have hb₁ := b₁.toNat_lt
  rw [decodeTwo, sextet_letter _ (by omega), sextet_letter _ (by omega), sextet_letter _ (by omega)]
  have hfirst : b₀.toNat / 4 * 4 + (b₀.toNat % 4 * 16 + b₁.toNat / 16) / 16 = b₀.toNat := by omega
  have hsecond : (b₀.toNat % 4 * 16 + b₁.toNat / 16) % 16 * 16 + b₁.toNat % 16 * 4 / 4 =
      b₁.toNat := by omega
  simp only [bind, Option.bind, pure, hfirst, hsecond, UInt8.ofNat_toNat]

theorem decodeThree_encoded (b₀ b₁ b₂ : UInt8) :
    decodeThree (letter (b₀.toNat / 4)) (letter (b₀.toNat % 4 * 16 + b₁.toNat / 16))
      (letter (b₁.toNat % 16 * 4 + b₂.toNat / 64)) (letter (b₂.toNat % 64)) =
      some [b₀, b₁, b₂] := by
  have hb₀ := b₀.toNat_lt
  have hb₁ := b₁.toNat_lt
  have hb₂ := b₂.toNat_lt
  rw [decodeThree, sextet_letter _ (by omega), sextet_letter _ (by omega),
    sextet_letter _ (by omega), sextet_letter _ (by omega)]
  have hfirst : b₀.toNat / 4 * 4 + (b₀.toNat % 4 * 16 + b₁.toNat / 16) / 16 = b₀.toNat := by omega
  have hsecond : (b₀.toNat % 4 * 16 + b₁.toNat / 16) % 16 * 16 +
      (b₁.toNat % 16 * 4 + b₂.toNat / 64) / 4 = b₁.toNat := by omega
  have hthird : (b₁.toNat % 16 * 4 + b₂.toNat / 64) % 4 * 64 + b₂.toNat % 64 = b₂.toNat := by omega
  simp only [bind, Option.bind, pure, hfirst, hsecond, hthird, UInt8.ofNat_toNat]

/-- The induction is on the groups of the encoder. -/
theorem decode_encode (bytes : Bytes) : decode (encode bytes) = some bytes := by
  induction bytes using encode.induct with
  | case1 => rfl
  | case2 b₀ =>
      rw [encode, decode, if_pos ⟨rfl, rfl⟩, if_pos rfl]
      exact decodeOne_encoded b₀
  | case3 b₀ b₁ =>
      have hb₁ := b₁.toNat_lt
      rw [encode, decode, if_pos ⟨rfl, rfl⟩, if_neg (letter_ne_pad (by omega))]
      exact decodeTwo_encoded b₀ b₁
  | case4 b₀ b₁ b₂ rest ih =>
      have hfull : letter (b₂.toNat % 64) ≠ pad := letter_ne_pad (Nat.mod_lt _ (by decide))
      rw [encode, decode, if_neg fun hlast => hfull hlast.2, decodeThree_encoded, ih]
      rfl

theorem encode_injective : Function.Injective encode := by
  intro bytes other heq
  have hboth := decode_encode bytes
  rw [heq, decode_encode] at hboth
  exact (Option.some.inj hboth).symm

/-! ## The form of the text -/

theorem length_encode (bytes : Bytes) : (encode bytes).length = 4 * ((bytes.length + 2) / 3) := by
  induction bytes using encode.induct with
  | case1 => rfl
  | case2 b₀ => simp only [encode, List.length_cons, List.length_nil]
  | case3 b₀ b₁ => simp only [encode, List.length_cons, List.length_nil]
  | case4 b₀ b₁ b₂ rest ih =>
      simp only [encode, List.length_cons, ih]
      omega

/-- The padding letters behind an encoding of so many bytes. -/
def padding (length : Nat) : Nat := (3 - length % 3) % 3

/-- Letters first, and then the padding. -/
theorem encode_eq_letters_padding (bytes : Bytes) :
    ∃ letters, encode bytes = letters ++ List.replicate (padding bytes.length) pad ∧
      ∀ byte ∈ letters, ∃ bits < 64, byte = letter bits := by
  induction bytes using encode.induct with
  | case1 => exact ⟨[], rfl, by simp⟩
  | case2 b₀ =>
      have hb₀ := b₀.toNat_lt
      refine ⟨[letter (b₀.toNat / 4), letter (b₀.toNat % 4 * 16)], rfl, ?_⟩
      simp only [List.forall_mem_cons, List.not_mem_nil, false_implies, implies_true, and_true]
      exact ⟨⟨_, by omega, rfl⟩, ⟨_, by omega, rfl⟩⟩
  | case3 b₀ b₁ =>
      have hb₀ := b₀.toNat_lt
      have hb₁ := b₁.toNat_lt
      refine ⟨[letter (b₀.toNat / 4), letter (b₀.toNat % 4 * 16 + b₁.toNat / 16),
        letter (b₁.toNat % 16 * 4)], rfl, ?_⟩
      simp only [List.forall_mem_cons, List.not_mem_nil, false_implies, implies_true, and_true]
      exact ⟨⟨_, by omega, rfl⟩, ⟨_, by omega, rfl⟩, ⟨_, by omega, rfl⟩⟩
  | case4 b₀ b₁ b₂ rest ih =>
      have hb₀ := b₀.toNat_lt
      have hb₁ := b₁.toNat_lt
      have hb₂ := b₂.toNat_lt
      obtain ⟨letters, hrest, hletters⟩ := ih
      refine ⟨letter (b₀.toNat / 4) :: letter (b₀.toNat % 4 * 16 + b₁.toNat / 16) ::
        letter (b₁.toNat % 16 * 4 + b₂.toNat / 64) :: letter (b₂.toNat % 64) :: letters, ?_, ?_⟩
      · have hsame : padding (b₀ :: b₁ :: b₂ :: rest).length = padding rest.length := by
          simp only [padding, List.length_cons]
          omega
        rw [encode, hrest, hsame]
        rfl
      · simp only [List.forall_mem_cons]
        exact ⟨⟨_, by omega, rfl⟩, ⟨_, by omega, rfl⟩, ⟨_, by omega, rfl⟩, ⟨_, by omega, rfl⟩,
          hletters⟩

end AudioStudio.Base64
