import AudioStudio.Rpc.JsonRoundTrip

/-!
# Unicode escapes

What a string literal denotes, and what the parser makes of it.  It decodes one escape at a time:
right for the basic plane, while a character beyond it takes two escapes, the halves of which are
encoded on their own.
-/

namespace AudioStudio.Rpc

open AudioStudio.LittleEndian
open AudioStudio.Rpc.Parser

/-! ## Literals -/

/-- A hexadecimal digit and how it is written. -/
structure HexDigit where
  value : Fin 16
  upper : Bool
  deriving DecidableEq, Repr

def HexDigit.byte (digit : HexDigit) : UInt8 :=
  if digit.value.val < 10 then ascii '0' + digit.value.val.toUInt8
  else if digit.upper then ascii 'A' + (digit.value.val - 10).toUInt8
  else ascii 'a' + (digit.value.val - 10).toUInt8

/-- The four digits of an escape. -/
structure UnicodeEscape where
  first : HexDigit
  second : HexDigit
  third : HexDigit
  fourth : HexDigit
  deriving DecidableEq, Repr

namespace UnicodeEscape

/-- The 16-bit unit that an escape names. -/
def unit (escape : UnicodeEscape) : Nat :=
  ((escape.first.value.val * 16 + escape.second.value.val) * 16 + escape.third.value.val) * 16 +
    escape.fourth.value.val

def text (escape : UnicodeEscape) : Bytes :=
  [backslash, ascii 'u', escape.first.byte, escape.second.byte, escape.third.byte,
    escape.fourth.byte]

theorem unit_lt (escape : UnicodeEscape) : escape.unit < 0x10000 := by
  have hfirst := escape.first.value.isLt
  have hsecond := escape.second.value.isLt
  have hthird := escape.third.value.isLt
  have hfourth := escape.fourth.value.isLt
  unfold unit
  omega

end UnicodeEscape

/-- The escapes of one letter and the characters that they denote. -/
def letterEscapes : List (UInt8 × Char) :=
  [(quote, '"'), (backslash, '\\'), (ascii '/', '/'), (ascii 'b', '\x08'), (ascii 'f', '\x0c'),
    (ascii 'n', '\n'), (ascii 'r', '\r'), (ascii 't', '\t')]

/-- One character of a literal, in one of the ways to write it. -/
inductive LiteralItem where
  | raw (char : Char) (hplain : char ≠ '"' ∧ char ≠ '\\' ∧ 0x20 ≤ char.toNat)
  | letter (escaped : UInt8) (char : Char) (hletter : (escaped, char) ∈ letterEscapes)
  | unit (escape : UnicodeEscape) (hscalar : escape.unit < 0xd800 ∨ 0xdfff < escape.unit)
  | pair (high low : UnicodeEscape) (hhigh : 0xd800 ≤ high.unit ∧ high.unit < 0xdc00)
      (hlow : 0xdc00 ≤ low.unit ∧ low.unit < 0xe000)

namespace LiteralItem

def text : LiteralItem → Bytes
  | raw char _ => String.utf8EncodeChar char
  | letter escaped _ _ => [backslash, escaped]
  | unit escape _ => escape.text
  | pair high low _ _ => high.text ++ low.text

/-- The character that an item denotes; a pair of surrogates denotes one beyond the basic plane. -/
def char : LiteralItem → Char
  | raw char _ => char
  | letter _ char _ => char
  | unit escape _ => Char.ofNat escape.unit
  | pair high low _ _ =>
      Char.ofNat (0x10000 + (high.unit - 0xd800) * 0x400 + (low.unit - 0xdc00))

def isPair : LiteralItem → Bool
  | pair _ _ _ _ => true
  | _ => false

end LiteralItem

def literalText (items : List LiteralItem) : Bytes :=
  [quote] ++ items.flatMap LiteralItem.text ++ [quote]

/-- The UTF-8 encoding of the characters that a literal denotes. -/
def denotedBytes (items : List LiteralItem) : Bytes :=
  items.flatMap fun item => String.utf8EncodeChar item.char

/-! ## The encoder -/

/-- A byte behind the first one holds six bits. -/
theorem continuation_byte (codepoint : UInt32) :
    (0x80 : UInt8) ||| (codepoint &&& 0x3f).toUInt8 =
      UInt8.ofNat (codepoint.toNat % 0x40 + 0x80) := by
  apply UInt8.toNat_inj.mp
  have hmask : (codepoint &&& 0x3f).toNat = codepoint.toNat % 0x40 := by
    rw [UInt32.toNat_and]
    exact Nat.and_two_pow_sub_one_eq_mod _ 6
  have hlow : codepoint.toNat % 0x40 % 2 ^ 8 = codepoint.toNat % 0x40 :=
    Nat.mod_eq_of_lt (by omega)
  have hbyte : (codepoint.toNat % 0x40 + 0x80) % 2 ^ 8 = codepoint.toNat % 0x40 + 0x80 :=
    Nat.mod_eq_of_lt (by omega)
  rw [UInt8.toNat_or, UInt32.toNat_toUInt8, hmask, UInt8.toNat_ofNat', hlow, hbyte, Nat.add_comm]
  exact (Nat.two_pow_add_eq_or_of_lt (i := 6) (by omega) 2).symm

theorem shiftRight_six (codepoint : UInt32) :
    (codepoint >>> 6).toNat = codepoint.toNat / 0x40 := by
  rw [UInt32.toNat_shiftRight]
  exact Nat.shiftRight_eq_div_pow _ 6

theorem shiftRight_twelve (codepoint : UInt32) :
    (codepoint >>> 12).toNat = codepoint.toNat / 0x1000 := by
  rw [UInt32.toNat_shiftRight]
  exact Nat.shiftRight_eq_div_pow _ 12

/-- The first byte of two. -/
theorem leading_two {codepoint : UInt32} (hlt : codepoint.toNat < 0x800) :
    (0xc0 : UInt8) ||| (codepoint >>> 6).toUInt8 =
      UInt8.ofNat (codepoint.toNat / 0x40 % 0x20 + 0xc0) := by
  apply UInt8.toNat_inj.mp
  rw [UInt8.toNat_or, UInt32.toNat_toUInt8, shiftRight_six, UInt8.toNat_ofNat',
    Nat.mod_eq_of_lt (by omega), Nat.mod_eq_of_lt (by omega), Nat.mod_eq_of_lt (by omega),
    Nat.add_comm]
  exact (Nat.two_pow_add_eq_or_of_lt (i := 6) (by omega) 3).symm

/-- The first byte of three. -/
theorem leading_three {codepoint : UInt32} (hlt : codepoint.toNat < 0x10000) :
    (0xe0 : UInt8) ||| (codepoint >>> 12).toUInt8 =
      UInt8.ofNat (codepoint.toNat / 0x1000 % 0x10 + 0xe0) := by
  apply UInt8.toNat_inj.mp
  rw [UInt8.toNat_or, UInt32.toNat_toUInt8, shiftRight_twelve, UInt8.toNat_ofNat',
    Nat.mod_eq_of_lt (by omega), Nat.mod_eq_of_lt (by omega), Nat.mod_eq_of_lt (by omega),
    Nat.add_comm]
  exact (Nat.two_pow_add_eq_or_of_lt (i := 5) (by omega) 7).symm

/-- In the basic plane the encoder is UTF-8. -/
theorem encodeUtf8_scalar {value : Nat} (hlt : value < 0x10000)
    (hscalar : value < 0xd800 ∨ 0xdfff < value) :
    encodeUtf8 value.toUInt32 = String.utf8EncodeChar (Char.ofNat value) := by
  have hvalid : value.isValidChar := by
    unfold Nat.isValidChar
    omega
  have hchar : (Char.ofNat value).val.toNat = value := by
    rw [Char.ofNat, dif_pos hvalid]
    rfl
  have hword : value.toUInt32.toNat = value := by
    rw [Nat.toUInt32_eq, UInt32.toNat_ofNat']
    exact Nat.mod_eq_of_lt (by omega)
  have hone : value.toUInt32 ≤ 0x7f ↔ value ≤ 0x7f := by
    rw [UInt32.le_iff_toNat_le, hword]
    rfl
  have htwo : value.toUInt32 ≤ 0x7ff ↔ value ≤ 0x7ff := by
    rw [UInt32.le_iff_toNat_le, hword]
    rfl
  simp only [encodeUtf8, String.utf8EncodeChar, hone, htwo, hchar]
  split
  · congr 1
    apply UInt8.toNat_inj.mp
    rw [UInt32.toNat_toUInt8, hword]
    rfl
  · split
    · next hlarge hmiddle =>
        rw [leading_two (by omega), continuation_byte, hword]
    · next hlarge =>
        rw [if_pos (by omega), leading_three (by omega), continuation_byte, continuation_byte,
          shiftRight_six, hword]

/-- One escape of a unit beyond ASCII and two bytes takes three. -/
theorem length_encodeUtf8 {value : Nat} (hlarge : 0x7ff < value) (hlt : value < 0x10000) :
    (encodeUtf8 value.toUInt32).length = 3 := by
  have hword : value.toUInt32.toNat = value := by
    rw [Nat.toUInt32_eq, UInt32.toNat_ofNat']
    exact Nat.mod_eq_of_lt (by omega)
  have htwo : ¬value.toUInt32 ≤ 0x7ff := by
    rw [UInt32.le_iff_toNat_le, hword]
    exact not_le.mpr hlarge
  have hone : ¬value.toUInt32 ≤ 0x7f := by
    rw [UInt32.le_iff_toNat_le, hword]
    exact not_le.mpr (lt_trans (by decide) hlarge)
  rw [encodeUtf8, if_neg hone, if_neg htwo]
  rfl

/-! ## The parser on a literal -/

theorem hexValue_byte (digit : HexDigit) : hexValue digit.byte = some digit.value.val.toUInt32 := by
  obtain ⟨value, upper⟩ := digit
  revert value upper
  decide

/-- A digit shifts what was read before it. -/
theorem shift_digit (value digit : Nat) :
    (value.toUInt32 <<< 4) + digit.toUInt32 = (value * 16 + digit).toUInt32 := by
  apply UInt32.toNat_inj.mp
  have hshift : (value.toUInt32 <<< 4).toNat = value * 16 % 2 ^ 32 := by
    rw [UInt32.toNat_shiftLeft, Nat.toUInt32_eq, UInt32.toNat_ofNat']
    show (value % 2 ^ 32) <<< 4 % 2 ^ 32 = _
    rw [Nat.shiftLeft_eq]
    omega
  rw [UInt32.toNat_add, hshift, Nat.toUInt32_eq, Nat.toUInt32_eq, UInt32.toNat_ofNat',
    UInt32.toNat_ofNat']
  omega

theorem unicodeEscape_unit (escape : UnicodeEscape) :
    unicodeEscape [escape.first.byte, escape.second.byte, escape.third.byte, escape.fourth.byte] 0 =
      .ok escape.unit.toUInt32 := by
  have hzero : (0 : UInt32) = Nat.toUInt32 0 := rfl
  simp only [unicodeEscape, hexValue_byte]
  rw [hzero, shift_digit, shift_digit, shift_digit, shift_digit, Nat.zero_mul, Nat.zero_add]
  rfl

/-- A byte that stands for itself in a literal. -/
def IsPlain (ch : UInt8) : Prop := ch ≠ quote ∧ ch ≠ backslash ∧ ¬ch < 0x20

theorem parseStringLoop_plain (out rest : Bytes) {bytes : Bytes} (hplain : ∀ ch ∈ bytes, IsPlain ch) :
    parseStringLoop out (bytes ++ rest) = parseStringLoop (out ++ bytes) rest := by
  induction bytes generalizing out with
  | nil => rw [List.nil_append, List.append_nil]
  | cons ch bytes ih =>
      obtain ⟨⟨hquote, hbackslash, hcontrol⟩, htail⟩ := List.forall_mem_cons.mp hplain
      rw [List.cons_append, parseStringLoop.eq_def]
      dsimp only
      rw [if_neg hquote, if_neg hcontrol, if_pos hbackslash, ih _ htail, List.append_assoc,
        List.singleton_append]

theorem isPlain_ofNat {code : Nat} (hcode : code < 0x100) (hquote : code ≠ 0x22)
    (hbackslash : code ≠ 0x5c) (hcontrol : 0x20 ≤ code) : IsPlain (UInt8.ofNat code) := by
  have hbyte : (UInt8.ofNat code).toNat = code := by
    rw [UInt8.toNat_ofNat']
    exact Nat.mod_eq_of_lt hcode
  refine ⟨fun heq => hquote ?_, fun heq => hbackslash ?_, ?_⟩
  · rw [← hbyte, heq]
    rfl
  · rw [← hbyte, heq]
    rfl
  · rw [UInt8.lt_iff_toNat_lt, hbyte]
    exact not_lt.mpr hcontrol

/-- The bytes of a character that may stand in a literal. -/
theorem isPlain_utf8 {char : Char} (hplain : char ≠ '"' ∧ char ≠ '\\' ∧ 0x20 ≤ char.toNat) :
    ∀ ch ∈ String.utf8EncodeChar char, IsPlain ch := by
  obtain ⟨hquote, hbackslash, hcontrol⟩ := hplain
  have hcode : ∀ other : Char, char ≠ other → char.val.toNat ≠ other.val.toNat :=
    fun other hother heq => hother (Char.ext (UInt32.toNat_inj.mp heq))
  have hhigh : ∀ low base, low < 0x40 → 0x80 ≤ base → base + 0x40 ≤ 0x100 →
      IsPlain (UInt8.ofNat (low + base)) := by
    intro low base hlow hbase hbound
    apply isPlain_ofNat <;> omega
  intro ch hch
  simp only [String.utf8EncodeChar] at hch
  split at hch
  · next hascii =>
      rw [List.mem_singleton.mp hch]
      exact isPlain_ofNat (by omega) (hcode '"' hquote) (hcode '\\' hbackslash) hcontrol
  · split at hch
    · simp only [List.mem_cons, List.not_mem_nil, or_false] at hch
      obtain rfl | rfl := hch
      · exact hhigh _ _ (by omega) (by decide) (by decide)
      · exact hhigh _ _ (by omega) (by decide) (by decide)
    · split at hch
      · simp only [List.mem_cons, List.not_mem_nil, or_false] at hch
        obtain rfl | rfl | rfl := hch
        · apply isPlain_ofNat <;> omega
        · exact hhigh _ _ (by omega) (by decide) (by decide)
        · exact hhigh _ _ (by omega) (by decide) (by decide)
      · simp only [List.mem_cons, List.not_mem_nil, or_false] at hch
        obtain rfl | rfl | rfl | rfl := hch
        · apply isPlain_ofNat <;> omega
        · exact hhigh _ _ (by omega) (by decide) (by decide)
        · exact hhigh _ _ (by omega) (by decide) (by decide)
        · exact hhigh _ _ (by omega) (by decide) (by decide)

theorem parseStringLoop_letter (out rest : Bytes) {escaped : UInt8} {char : Char}
    (hletter : (escaped, char) ∈ letterEscapes) :
    parseStringLoop out (backslash :: escaped :: rest) =
      parseStringLoop (out ++ String.utf8EncodeChar char) rest := by
  have hbyte : ∀ pair ∈ letterEscapes,
      ∃ byte, simpleEscape pair.1 = some byte ∧ String.utf8EncodeChar pair.2 = [byte] := by
    decide
  obtain ⟨byte, hescape, hutf8⟩ := hbyte _ hletter
  rw [parseStringLoop.eq_def]
  dsimp only
  rw [if_neg (by decide), if_neg (by decide), if_neg (by decide), hescape, hutf8]

theorem parseStringLoop_unit (out rest : Bytes) (escape : UnicodeEscape) :
    parseStringLoop out (escape.text ++ rest) =
      parseStringLoop (out ++ encodeUtf8 escape.unit.toUInt32) rest := by
  rw [UnicodeEscape.text, List.cons_append, List.cons_append, List.cons_append, List.cons_append,
    List.cons_append, List.cons_append, List.nil_append, parseStringLoop.eq_def]
  dsimp only
  rw [if_neg (by decide), if_neg (by decide), if_neg (by decide),
    show simpleEscape (ascii 'u') = none by decide]
  dsimp only
  rw [if_neg (by decide), unicodeEscape_unit]

/-- What the parser makes of an item: the halves of a pair are encoded one by one. -/
def LiteralItem.decoded : LiteralItem → Bytes
  | .pair high low _ _ => encodeUtf8 high.unit.toUInt32 ++ encodeUtf8 low.unit.toUInt32
  | item => String.utf8EncodeChar item.char

theorem parseStringLoop_item (out rest : Bytes) (item : LiteralItem) :
    parseStringLoop out (item.text ++ rest) = parseStringLoop (out ++ item.decoded) rest := by
  cases item with
  | raw char hplain => exact parseStringLoop_plain out rest (isPlain_utf8 hplain)
  | letter escaped char hletter => exact parseStringLoop_letter out rest hletter
  | unit escape hscalar =>
      rw [LiteralItem.text, parseStringLoop_unit, encodeUtf8_scalar escape.unit_lt hscalar]
      rfl
  | pair high low hhigh hlow =>
      rw [LiteralItem.text, List.append_assoc, parseStringLoop_unit, parseStringLoop_unit,
        List.append_assoc]
      rfl

theorem parseStringLoop_items (out rest : Bytes) (items : List LiteralItem) :
    parseStringLoop out (items.flatMap LiteralItem.text ++ ([quote] ++ rest)) =
      .ok (out ++ items.flatMap LiteralItem.decoded, rest) := by
  induction items generalizing out with
  | nil =>
      rw [List.flatMap_nil, List.flatMap_nil, List.nil_append, List.append_nil,
        List.singleton_append, parseStringLoop.eq_def]
      dsimp only
      rw [if_pos rfl]
  | cons item items ih =>
      rw [List.flatMap_cons, List.flatMap_cons, List.append_assoc, parseStringLoop_item, ih,
        List.append_assoc]

/-- Every literal is read, item by item. -/
theorem parseJson_literal (items : List LiteralItem) :
    parseJson (literalText items) = .ok (.string (items.flatMap LiteralItem.decoded)) := by
  have hstring : parseString (literalText items) =
      .ok (items.flatMap LiteralItem.decoded, []) := by
    unfold parseString literalText
    rw [List.append_assoc, List.singleton_append,
      bind_ok (show expect '"' (quote :: _) = _ from expect_cons '"')]
    exact parseStringLoop_items [] [] items
  have hvalue : ∀ fuel, parseValue (fuel + 1) (literalText items) =
      .ok (.string (items.flatMap LiteralItem.decoded), []) := by
    intro fuel
    change (parseString >>= fun text => pure (JsonValue.string text)) (literalText items) = _
    rw [bind_ok hstring]
    rfl
  unfold parseJson Parser.parse
  rw [Parser.bind_ok (hvalue _)]
  rfl

/-! ## What is decoded -/

theorem decoded_of_single {item : LiteralItem} (hsingle : item.isPair = false) :
    item.decoded = String.utf8EncodeChar item.char := by
  cases item with
  | raw char hplain => rfl
  | letter escaped char hletter => rfl
  | unit escape hscalar => rfl
  | pair high low hhigh hlow => cases hsingle

/-- A pair of surrogates comes out in six bytes, where its character has four. -/
theorem length_decoded_of_pair {item : LiteralItem} (hpair : item.isPair = true) :
    (String.utf8EncodeChar item.char).length < item.decoded.length := by
  cases item with
  | raw char hplain => cases hpair
  | letter escaped char hletter => cases hpair
  | unit escape hscalar => cases hpair
  | pair high low hhigh hlow =>
      have hfour := Char.utf8Size_le_four
        (LiteralItem.pair high low hhigh hlow).char
      rw [String.length_utf8EncodeChar, LiteralItem.decoded, List.length_append,
        length_encodeUtf8 (by omega) high.unit_lt, length_encodeUtf8 (by omega) low.unit_lt]
      omega

theorem length_denoted_le (item : LiteralItem) :
    (String.utf8EncodeChar item.char).length ≤ item.decoded.length := by
  cases hpair : item.isPair with
  | false => rw [decoded_of_single hpair]
  | true => exact (length_decoded_of_pair hpair).le

theorem length_denotedBytes_le (items : List LiteralItem) :
    (denotedBytes items).length ≤ (items.flatMap LiteralItem.decoded).length := by
  induction items with
  | nil => rfl
  | cons item items ih =>
      have hitem := length_denoted_le item
      rw [denotedBytes] at ih ⊢
      rw [List.flatMap_cons, List.flatMap_cons, List.length_append, List.length_append]
      omega

/-- The bytes are those denoted exactly when no item is a pair. -/
theorem decoded_eq_denoted_iff (items : List LiteralItem) :
    items.flatMap LiteralItem.decoded = denotedBytes items ↔
      ∀ item ∈ items, item.isPair = false := by
  induction items with
  | nil => simp [denotedBytes]
  | cons item items ih =>
      have htail := length_denotedBytes_le items
      rw [denotedBytes] at ih htail ⊢
      rw [List.flatMap_cons, List.flatMap_cons, List.forall_mem_cons, ← ih]
      constructor
      · intro heq
        have hlength := congrArg List.length heq
        rw [List.length_append, List.length_append] at hlength
        cases hpair : item.isPair with
        | false =>
            rw [decoded_of_single hpair] at heq
            exact ⟨rfl, List.append_cancel_left heq⟩
        | true =>
            have hlonger := length_decoded_of_pair hpair
            omega
      · rintro ⟨hsingle, heq⟩
        rw [decoded_of_single hsingle, heq]

/-- The value of a literal is the UTF-8 encoding of what it denotes. -/
def DecodesLiteral (items : List LiteralItem) : Prop :=
  parseJson (literalText items) = .ok (.string (denotedBytes items))

theorem decodes_literal_iff (items : List LiteralItem) :
    DecodesLiteral items ↔ ∀ item ∈ items, item.isPair = false := by
  rw [DecodesLiteral, parseJson_literal, ← decoded_eq_denoted_iff]
  constructor
  · intro hvalue
    injection hvalue with hvalue
    injection hvalue
  · exact fun heq => by rw [heq]

/-- The digits of U+1F3B5, a musical note. -/
def noteItem : LiteralItem :=
  .pair ⟨⟨13, false⟩, ⟨8, false⟩, ⟨3, false⟩, ⟨12, false⟩⟩
    ⟨⟨13, false⟩, ⟨15, false⟩, ⟨11, false⟩, ⟨5, false⟩⟩ (by decide) (by decide)

/-- The note comes out as two three-byte surrogates. -/
theorem pair_decoded_apart : ¬DecodesLiteral [noteItem] := by
  intro hdecodes
  rw [DecodesLiteral, parseJson_literal] at hdecodes
  injection hdecodes with hdecodes
  injection hdecodes with hdecodes
  revert hdecodes
  decide

end AudioStudio.Rpc
