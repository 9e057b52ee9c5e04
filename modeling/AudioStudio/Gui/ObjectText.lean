import AudioStudio.Gui.JsonSplice
import AudioStudio.Rpc.JsonRoundTrip

/-!
# Texts of JSON objects

The grammar of JSON texts with all their white space, what a counter of brackets sees of
them, and that the members of an object can be read off its text in one way only.
-/

namespace AudioStudio.Gui

open AudioStudio.LittleEndian
open AudioStudio.Rpc
open AudioStudio.Rpc.Parser

/-! ## Strings -/

/-- What stands between the quotes of a string. -/
inductive IsBody : Bytes → Prop
  | nil : IsBody []
  | plain {c : UInt8} {rest : Bytes} (hquote : c ≠ quote) (hbackslash : c ≠ backslash)
      (hcontrol : 0x20 ≤ c) (hrest : IsBody rest) : IsBody (c :: rest)
  | escape {c : UInt8} {rest : Bytes} (hescape : (simpleEscape c).isSome)
      (hrest : IsBody rest) : IsBody (backslash :: c :: rest)
  | unicode {digits rest : Bytes} (hlength : digits.length = 4)
      (hdigits : ∀ digit ∈ digits, (Rpc.hexValue digit).isSome) (hrest : IsBody rest) :
      IsBody (backslash :: ascii 'u' :: (digits ++ rest))

/-- A name that is written as it is. -/
def PlainName (name : Bytes) : Prop :=
  ∀ c ∈ name, c ≠ quote ∧ c ≠ backslash ∧ 0x20 ≤ c

variable {name : Bytes}

theorem PlainName.isBody (hname : PlainName name) : IsBody name := by
  induction name with
  | nil => exact .nil
  | cons c rest ih =>
      obtain ⟨hquote, hbackslash, hcontrol⟩ := hname c List.mem_cons_self
      exact .plain hquote hbackslash hcontrol
        (ih fun other hother => hname other (List.mem_cons_of_mem c hother))

/-- The UTF-16 unit of the digits of an escape. -/
def hexUnit (digits : Bytes) : UInt32 :=
  (unicodeEscape digits 0).toOption.getD 0

/-- The bytes of a string body and, behind backslashes, its UTF-16 units. -/
def bodyUnits : Bytes → List (UInt8 ⊕ UInt32)
  | c :: escaped :: rest =>
      if c ≠ backslash then .inl c :: bodyUnits (escaped :: rest)
      else match simpleEscape escaped, rest with
        | some byte, rest => .inl byte :: bodyUnits rest
        | none, first :: second :: third :: fourth :: rest =>
            .inr (hexUnit [first, second, third, fourth]) :: bodyUnits rest
        | none, _ => []
  | [c] => [.inl c]
  | [] => []

def isHighSurrogate (unit : UInt32) : Bool :=
  0xd800 ≤ unit ∧ unit < 0xdc00

def isLowSurrogate (unit : UInt32) : Bool :=
  0xdc00 ≤ unit ∧ unit < 0xe000

/-- The UTF-8 text of a pair of surrogates. -/
def encodePair (high low : UInt32) : Bytes :=
  let codepoint := (0x10000 : UInt32) + ((high - 0xd800) <<< 10) + (low - 0xdc00)
  [(0xf0 : UInt8) ||| (codepoint >>> 18).toUInt8,
    (0x80 : UInt8) ||| ((codepoint >>> 12) &&& 0x3f).toUInt8,
    (0x80 : UInt8) ||| ((codepoint >>> 6) &&& 0x3f).toUInt8,
    (0x80 : UInt8) ||| (codepoint &&& 0x3f).toUInt8]

def unitsText : List (UInt8 ⊕ UInt32) → Bytes
  | .inl byte :: rest => byte :: unitsText rest
  | .inr high :: .inr low :: rest =>
      if isHighSurrogate high ∧ isLowSurrogate low then encodePair high low ++ unitsText rest
      else encodeUtf8 high ++ unitsText (.inr low :: rest)
  | .inr unit :: rest => encodeUtf8 unit ++ unitsText rest
  | [] => []

/-- The string that a body stands for. -/
def unescape (body : Bytes) : Bytes :=
  unitsText (bodyUnits body)

theorem bodyUnits_plain (hname : PlainName name) : bodyUnits name = name.map .inl := by
  induction name with
  | nil => rfl
  | cons c rest ih =>
      have hrest := ih fun other hother => hname other (List.mem_cons_of_mem c hother)
      cases rest with
      | nil => rfl
      | cons next rest =>
          unfold bodyUnits
          rw [if_pos (hname c List.mem_cons_self).2.1, hrest]
          rfl

theorem unitsText_bytes (bytes : Bytes) : unitsText (bytes.map .inl) = bytes := by
  induction bytes with
  | nil => rfl
  | cons byte bytes ih => exact congrArg (byte :: ·) ih

theorem unescape_plain (hname : PlainName name) : unescape name = name := by
  rw [unescape, bodyUnits_plain hname, unitsText_bytes]

/-! ## Values -/

def Blanks (text : Bytes) : Prop :=
  ∀ c ∈ text, isBlank c = true

/-- A value between the white space around it. -/
structure JsonItem where
  before : Bytes := []
  value : Bytes
  after : Bytes := []
  deriving DecidableEq, Repr

def JsonItem.text (item : JsonItem) : Bytes :=
  item.before ++ (item.value ++ item.after)

/-- A member of an object: its name as it is written, and its value. -/
structure JsonMember extends JsonItem where
  lead : Bytes := []
  name : Bytes
  behind : Bytes := []
  deriving DecidableEq, Repr

def JsonMember.text (member : JsonMember) : Bytes :=
  member.lead ++ (quoted member.name ++ (member.behind ++ ascii ':' :: member.toJsonItem.text))

structure JsonItem.Spaced (item : JsonItem) : Prop where
  before : Blanks item.before
  after : Blanks item.after

structure JsonMember.Spaced (member : JsonMember) : Prop where
  lead : Blanks member.lead
  name : IsBody member.name
  behind : Blanks member.behind
  item : member.toJsonItem.Spaced

/-- Parts that follow one another, each behind a comma. -/
def following (parts : List Bytes) : Bytes :=
  parts.flatMap (ascii ',' :: ·)

/-- Parts that are each followed by a comma. -/
def leading (parts : List Bytes) : Bytes :=
  parts.flatMap (· ++ [ascii ','])

def commaJoined : List Bytes → Bytes
  | [] => []
  | part :: parts => part ++ following parts

/-- The texts of JSON values. -/
inductive IsValue : Bytes → Prop
  | literal {text : Bytes}
      (hliteral : text ∈ [asciiBytes "null", asciiBytes "true", asciiBytes "false"]) : IsValue text
  | number {text : Bytes} (hnumber : IsNumber text) : IsValue text
  | string {body : Bytes} (hbody : IsBody body) : IsValue (quoted body)
  | emptyArray {blanks : Bytes} (hblanks : Blanks blanks) :
      IsValue (ascii '[' :: (blanks ++ [ascii ']']))
  | array {items : List JsonItem} (hne : items ≠ []) (hspaced : ∀ item ∈ items, item.Spaced)
      (hvalues : ∀ item ∈ items, IsValue item.value) :
      IsValue (ascii '[' :: (commaJoined (items.map JsonItem.text) ++ [ascii ']']))
  | emptyObject {blanks : Bytes} (hblanks : Blanks blanks) :
      IsValue (ascii '{' :: (blanks ++ [ascii '}']))
  | object {members : List JsonMember} (hne : members ≠ [])
      (hspaced : ∀ member ∈ members, member.Spaced)
      (hvalues : ∀ member ∈ members, IsValue member.value) :
      IsValue (ascii '{' :: (commaJoined (members.map JsonMember.text) ++ [ascii '}']))

/-- The text of an object with the white space around it, and within it where it has no
members. -/
structure ObjectText where
  lead : Bytes := []
  blanks : Bytes := []
  members : List JsonMember
  trail : Bytes := []
  deriving DecidableEq, Repr

def ObjectText.text (object : ObjectText) : Bytes :=
  object.lead ++ ascii '{' :: (object.blanks ++
    (commaJoined (object.members.map JsonMember.text) ++ ascii '}' :: object.trail))

structure ObjectText.Valid (object : ObjectText) : Prop where
  lead : Blanks object.lead
  blanks : Blanks object.blanks
  trail : Blanks object.trail
  inner : object.members ≠ [] → object.blanks = []
  spaced : ∀ member ∈ object.members, member.Spaced
  values : ∀ member ∈ object.members, IsValue member.value

/-- The name of a member and the text of its value. -/
def JsonMember.entry (member : JsonMember) : Bytes × Bytes :=
  (unescape member.name, member.value)

def ObjectText.entries (object : ObjectText) : List (Bytes × Bytes) :=
  object.members.map JsonMember.entry

def ObjectText.names (object : ObjectText) : List Bytes :=
  object.members.map fun member => unescape member.name

/-! ## Lists of parts -/

theorem following_eq {parts : List Bytes} (hne : parts ≠ []) :
    following parts = ascii ',' :: commaJoined parts := by
  cases parts with
  | nil => exact absurd rfl hne
  | cons part parts => rfl

theorem commaJoined_append (before : List Bytes) (part : Bytes) (after : List Bytes) :
    commaJoined (before ++ part :: after) = leading before ++ (part ++ following after) := by
  induction before with
  | nil => rfl
  | cons first before ih =>
      have hjoined : commaJoined (first :: before ++ part :: after) =
          first ++ following (before ++ part :: after) := rfl
      have hleading : leading (first :: before) = first ++ ascii ',' :: leading before := by
        change (first ++ [ascii ',']) ++ leading before = _
        rw [List.append_assoc, List.singleton_append]
      rw [hjoined, following_eq (by simp), ih, hleading, List.append_assoc, List.cons_append]

/-! ## Scalars -/

/-- The characters of numbers and of `null`, `true` and `false`. -/
def isScalarChar (c : UInt8) : Bool :=
  isAlnum c ∨ c = ascii '+' ∨ c = ascii '-' ∨ c = ascii '.'

theorem isScalarChar_of_isDigit {c : UInt8} (hdigit : isDigit c = true) :
    isScalarChar c = true := by
  simp only [isDigit, decide_eq_true_eq] at hdigit
  simp only [isScalarChar, isAlnum, decide_eq_true_eq]
  exact Or.inl (Or.inr (Or.inr hdigit))

theorem ne_of_isScalarChar {c other : UInt8} (hscalar : isScalarChar c = true)
    (hother : isScalarChar other = false) : c ≠ other := by
  rintro rfl
  exact absurd (hscalar.symm.trans hother) (by decide)

structure IsScalar (text : Bytes) : Prop where
  ne_nil : text ≠ []
  chars : ∀ c ∈ text, isScalarChar c = true

theorem isScalar_literal {text : Bytes}
    (hliteral : text ∈ [asciiBytes "null", asciiBytes "true", asciiBytes "false"]) :
    IsScalar text := by
  have hall : ∀ literal ∈ [asciiBytes "null", asciiBytes "true", asciiBytes "false"],
      literal ≠ [] ∧ ∀ c ∈ literal, isScalarChar c = true := by decide +kernel
  exact ⟨(hall text hliteral).1, (hall text hliteral).2⟩

theorem isScalar_number {text : Bytes} (hnumber : IsNumber text) : IsScalar text := by
  obtain ⟨sign, integer, fraction, exponent, hsign, hinteger, hfraction, hexponent, rfl⟩ := hnumber
  have hdigits : ∀ {digits : Bytes}, IsDigits digits → ∀ c ∈ digits, isScalarChar c = true :=
    fun hdigits c hc => isScalarChar_of_isDigit (hdigits.2 c hc)
  have hne : integer ≠ [] := by
    rcases hinteger with rfl | ⟨⟨hne, _⟩, _⟩
    · exact List.cons_ne_nil _ _
    · exact hne
  constructor
  · intro hnil
    rw [List.append_eq_nil_iff, List.append_eq_nil_iff] at hnil
    exact hne hnil.2.1
  · intro c hc
    rw [List.mem_append, List.mem_append, List.mem_append] at hc
    rcases hc with hc | hc | hc | hc
    · rcases hsign with rfl | rfl
      · exact absurd hc List.not_mem_nil
      · rw [List.mem_singleton.mp hc]
        decide
    · rcases hinteger with rfl | ⟨hinteger, _⟩
      · rw [List.mem_singleton.mp hc]
        decide
      · exact hdigits hinteger c hc
    · rcases hfraction with rfl | ⟨digits, hfraction, rfl⟩
      · exact absurd hc List.not_mem_nil
      · rcases List.mem_cons.mp hc with rfl | hc
        · decide
        · exact hdigits hfraction c hc
    · rcases hexponent with rfl | ⟨mark, sign, digits, hmark, hsign, hexponent, rfl⟩
      · exact absurd hc List.not_mem_nil
      · rw [List.mem_cons, List.mem_append] at hc
        rcases hc with rfl | hc | hc
        · rcases hmark with rfl | rfl <;> decide
        · rcases hsign with rfl | rfl | rfl
          · exact absurd hc List.not_mem_nil
          · rw [List.mem_singleton.mp hc]
            decide
          · rw [List.mem_singleton.mp hc]
            decide
        · exact hdigits hexponent c hc

end AudioStudio.Gui
