import AudioStudio.Rpc.JsonValue
import Mathlib.Data.Nat.Digits.Lemmas

/-!
# JSON round trip

The parser inverts the printer: strings by their characters, numbers by the parts
of the grammar, values by mutual induction with the lists inside them.  A number
ends only before a character that cannot continue it.
-/

namespace AudioStudio.Rpc

open AudioStudio.LittleEndian

namespace Parser

variable {α β : Type} {reader : JsonReader α} {next : α → JsonReader β} {value : α}
  {input rest : Bytes}

theorem bind_ok (hreader : reader input = .ok (value, rest)) :
    (reader >>= next) input = next value rest := by
  change (reader input >>= fun read => next read.1 read.2) = next value rest
  rw [hreader]
  rfl

/-- What a sequence returned, its first part had left for the second. -/
theorem of_bind_ok {result : β} {tail : Bytes}
    (hbind : (reader >>= next) input = .ok (result, tail)) :
    ∃ value rest, reader input = .ok (value, rest) ∧ next value rest = .ok (result, tail) := by
  change (reader input >>= fun read => next read.1 read.2) = _ at hbind
  cases hreader : reader input with
  | error fault =>
      rw [hreader] at hbind
      cases hbind
  | ok read =>
      rw [hreader] at hbind
      exact ⟨read.1, read.2, rfl, hbind⟩

/-! ## Single characters -/

variable {ch : UInt8}

theorem skipSpace_cons (hch : isSpace ch = false) :
    skipSpace (ch :: rest) = .ok ((), ch :: rest) := by
  unfold skipSpace
  rw [List.dropWhile_cons_of_neg (by rw [hch]; exact Bool.false_ne_true)]

@[simp] theorem consume_cons (ch : UInt8) : consume ch (ch :: rest) = .ok (true, rest) := by
  simp [consume]

theorem consume_cons_of_ne {expected : UInt8} (hne : ch ≠ expected) :
    consume expected (ch :: rest) = .ok (false, ch :: rest) := by
  simp [consume, hne]

@[simp] theorem expect_cons (expected : Char) :
    expect expected (ascii expected :: rest) = .ok ((), rest) := by
  unfold expect
  rw [bind_ok (consume_cons _)]
  rfl

/-! ## Strings -/

/-- The escape of a control character names it by two digits. -/
theorem unicodeEscape_control : ∀ code < 32,
    unicodeEscape [ascii '0', ascii '0', hexCharacter (Nat.toUInt8 code >>> 4),
      hexCharacter (Nat.toUInt8 code &&& 0x0f)] 0 = .ok (Nat.toUInt32 code) ∧
    encodeUtf8 (Nat.toUInt32 code) = [Nat.toUInt8 code] := by
  decide

/-- One printed character is read back. -/
theorem parseStringLoop_dumpCharacter (out : Bytes) (ch : UInt8) (rest : Bytes) :
    parseStringLoop out (dumpCharacter ch ++ rest) = parseStringLoop (out ++ [ch]) rest := by
  unfold dumpCharacter
  split
  · next hch => subst hch; rfl
  split
  · next hch => subst hch; rfl
  split
  · next hch => subst hch; rfl
  split
  · next hch => subst hch; rfl
  split
  · next hch => subst hch; rfl
  split
  · next hch => subst hch; rfl
  split
  · next hch => subst hch; rfl
  split
  · next hcontrol =>
      have hlt : ch.toNat < 32 := hcontrol
      obtain ⟨hescape, hutf8⟩ := unicodeEscape_control ch.toNat hlt
      rw [show Nat.toUInt8 ch.toNat = ch from UInt8.ofNat_toNat] at hescape hutf8
      rw [← hutf8]
      change parseStringLoop out (backslash :: ascii 'u' :: ascii '0' :: ascii '0' ::
        hexCharacter (ch >>> 4) :: hexCharacter (ch &&& 0x0f) :: rest) = _
      rw [parseStringLoop.eq_def]
      dsimp only
      rw [if_neg (by decide), if_neg (by decide), if_neg (by decide),
        show simpleEscape (ascii 'u') = none by decide]
      dsimp only
      rw [if_neg (by decide), hescape]
  · next hquote hbackslash _ _ _ _ _ hcontrol =>
      rw [List.singleton_append, parseStringLoop.eq_def]
      dsimp only
      rw [if_neg hquote, if_neg hcontrol, if_pos hbackslash]

theorem parseStringLoop_dump (out value rest : Bytes) :
    parseStringLoop out (value.flatMap dumpCharacter ++ ([quote] ++ rest)) =
      .ok (out ++ value, rest) := by
  induction value generalizing out with
  | nil =>
      rw [List.flatMap_nil, List.nil_append, List.singleton_append, parseStringLoop.eq_def,
        List.append_nil]
      dsimp only
      rw [if_pos rfl]
  | cons ch value ih =>
      rw [List.flatMap_cons, List.append_assoc, parseStringLoop_dumpCharacter, ih,
        List.append_assoc, List.singleton_append]

theorem parseString_dumpString (value rest : Bytes) :
    parseString (dumpString value ++ rest) = .ok (value, rest) := by
  unfold parseString dumpString
  rw [List.append_assoc, List.append_assoc, List.singleton_append]
  rw [bind_ok (show expect '"' (quote :: _) = _ from expect_cons '"'), parseStringLoop_dump,
    List.nil_append]

/-! ## Numbers -/

/-- What stands behind a number does not continue it. -/
def EndsNumber (rest : Bytes) : Prop :=
  ∀ ch ∈ rest.head?, isDigit ch = false ∧ ch ≠ ascii '.' ∧ ch ≠ ascii 'e' ∧ ch ≠ ascii 'E'

/-- A run of digits that is not empty. -/
def IsDigits (digits : Bytes) : Prop :=
  digits ≠ [] ∧ ∀ ch ∈ digits, isDigit ch = true

def IsSign (sign : Bytes) : Prop :=
  sign = [] ∨ sign = [ascii '-']

/-- `0`, or digits that do not begin with a zero. -/
def IsInteger (integer : Bytes) : Prop :=
  integer = [ascii '0'] ∨ IsDigits integer ∧ integer.head? ≠ some (ascii '0')

def IsFraction (fraction : Bytes) : Prop :=
  fraction = [] ∨ ∃ digits, IsDigits digits ∧ fraction = ascii '.' :: digits

def IsExponent (exponent : Bytes) : Prop :=
  exponent = [] ∨ ∃ mark sign digits, (mark = ascii 'e' ∨ mark = ascii 'E') ∧
    (sign = [] ∨ sign = [ascii '+'] ∨ sign = [ascii '-']) ∧ IsDigits digits ∧
    exponent = mark :: (sign ++ digits)

/-- The JSON number grammar. -/
def IsNumber (scalar : Bytes) : Prop :=
  ∃ sign integer fraction exponent, IsSign sign ∧ IsInteger integer ∧ IsFraction fraction ∧
    IsExponent exponent ∧ scalar = sign ++ (integer ++ (fraction ++ exponent))

theorem decimalText_head {number : Nat} (hnumber : number ≠ 0) :
    (decimalText number).head? ≠ some (ascii '0') := by
  have hdigits : Nat.digits 10 number ≠ [] := Nat.digits_ne_nil_iff_ne_zero.mpr hnumber
  have hlast := Nat.getLast_digit_ne_zero 10 hnumber
  have hlt := Nat.digits_lt_base (by decide) (List.getLast_mem hdigits)
  unfold decimalText
  rw [if_neg hnumber, List.head?_map, List.head?_reverse, List.getLast?_eq_some_getLast hdigits]
  intro hzero
  have hbyte : 0x30 + ((Nat.digits 10 number).getLast hdigits).toUInt8 = ascii '0' :=
    Option.some.inj hzero
  have hvalue := digit_sub_zero _ hlt
  rw [hbyte] at hvalue
  exact hlast hvalue.symm

theorem isInteger_decimalText (number : Nat) : IsInteger (decimalText number) := by
  by_cases hnumber : number = 0
  · exact Or.inl (by rw [hnumber]; rfl)
  · exact Or.inr ⟨⟨decimalText_ne_nil number, fun ch hch => isDigit_of_mem_decimalText hch⟩,
      decimalText_head hnumber⟩

/-- The text of an unsigned number is a number. -/
theorem isNumber_decimalText (number : Nat) : IsNumber (decimalText number) :=
  ⟨[], decimalText number, [], [], Or.inl rfl, isInteger_decimalText number, Or.inl rfl,
    Or.inl rfl, by simp⟩

theorem consume_of_head (hhead : ∀ first ∈ input.head?, first ≠ ch) :
    consume ch input = .ok (false, input) := by
  cases input with
  | nil => rfl
  | cons first rest => exact consume_cons_of_ne (hhead first rfl)

theorem consumeDigits_append {message : String} {digits : Bytes} (hdigits : IsDigits digits)
    (hrest : ∀ ch ∈ rest.head?, isDigit ch = false) :
    consumeDigits message (digits ++ rest) = .ok ((), rest) := by
  have hstop : rest.takeWhile (isDigit ·) = [] ∧ rest.dropWhile (isDigit ·) = rest := by
    cases rest with
    | nil => exact ⟨rfl, rfl⟩
    | cons ch rest =>
        have hch : ¬ isDigit ch = true := by rw [hrest ch rfl]; exact Bool.false_ne_true
        exact ⟨List.takeWhile_cons_of_neg hch, List.dropWhile_cons_of_neg hch⟩
  unfold consumeDigits
  rw [List.takeWhile_append_of_pos hdigits.2, List.dropWhile_append_of_pos hdigits.2, hstop.1,
    hstop.2, List.append_nil, if_neg hdigits.1]

theorem isDigit_head {digits : Bytes} (hdigits : IsDigits digits) (rest : Bytes) :
    ∃ ch tail, digits ++ rest = ch :: tail ∧ isDigit ch = true := by
  obtain ⟨hne, hall⟩ := hdigits
  cases digits with
  | nil => exact absurd rfl hne
  | cons ch digits => exact ⟨ch, digits ++ rest, rfl, hall ch List.mem_cons_self⟩

/-- Digits are none of the other characters of the grammar. -/
theorem ne_of_isDigit (hch : isDigit ch = true) {other : UInt8} (hother : isDigit other = false) :
    ch ≠ other := by
  rintro rfl
  rw [hch] at hother
  cases hother

theorem consumeEither_cons {first second : UInt8} (hch : ch = first ∨ ch = second) :
    consumeEither first second (ch :: rest) = .ok (true, rest) := by
  unfold consumeEither
  by_cases hfirst : ch = first
  · subst hfirst
    rw [bind_ok (consume_cons ch)]
    rfl
  · have hsecond : ch = second := hch.resolve_left hfirst
    subst hsecond
    rw [bind_ok (consume_cons_of_ne hfirst)]
    exact consume_cons ch

theorem consumeEither_of_head {first second : UInt8}
    (hhead : ∀ ch ∈ input.head?, ch ≠ first ∧ ch ≠ second) :
    consumeEither first second input = .ok (false, input) := by
  unfold consumeEither
  rw [bind_ok (consume_of_head fun ch hch => (hhead ch hch).1)]
  exact consume_of_head fun ch hch => (hhead ch hch).2

variable {exponent : Bytes}

theorem skipExponent_append (hexponent : IsExponent exponent) (hrest : EndsNumber rest) :
    skipExponent (exponent ++ rest) = .ok ((), rest) := by
  unfold skipExponent
  rcases hexponent with rfl | ⟨mark, sign, digits, hmark, hsign, hdigits, rfl⟩
  · rw [List.nil_append, bind_ok (consumeEither_of_head fun ch hch => (hrest ch hch).2.2)]
    rfl
  · have hend : ∀ ch ∈ rest.head?, isDigit ch = false := fun ch hch => (hrest ch hch).1
    rw [List.cons_append, bind_ok (consumeEither_cons hmark), if_pos rfl, List.append_assoc]
    rcases hsign with rfl | hsign
    · obtain ⟨ch, tail, hhead, hch⟩ := isDigit_head hdigits rest
      have hnone : ∀ first ∈ (digits ++ rest).head?, first ≠ ascii '+' ∧ first ≠ ascii '-' := by
        rw [hhead]
        rintro first ⟨rfl⟩
        exact ⟨ne_of_isDigit hch (by decide), ne_of_isDigit hch (by decide)⟩
      rw [List.nil_append, bind_ok (consumeEither_of_head hnone)]
      exact consumeDigits_append hdigits hend
    · have hcons : ∃ ch, sign = [ch] ∧ (ch = ascii '+' ∨ ch = ascii '-') := by
        rcases hsign with rfl | rfl
        · exact ⟨_, rfl, Or.inl rfl⟩
        · exact ⟨_, rfl, Or.inr rfl⟩
      obtain ⟨ch, rfl, hch⟩ := hcons
      rw [List.singleton_append, bind_ok (consumeEither_cons hch)]
      exact consumeDigits_append hdigits hend

/-- The first character of an exponent, or of what stands behind the number. -/
theorem exponent_head (hexponent : IsExponent exponent) (hrest : EndsNumber rest) :
    ∀ ch ∈ (exponent ++ rest).head?, isDigit ch = false ∧ ch ≠ ascii '.' := by
  rcases hexponent with rfl | ⟨mark, sign, digits, hmark, _, _, rfl⟩
  · exact fun ch hch => ⟨(hrest ch hch).1, (hrest ch hch).2.1⟩
  · rintro ch ⟨rfl⟩
    rcases hmark with rfl | rfl <;> decide

theorem skipFraction_append {fraction : Bytes} (hfraction : IsFraction fraction)
    (hexponent : IsExponent exponent) (hrest : EndsNumber rest) :
    skipFraction (fraction ++ (exponent ++ rest)) = .ok ((), rest) := by
  have hhead := exponent_head hexponent hrest
  unfold skipFraction
  rcases hfraction with rfl | ⟨digits, hdigits, rfl⟩
  · rw [List.nil_append, bind_ok (consume_of_head fun ch hch => (hhead ch hch).2)]
    exact skipExponent_append hexponent hrest
  · rw [List.cons_append, bind_ok (consume_cons _), if_pos rfl,
      bind_ok (consumeDigits_append hdigits fun ch hch => (hhead ch hch).1)]
    exact skipExponent_append hexponent hrest

/-- The first character of a fraction, or of what stands behind it. -/
theorem fraction_head {fraction : Bytes} (hfraction : IsFraction fraction)
    (hexponent : IsExponent exponent) (hrest : EndsNumber rest) :
    ∀ ch ∈ (fraction ++ (exponent ++ rest)).head?, isDigit ch = false := by
  rcases hfraction with rfl | ⟨digits, _, rfl⟩
  · exact fun ch hch => (exponent_head hexponent hrest ch hch).1
  · rintro ch ⟨rfl⟩
    decide

theorem skipInteger_append {integer : Bytes} (hinteger : IsInteger integer)
    (hrest : ∀ ch ∈ rest.head?, isDigit ch = false) :
    skipInteger (integer ++ rest) = .ok ((), rest) := by
  unfold skipInteger
  rcases hinteger with rfl | ⟨hdigits, hzero⟩
  · rw [List.singleton_append, bind_ok (consume_cons _), if_pos rfl,
      bind_ok (show peek rest = .ok (rest.headD 0, rest) from rfl)]
    have hnext : isDigit (rest.headD 0) = false := by
      cases rest with
      | nil => decide
      | cons ch rest => exact hrest ch rfl
    rw [hnext]
    rfl
  · have hhead : ∀ ch ∈ (integer ++ rest).head?, ch ≠ ascii '0' := by
      obtain ⟨hne, _⟩ := hdigits
      cases integer with
      | nil => exact absurd rfl hne
      | cons first integer =>
          rintro ch ⟨rfl⟩ rfl
          exact hzero rfl
    rw [bind_ok (consume_of_head hhead)]
    exact consumeDigits_append hdigits hrest

theorem skipNumber_append {scalar : Bytes} (hscalar : IsNumber scalar) (hrest : EndsNumber rest) :
    skipNumber (scalar ++ rest) = .ok ((), rest) := by
  obtain ⟨sign, integer, fraction, exponent, hsign, hinteger, hfraction, hexponent, rfl⟩ := hscalar
  have hbody : (skipInteger >>= fun _ => skipFraction) (integer ++ (fraction ++ (exponent ++ rest))) =
      .ok ((), rest) := by
    rw [bind_ok (skipInteger_append hinteger (fraction_head hfraction hexponent hrest))]
    exact skipFraction_append hfraction hexponent hrest
  unfold skipNumber
  simp only [List.append_assoc]
  rcases hsign with rfl | rfl
  · have hhead : ∀ ch ∈ (integer ++ (fraction ++ (exponent ++ rest))).head?, ch ≠ ascii '-' := by
      rcases hinteger with rfl | ⟨hdigits, _⟩
      · rintro ch ⟨rfl⟩
        decide
      · obtain ⟨ch, tail, htext, hch⟩ := isDigit_head hdigits (fraction ++ (exponent ++ rest))
        rw [htext]
        rintro first ⟨rfl⟩
        exact ne_of_isDigit hch (by decide)
    rw [List.nil_append, bind_ok (consume_of_head hhead)]
    exact hbody
  · rw [List.singleton_append, bind_ok (consume_cons _)]
    exact hbody

theorem parseNumber_append {scalar : Bytes} (hscalar : IsNumber scalar) (hrest : EndsNumber rest) :
    parseNumber (scalar ++ rest) = .ok (.number scalar, rest) := by
  unfold parseNumber
  rw [skipNumber_append hscalar hrest]
  change Except.ok (JsonValue.number _, rest) = _
  rw [List.length_append, Nat.add_sub_cancel, List.take_left]

end Parser

/-! ## Well-formed values -/

/-- Induction with a hypothesis for each value inside an array or an object. -/
@[elab_as_elim]
theorem JsonValue.nestedInduction {motive : JsonValue → Prop} (null : motive .null)
    (bool : ∀ value, motive (.bool value)) (number : ∀ scalar, motive (.number scalar))
    (string : ∀ scalar, motive (.string scalar))
    (array : ∀ items, (∀ item ∈ items, motive item) → motive (.array items))
    (object : ∀ members : JsonMembers, (∀ member ∈ members, motive member.2) →
      motive (.object members))
    (value : JsonValue) : motive value :=
  @JsonValue.rec motive (fun items => ∀ item ∈ items, motive item)
    (fun members => ∀ member ∈ members, motive member.2) (fun member => motive member.2)
    null bool number string array object (by simp)
    (fun _ _ hitem hitems => List.forall_mem_cons.mpr ⟨hitem, hitems⟩) (by simp)
    (fun _ _ hmember hmembers => List.forall_mem_cons.mpr ⟨hmember, hmembers⟩)
    (fun _ _ hvalue => hvalue) value

/-- The keys of a map, each below the next. -/
def Ascending (members : JsonMembers) : Prop :=
  members.Pairwise fun first second => first.1 < second.1

mutual

/-- Numbers match the grammar, and objects are maps. -/
def JsonValue.WellFormed : JsonValue → Prop
  | .null | .bool _ | .string _ => True
  | .number scalar => Parser.IsNumber scalar
  | .array items => WellFormedItems items
  | .object members => Ascending members ∧ WellFormedMembers members

def WellFormedItems : List JsonValue → Prop
  | [] => True
  | item :: items => item.WellFormed ∧ WellFormedItems items

def WellFormedMembers : List (Bytes × JsonValue) → Prop
  | [] => True
  | (_, value) :: members => value.WellFormed ∧ WellFormedMembers members

end

variable {items : List JsonValue}

theorem wellFormedItems_iff : WellFormedItems items ↔ ∀ item ∈ items, item.WellFormed := by
  induction items with
  | nil => simp [WellFormedItems]
  | cons item items ih => simp [WellFormedItems, ih]

variable {members : JsonMembers}

theorem wellFormedMembers_iff :
    WellFormedMembers members ↔ ∀ member ∈ members, member.2.WellFormed := by
  induction members with
  | nil => simp [WellFormedMembers]
  | cons member members ih => simp [WellFormedMembers, ih]

mutual

/-- Numbers match the grammar; members may stand in any order. -/
def JsonValue.Spelled : JsonValue → Prop
  | .null | .bool _ | .string _ => True
  | .number scalar => Parser.IsNumber scalar
  | .array items => SpelledItems items
  | .object members => SpelledMembers members

def SpelledItems : List JsonValue → Prop
  | [] => True
  | item :: items => item.Spelled ∧ SpelledItems items

def SpelledMembers : List (Bytes × JsonValue) → Prop
  | [] => True
  | (_, value) :: members => value.Spelled ∧ SpelledMembers members

end

mutual

/-- What is read of a value as it is written: members go into a map one after another. -/
def JsonValue.asRead : JsonValue → JsonValue
  | .null => .null
  | .bool value => .bool value
  | .number scalar => .number scalar
  | .string scalar => .string scalar
  | .array items => .array (itemsAsRead items)
  | .object members => .object (membersAsRead [] members)

def itemsAsRead : List JsonValue → List JsonValue
  | [] => []
  | item :: items => item.asRead :: itemsAsRead items

def membersAsRead (before : JsonMembers) : List (Bytes × JsonValue) → JsonMembers
  | [] => before
  | (key, value) :: members => membersAsRead (emplace key value.asRead before) members

end

theorem spelledItems_iff : SpelledItems items ↔ ∀ item ∈ items, item.Spelled := by
  induction items with
  | nil => simp [SpelledItems]
  | cons item items ih => simp [SpelledItems, ih]

theorem spelledMembers_iff : SpelledMembers members ↔ ∀ member ∈ members, member.2.Spelled := by
  induction members with
  | nil => simp [SpelledMembers]
  | cons member members ih => simp [SpelledMembers, ih]

theorem itemsAsRead_eq (items : List JsonValue) : itemsAsRead items = items.map JsonValue.asRead := by
  induction items with
  | nil => rfl
  | cons item items ih => rw [itemsAsRead, ih, List.map_cons]

variable {key : Bytes}

/-- A key behind all others is added at the end. -/
theorem emplace_last {value : JsonValue} (hlast : ∀ member ∈ members, member.1 < key) :
    emplace key value members = members ++ [(key, value)] := by
  induction members with
  | nil => rfl
  | cons member members ih =>
      obtain ⟨first, held⟩ := member
      have hfirst : first < key := hlast (first, held) List.mem_cons_self
      have hlt : ¬ key < first := fun hkey => List.lt_irrefl key (List.lt_trans hkey hfirst)
      have hne : key ≠ first := fun heq => List.lt_irrefl first (heq ▸ hfirst)
      rw [emplace, if_neg hlt, if_neg hne, ih fun other hother => hlast other (List.mem_cons_of_mem _ hother)]
      rfl

/-- A well-formed value is written as it is read. -/
theorem JsonValue.WellFormed.spelled {value : JsonValue} (hwf : value.WellFormed) :
    value.Spelled := by
  induction value using JsonValue.nestedInduction with
  | null => trivial
  | bool value => trivial
  | number scalar => exact hwf
  | string scalar => trivial
  | array items ih =>
      rw [JsonValue.WellFormed, wellFormedItems_iff] at hwf
      rw [JsonValue.Spelled, spelledItems_iff]
      exact fun item hitem => ih item hitem (hwf item hitem)
  | object members ih =>
      rw [JsonValue.WellFormed, wellFormedMembers_iff] at hwf
      rw [JsonValue.Spelled, spelledMembers_iff]
      exact fun member hmember => ih member hmember (hwf.2 member hmember)

theorem membersAsRead_ascending {before members : JsonMembers}
    (hascending : Ascending (before ++ members))
    (hmembers : ∀ member ∈ members, member.2.asRead = member.2) :
    membersAsRead before members = before ++ members := by
  induction members generalizing before with
  | nil => rw [membersAsRead, List.append_nil]
  | cons member members ih =>
      obtain ⟨key, value⟩ := member
      have hlast : emplace key value before = before ++ [(key, value)] :=
        emplace_last fun other hother =>
          (List.pairwise_append.mp hascending).2.2 other hother (key, value) List.mem_cons_self
      have hvalue : value.asRead = value := hmembers (key, value) List.mem_cons_self
      have hnext : Ascending (before ++ [(key, value)] ++ members) := by
        rw [List.append_assoc]
        exact hascending
      rw [membersAsRead, hvalue, hlast,
        ih hnext fun other hother => hmembers other (List.mem_cons_of_mem _ hother),
        List.append_assoc, List.singleton_append]

theorem JsonValue.WellFormed.asRead_eq {value : JsonValue} (hwf : value.WellFormed) :
    value.asRead = value := by
  induction value using JsonValue.nestedInduction with
  | null => rfl
  | bool value => rfl
  | number scalar => rfl
  | string scalar => rfl
  | array items ih =>
      rw [JsonValue.WellFormed, wellFormedItems_iff] at hwf
      rw [JsonValue.asRead, itemsAsRead_eq,
        List.map_congr_left fun item hitem => ih item hitem (hwf item hitem), List.map_id']
  | object members ih =>
      rw [JsonValue.WellFormed, wellFormedMembers_iff] at hwf
      rw [JsonValue.asRead, @membersAsRead_ascending [] members hwf.1 fun member hmember =>
        ih member hmember (hwf.2 member hmember), List.nil_append]

/-! ## The parser inverts the printer -/

namespace Parser

variable {rest : Bytes}

theorem number_head {scalar : Bytes} (hscalar : IsNumber scalar) :
    ∃ ch tail, scalar = ch :: tail ∧ (ch = ascii '-' ∨ isDigit ch = true) := by
  obtain ⟨sign, integer, fraction, exponent, hsign, hinteger, _, _, rfl⟩ := hscalar
  rcases hsign with rfl | rfl
  · rcases hinteger with rfl | ⟨hdigits, _⟩
    · exact ⟨_, _, rfl, Or.inr (by decide)⟩
    · obtain ⟨ch, tail, htext, hch⟩ := isDigit_head hdigits (fraction ++ exponent)
      exact ⟨ch, tail, htext, Or.inr hch⟩
  · exact ⟨_, _, rfl, Or.inl rfl⟩

/-- The first character of a printed value: no blank and no closing bracket. -/
theorem dump_head {value : JsonValue} (hvalue : value.Spelled) :
    ∃ ch tail, value.dump = ch :: tail ∧ isSpace ch = false ∧ ch ≠ ascii ']' := by
  cases value with
  | null => exact ⟨_, _, rfl, by decide⟩
  | bool value => cases value <;> exact ⟨_, _, rfl, by decide⟩
  | number scalar =>
      rw [JsonValue.Spelled] at hvalue
      obtain ⟨ch, tail, htext, hch⟩ := number_head hvalue
      refine ⟨ch, tail, htext, ?_⟩
      rcases hch with rfl | hch
      · decide
      · exact ⟨isSpace_of_isDigit hch, ne_of_isDigit hch (by decide)⟩
  | string scalar => exact ⟨_, _, rfl, by decide⟩
  | array items => cases items <;> exact ⟨_, _, rfl, by decide⟩
  | object members => cases members <;> exact ⟨_, _, rfl, by decide⟩

variable {fuel : Nat} {ch : UInt8}

theorem parseValue_number {tail : Bytes} (hch : ch = ascii '-' ∨ isDigit ch = true) :
    parseValue (fuel + 1) (ch :: tail) = parseNumber (ch :: tail) := by
  have hspace : isSpace ch = false := by
    rcases hch with rfl | hch
    · decide
    · exact isSpace_of_isDigit hch
  have hne : ∀ other, isDigit other = false → other ≠ ascii '-' → ch ≠ other := by
    intro other hother hsign
    rcases hch with rfl | hch
    · exact hsign.symm
    · exact ne_of_isDigit hch hother
  rw [parseValue, bind_ok (skipSpace_cons hspace), bind_ok (show current _ = .ok (some ch, _) from rfl)]
  dsimp only
  rw [if_neg (hne _ (by decide) (by decide)), if_neg (hne _ (by decide) (by decide)),
    if_neg (hne _ (by decide) (by decide)), if_neg (hne _ (by decide) (by decide)),
    if_neg (hne _ (by decide) (by decide)), if_neg (hne _ (by decide) (by decide)), if_pos hch]

/-- Enough fuel reads a printed value, and nothing behind it. -/
def Parses (value : JsonValue) : Prop :=
  ∀ fuel rest, value.WellFormed → value.dump.length < fuel → EndsNumber rest →
    parseValue fuel (value.dump ++ rest) = .ok (value, rest)

/-- So it is with a value whose members stand in any order. -/
def ReadsBack (value : JsonValue) : Prop :=
  ∀ fuel rest, value.Spelled → value.dump.length < fuel → EndsNumber rest →
    parseValue fuel (value.dump ++ rest) = .ok (value.asRead, rest)

theorem endsNumber_cons
    (hch : isDigit ch = false ∧ ch ≠ ascii '.' ∧ ch ≠ ascii 'e' ∧ ch ≠ ascii 'E') :
    EndsNumber (ch :: rest) := by
  rintro first ⟨rfl⟩
  exact hch

theorem parseElements_dump {item : JsonValue}
    (hparses : ∀ value ∈ item :: items, ReadsBack value ∧ value.Spelled)
    (hfuel : item.dump.length + (dumpItems items).length + 1 < fuel) :
    parseElements fuel (item.dump ++ (dumpItems items ++ ascii ']' :: rest)) =
      .ok (itemsAsRead (item :: items), rest) := by
  induction items generalizing item fuel with
  | nil =>
      obtain ⟨hitem, hwf⟩ := hparses item List.mem_cons_self
      cases fuel with
      | zero => exact absurd hfuel (Nat.not_lt_zero _)
      | succ fuel =>
          rw [parseElements, dumpItems, List.nil_append]
          rw [bind_ok (hitem fuel _ hwf (by omega) (endsNumber_cons (by decide))),
            bind_ok (skipSpace_cons (by decide)), bind_ok (consume_cons _)]
          rfl
  | cons next items ih =>
      obtain ⟨hitem, hwf⟩ := hparses item List.mem_cons_self
      have htail : ∀ value ∈ next :: items, ReadsBack value ∧ value.Spelled :=
        fun value hvalue => hparses value (List.mem_cons_of_mem item hvalue)
      rw [dumpItems] at hfuel ⊢
      simp only [List.length_append, List.length_singleton] at hfuel
      cases fuel with
      | zero => exact absurd hfuel (Nat.not_lt_zero _)
      | succ fuel =>
          simp only [List.append_assoc, List.cons_append, List.nil_append]
          rw [parseElements]
          rw [bind_ok (hitem fuel _ hwf (by omega) (endsNumber_cons (by decide))),
            bind_ok (skipSpace_cons (by decide)), bind_ok (consume_cons_of_ne (by decide)),
            if_neg Bool.false_ne_true, bind_ok (expect_cons ','), bind_ok (ih htail (by omega))]
          rfl

/-- One turn of the loop over members, up to the character behind the value. -/
theorem parseMembers_succ {value : JsonValue} {before : JsonMembers} {tail : Bytes}
    (hvalue : ReadsBack value) (hwf : value.Spelled) (hfuel : value.dump.length < fuel)
    (hspace : isSpace ch = false)
    (hend : isDigit ch = false ∧ ch ≠ ascii '.' ∧ ch ≠ ascii 'e' ∧ ch ≠ ascii 'E') :
    parseMembers (fuel + 1) before (dumpString key ++ ascii ':' :: (value.dump ++ ch :: tail)) =
      (consume (ascii '}') >>= fun close =>
        if close then return emplace key value.asRead before
        else do
          expect ','
          parseMembers fuel (emplace key value.asRead before)) (ch :: tail) := by
  rw [parseMembers, bind_ok (show skipSpace (dumpString key ++ _) = .ok ((), dumpString key ++ _) from
      skipSpace_cons (by decide)),
    bind_ok (show peek (dumpString key ++ _) = .ok (quote, dumpString key ++ _) from rfl),
    if_neg (not_not.mpr rfl), bind_ok (parseString_dumpString key _),
    bind_ok (skipSpace_cons (by decide)), bind_ok (expect_cons ':'),
    bind_ok (hvalue fuel _ hwf hfuel (endsNumber_cons hend)), bind_ok (skipSpace_cons hspace)]

theorem parseMembers_dump {value : JsonValue} {before : JsonMembers}
    (hparses : ∀ member ∈ (key, value) :: members, ReadsBack member.2 ∧ member.2.Spelled)
    (hfuel : value.dump.length + (dumpMembers members).length + 1 < fuel) :
    parseMembers fuel before (dumpString key ++ ascii ':' ::
        (value.dump ++ (dumpMembers members ++ ascii '}' :: rest))) =
      .ok (membersAsRead before ((key, value) :: members), rest) := by
  induction members generalizing key value before fuel with
  | nil =>
      have hvalue : ReadsBack value ∧ value.Spelled := hparses (key, value) List.mem_cons_self
      cases fuel with
      | zero => exact absurd hfuel (Nat.not_lt_zero _)
      | succ fuel =>
          rw [dumpMembers, List.nil_append, parseMembers_succ hvalue.1 hvalue.2 (by omega) (by decide)
            (by decide), bind_ok (consume_cons _), if_pos rfl]
          rfl
  | cons next members ih =>
      have hvalue : ReadsBack value ∧ value.Spelled := hparses (key, value) List.mem_cons_self
      obtain ⟨nextKey, nextValue⟩ := next
      have htail : ∀ member ∈ (nextKey, nextValue) :: members,
          ReadsBack member.2 ∧ member.2.Spelled :=
        fun member hmember => hparses member (List.mem_cons_of_mem _ hmember)
      rw [dumpMembers] at hfuel ⊢
      simp only [List.length_append, List.length_singleton] at hfuel
      cases fuel with
      | zero => exact absurd hfuel (Nat.not_lt_zero _)
      | succ fuel =>
          simp only [List.append_assoc, List.cons_append, List.nil_append]
          rw [parseMembers_succ hvalue.1 hvalue.2 (by omega) (by decide) (by decide),
            bind_ok (consume_cons_of_ne (by decide)), if_neg Bool.false_ne_true,
            bind_ok (expect_cons ','), ih htail (by omega)]
          rfl

theorem ReadsBack.of_succ {value : JsonValue}
    (hsucc : ∀ fuel rest, value.Spelled → value.dump.length ≤ fuel → EndsNumber rest →
      parseValue (fuel + 1) (value.dump ++ rest) = .ok (value.asRead, rest)) :
    ReadsBack value := by
  intro fuel rest hwf hfuel hrest
  cases fuel with
  | zero => exact absurd hfuel (Nat.not_lt_zero _)
  | succ fuel => exact hsucc fuel rest hwf (Nat.le_of_lt_succ hfuel) hrest

theorem readsBack (value : JsonValue) : ReadsBack value := by
  induction value using JsonValue.nestedInduction with
  | null => exact ReadsBack.of_succ fun _ _ _ _ _ => rfl
  | bool value => cases value <;> exact ReadsBack.of_succ fun _ _ _ _ _ => rfl
  | number scalar =>
      refine ReadsBack.of_succ fun fuel rest hwf _ hrest => ?_
      rw [JsonValue.Spelled] at hwf
      obtain ⟨ch, tail, rfl, hch⟩ := number_head hwf
      rw [JsonValue.dump, List.cons_append, parseValue_number hch, ← List.cons_append]
      exact parseNumber_append hwf hrest
  | string scalar =>
      refine ReadsBack.of_succ fun fuel rest _ _ _ => ?_
      rw [JsonValue.dump]
      change (parseString >>= fun text => pure (JsonValue.string text)) (dumpString scalar ++ rest) = _
      rw [bind_ok (parseString_dumpString scalar rest)]
      rfl
  | array items ih =>
      refine ReadsBack.of_succ fun fuel rest hwf hfuel hrest => ?_
      rw [JsonValue.Spelled, spelledItems_iff] at hwf
      cases items with
      | nil => rfl
      | cons item items =>
          have hparses : ∀ value ∈ item :: items, ReadsBack value ∧ value.Spelled :=
            fun value hvalue => ⟨ih value hvalue, hwf value hvalue⟩
          obtain ⟨ch, tail, hhead, hspace, hclose⟩ := dump_head (hwf item List.mem_cons_self)
          have hskip : ∀ rest, skipSpace (item.dump ++ rest) = .ok ((), item.dump ++ rest) := by
            intro rest
            rw [hhead]
            exact skipSpace_cons hspace
          have hopen : ∀ rest, consume (ascii ']') (item.dump ++ rest) =
              .ok (false, item.dump ++ rest) := by
            intro rest
            rw [hhead]
            exact consume_cons_of_ne hclose
          rw [JsonValue.dump] at hfuel ⊢
          simp only [List.length_append, List.length_singleton] at hfuel
          simp only [List.append_assoc, List.cons_append, List.nil_append]
          change (expect '[' >>= fun _ => skipSpace >>= fun _ => consume (ascii ']') >>= fun empty =>
            if empty then return JsonValue.array []
            else do
              let items ← parseElements fuel
              return JsonValue.array items) (ascii '[' :: _) = _
          rw [bind_ok (expect_cons '['), bind_ok (hskip _), bind_ok (hopen _),
            if_neg Bool.false_ne_true, bind_ok (parseElements_dump hparses (by omega))]
          rfl
  | object members ih =>
      refine ReadsBack.of_succ fun fuel rest hwf hfuel hrest => ?_
      rw [JsonValue.Spelled, spelledMembers_iff] at hwf
      cases members with
      | nil => rfl
      | cons member members =>
          have hparses : ∀ other ∈ member :: members, ReadsBack other.2 ∧ other.2.Spelled :=
            fun other hother => ⟨ih other hother, hwf other hother⟩
          obtain ⟨key, value⟩ := member
          rw [JsonValue.dump] at hfuel ⊢
          simp only [List.length_append, List.length_singleton] at hfuel
          simp only [List.append_assoc, List.cons_append, List.nil_append]
          change (expect '{' >>= fun _ => skipSpace >>= fun _ => consume (ascii '}') >>= fun empty =>
            if empty then return JsonValue.object []
            else do
              let members ← parseMembers fuel []
              return JsonValue.object members) (ascii '{' :: (dumpString key ++ _)) = _
          rw [bind_ok (expect_cons '{'),
            bind_ok (show skipSpace (dumpString key ++ _) = .ok ((), dumpString key ++ _) from
              skipSpace_cons (by decide)),
            bind_ok (show consume (ascii '}') (dumpString key ++ _) =
              .ok (false, dumpString key ++ _) from consume_cons_of_ne (by decide)),
            if_neg Bool.false_ne_true, bind_ok (parseMembers_dump hparses (by omega))]
          rfl

end Parser

/-- A text that is spelled is read, its members in the order of their keys. -/
theorem parseJson_spelled {value : JsonValue} (hspelled : value.Spelled) :
    parseJson value.dump = .ok value.asRead := by
  have hvalue := Parser.readsBack value (2 * value.dump.length + 1) [] hspelled (by omega) nofun
  rw [List.append_nil] at hvalue
  unfold parseJson Parser.parse
  rw [Parser.bind_ok hvalue]
  rfl

theorem parseJson_dump {value : JsonValue} (hwf : value.WellFormed) :
    parseJson value.dump = .ok value := by
  rw [parseJson_spelled hwf.spelled, hwf.asRead_eq]

end AudioStudio.Rpc
