import AudioStudio.Rpc.JsonAccepted

/-!
# The JSON grammar

The grammar of JSON texts over what counts as whitespace, and the phrases of it that the
parser moves over.
-/

namespace AudioStudio.Rpc

open AudioStudio.LittleEndian

/-! ## The grammar -/

/-- The whitespace of JSON: space, tab, line feed and carriage return. -/
def isJsonSpace (ch : UInt8) : Bool :=
  ch = 0x20 ∨ ch = 0x09 ∨ ch = 0x0a ∨ ch = 0x0d

/-- The characters behind a backslash that stand for one character. -/
def escapedCharacters : Bytes :=
  [quote, backslash, ascii '/', ascii 'b', ascii 'f', ascii 'n', ascii 'r', ascii 't']

def IsHexDigit (ch : UInt8) : Prop :=
  isDigit ch = true ∨ ascii 'a' ≤ ch ∧ ch ≤ ascii 'f' ∨ ascii 'A' ≤ ch ∧ ch ≤ ascii 'F'

/-- What stands between the quotes of a string. -/
inductive Characters : Bytes → Prop where
  | nil : Characters []
  | plain {ch : UInt8} {chars : Bytes} (control : ¬ ch < 0x20) (notQuote : ch ≠ quote)
      (notBackslash : ch ≠ backslash) (tail : Characters chars) : Characters (ch :: chars)
  | escape {ch : UInt8} {chars : Bytes} (escaped : ch ∈ escapedCharacters)
      (tail : Characters chars) : Characters (backslash :: ch :: chars)
  | unicode {d₀ d₁ d₂ d₃ : UInt8} {chars : Bytes} (digits : ∀ ch ∈ [d₀, d₁, d₂, d₃], IsHexDigit ch)
      (tail : Characters chars) :
      Characters (backslash :: ascii 'u' :: d₀ :: d₁ :: d₂ :: d₃ :: chars)

def stringText (chars : Bytes) : Bytes := quote :: (chars ++ [quote])

/-- The phrases that contain each other. -/
inductive PhraseKind where
  | value
  | elements
  | members

/-- A value, the elements of an array with the whitespace around them, or the members of
an object with theirs. -/
inductive Phrase (isBlank : UInt8 → Bool) : PhraseKind → Bytes → Prop where
  | nullText : Phrase isBlank .value (asciiBytes "null")
  | trueText : Phrase isBlank .value (asciiBytes "true")
  | falseText : Phrase isBlank .value (asciiBytes "false")
  | number {scalar : Bytes} (number : Parser.IsNumber scalar) : Phrase isBlank .value scalar
  | string {chars : Bytes} (characters : Characters chars) :
      Phrase isBlank .value (stringText chars)
  | emptyArray {blank : Bytes} (hblank : ∀ ch ∈ blank, isBlank ch = true) :
      Phrase isBlank .value (ascii '[' :: (blank ++ [ascii ']']))
  | array {items : Bytes} (elements : Phrase isBlank .elements items) :
      Phrase isBlank .value (ascii '[' :: (items ++ [ascii ']']))
  | emptyObject {blank : Bytes} (hblank : ∀ ch ∈ blank, isBlank ch = true) :
      Phrase isBlank .value (ascii '\x7b' :: (blank ++ [ascii '\x7d']))
  | object {items : Bytes} (members : Phrase isBlank .members items) :
      Phrase isBlank .value (ascii '\x7b' :: (items ++ [ascii '\x7d']))
  | element {before value after : Bytes} (hbefore : ∀ ch ∈ before, isBlank ch = true)
      (item : Phrase isBlank .value value) (hafter : ∀ ch ∈ after, isBlank ch = true) :
      Phrase isBlank .elements (before ++ (value ++ after))
  | moreElements {before value after items : Bytes} (hbefore : ∀ ch ∈ before, isBlank ch = true)
      (item : Phrase isBlank .value value) (hafter : ∀ ch ∈ after, isBlank ch = true)
      (elements : Phrase isBlank .elements items) :
      Phrase isBlank .elements (before ++ (value ++ (after ++ ascii ',' :: items)))
  | member {before key middle between value after : Bytes}
      (hbefore : ∀ ch ∈ before, isBlank ch = true) (characters : Characters key)
      (hmiddle : ∀ ch ∈ middle, isBlank ch = true) (hbetween : ∀ ch ∈ between, isBlank ch = true)
      (item : Phrase isBlank .value value) (hafter : ∀ ch ∈ after, isBlank ch = true) :
      Phrase isBlank .members (before ++ (stringText key ++ (middle ++ ascii ':' ::
        (between ++ (value ++ after)))))
  | moreMembers {before key middle between value after items : Bytes}
      (hbefore : ∀ ch ∈ before, isBlank ch = true) (characters : Characters key)
      (hmiddle : ∀ ch ∈ middle, isBlank ch = true) (hbetween : ∀ ch ∈ between, isBlank ch = true)
      (item : Phrase isBlank .value value) (hafter : ∀ ch ∈ after, isBlank ch = true)
      (members : Phrase isBlank .members items) :
      Phrase isBlank .members (before ++ (stringText key ++ (middle ++ ascii ':' ::
        (between ++ (value ++ (after ++ ascii ',' :: items))))))

/-- A JSON text: one value with whitespace around it. -/
def IsJsonText (isBlank : UInt8 → Bool) (text : Bytes) : Prop :=
  ∃ before value after, (∀ ch ∈ before, isBlank ch = true) ∧ Phrase isBlank .value value ∧
    (∀ ch ∈ after, isBlank ch = true) ∧ text = before ++ (value ++ after)

/-! ## Whitespace of a text -/

variable {isBlank other : UInt8 → Bool} {kind : PhraseKind} {text : Bytes}

/-- Blanks that count in another grammar too. -/
theorem Phrase.mono (hphrase : Phrase isBlank kind text)
    (hblank : ∀ ch ∈ text, isBlank ch = true → other ch = true) : Phrase other kind text := by
  induction hphrase with
  | nullText => exact .nullText
  | trueText => exact .trueText
  | falseText => exact .falseText
  | number number => exact .number number
  | string characters => exact .string characters
  | emptyArray hall => exact .emptyArray fun ch hch => hblank ch (by simp [hch]) (hall ch hch)
  | array _ ih => exact .array (ih fun ch hch => hblank ch (by simp [hch]))
  | emptyObject hall => exact .emptyObject fun ch hch => hblank ch (by simp [hch]) (hall ch hch)
  | object _ ih => exact .object (ih fun ch hch => hblank ch (by simp [hch]))
  | element hbefore _ hafter ih =>
      exact .element (fun ch hch => hblank ch (by simp [hch]) (hbefore ch hch))
        (ih fun ch hch => hblank ch (by simp [hch]))
        (fun ch hch => hblank ch (by simp [hch]) (hafter ch hch))
  | moreElements hbefore _ hafter _ ih ihItems =>
      exact .moreElements (fun ch hch => hblank ch (by simp [hch]) (hbefore ch hch))
        (ih fun ch hch => hblank ch (by simp [hch]))
        (fun ch hch => hblank ch (by simp [hch]) (hafter ch hch))
        (ihItems fun ch hch => hblank ch (by simp [hch]))
  | member hbefore characters hmiddle hbetween _ hafter ih =>
      exact .member (fun ch hch => hblank ch (by simp [hch]) (hbefore ch hch)) characters
        (fun ch hch => hblank ch (by simp [hch]) (hmiddle ch hch))
        (fun ch hch => hblank ch (by simp [hch]) (hbetween ch hch))
        (ih fun ch hch => hblank ch (by simp [hch]))
        (fun ch hch => hblank ch (by simp [hch]) (hafter ch hch))
  | moreMembers hbefore characters hmiddle hbetween _ hafter _ ih ihItems =>
      exact .moreMembers (fun ch hch => hblank ch (by simp [hch]) (hbefore ch hch)) characters
        (fun ch hch => hblank ch (by simp [hch]) (hmiddle ch hch))
        (fun ch hch => hblank ch (by simp [hch]) (hbetween ch hch))
        (ih fun ch hch => hblank ch (by simp [hch]))
        (fun ch hch => hblank ch (by simp [hch]) (hafter ch hch))
        (ihItems fun ch hch => hblank ch (by simp [hch]))

/-! ## Accepted texts are in the grammar -/

namespace Parser

variable {input rest : Bytes}

theorem of_skipSpace {result : Unit} (hskip : skipSpace input = .ok (result, rest)) :
    ∃ blank, (∀ ch ∈ blank, isSpace ch = true) ∧ input = blank ++ rest := by
  cases hskip
  exact ⟨_, fun ch hch => List.mem_takeWhile_imp hch, List.takeWhile_append_dropWhile.symm⟩

theorem of_current {next : Option UInt8} (hcurrent : current input = .ok (next, rest)) :
    rest = input ∧ input.head? = next := by
  cases hcurrent
  exact ⟨rfl, rfl⟩

theorem of_peek {next : UInt8} (hpeek : peek input = .ok (next, rest)) : rest = input := by
  cases hpeek
  rfl

theorem of_expect {expected : Char} {result : Unit}
    (hexpect : expect expected input = .ok (result, rest)) : input = ascii expected :: rest := by
  obtain ⟨consumed, behind, hconsume, hexpect⟩ := of_bind_ok hexpect
  cases consumed with
  | false => cases hexpect
  | true =>
      cases hexpect
      exact of_consume_true hconsume

theorem text_of_parseLiteral {literal : Bytes} {value result : JsonValue}
    (hparse : parseLiteral literal value input = .ok (result, rest)) : input = literal ++ rest := by
  unfold parseLiteral at hparse
  split at hparse
  · next hliteral =>
      cases hparse
      obtain ⟨behind, rfl⟩ := List.isPrefixOf_iff_prefix.mp hliteral
      rw [List.drop_left]
  · cases hparse

theorem escaped_of_simpleEscape {ch byte : UInt8} (hescape : simpleEscape ch = some byte) :
    ch ∈ escapedCharacters := by
  unfold simpleEscape at hescape
  unfold escapedCharacters
  split_ifs at hescape <;> simp_all

theorem isHexDigit_of_hexValue {ch : UInt8} {digit : UInt32} (hvalue : hexValue ch = some digit) :
    IsHexDigit ch := by
  unfold hexValue at hvalue
  split at hvalue
  · next hdecimal => exact .inl (decide_eq_true hdecimal)
  split at hvalue
  · next hlower => exact .inr (.inl hlower)
  split at hvalue
  · next hupper => exact .inr (.inr hupper)
  · cases hvalue

theorem isHexDigit_of_unicodeEscape {digits : Bytes} {start codepoint : UInt32}
    (hescape : unicodeEscape digits start = .ok codepoint) : ∀ ch ∈ digits, IsHexDigit ch := by
  induction digits generalizing start with
  | nil => exact nofun
  | cons first digits ih =>
      unfold unicodeEscape at hescape
      split at hescape
      · next digit hvalue =>
          exact List.forall_mem_cons.mpr ⟨isHexDigit_of_hexValue hvalue, ih hescape⟩
      · cases hescape

theorem of_parseStringLoop (out input : Bytes) {text rest : Bytes}
    (hparse : parseStringLoop out input = .ok (text, rest)) :
    ∃ chars, Characters chars ∧ input = chars ++ quote :: rest := by
  fun_induction parseStringLoop out input with
  | case1 | case3 | case5 | case7 | case9 | case10 => cases hparse
  | case2 out behind =>
      cases hparse
      exact ⟨[], .nil, rfl⟩
  | case4 out ch behind hquote hcontrol hbackslash ih =>
      obtain ⟨chars, hchars, rfl⟩ := ih hparse
      exact ⟨ch :: chars, .plain hcontrol hquote hbackslash hchars, rfl⟩
  | case6 out ch hquote hcontrol hbackslash escaped behind byte hescape ih =>
      obtain ⟨chars, hchars, rfl⟩ := ih hparse
      rw [not_not.mp hbackslash]
      exact ⟨_, .escape (escaped_of_simpleEscape hescape) hchars, rfl⟩
  | case8 out ch hquote hcontrol hbackslash escaped hescape hu d₀ d₁ d₂ d₃ behind codepoint
      hcode ih =>
      obtain ⟨chars, hchars, rfl⟩ := ih hparse
      rw [not_not.mp hbackslash, not_not.mp hu]
      exact ⟨_, .unicode (isHexDigit_of_unicodeEscape hcode) hchars, rfl⟩

theorem of_parseString {text : Bytes} (hparse : parseString input = .ok (text, rest)) :
    ∃ chars, Characters chars ∧ input = stringText chars ++ rest := by
  obtain ⟨_, behind, hquote, hloop⟩ := of_bind_ok hparse
  obtain ⟨chars, hchars, rfl⟩ := of_parseStringLoop [] behind hloop
  refine ⟨chars, hchars, ?_⟩
  rw [of_expect hquote, stringText, List.cons_append, List.append_assoc]
  rfl

theorem of_parseNumber {value : JsonValue} (hparse : parseNumber input = .ok (value, rest)) :
    ∃ scalar, IsNumber scalar ∧ input = scalar ++ rest := by
  unfold parseNumber at hparse
  cases hskip : skipNumber input with
  | error fault =>
      rw [hskip] at hparse
      cases hparse
  | ok read =>
      rw [hskip] at hparse
      obtain ⟨scalar, hscalar, hinput⟩ := of_skipNumber hskip
      cases hparse
      exact ⟨scalar, hscalar, hinput⟩

/-- Elements and members can have more whitespace before them. -/
theorem phrase_blank_append {isBlank : UInt8 → Bool} {kind : PhraseKind} {blank text : Bytes}
    (hkind : kind ≠ .value) (hblank : ∀ ch ∈ blank, isBlank ch = true)
    (hphrase : Phrase isBlank kind text) : Phrase isBlank kind (blank ++ text) := by
  have hlonger : ∀ before : Bytes, (∀ ch ∈ before, isBlank ch = true) →
      ∀ ch ∈ blank ++ before, isBlank ch = true := by
    intro before hbefore ch hch
    exact (List.mem_append.mp hch).elim (hblank ch) (hbefore ch)
  cases hphrase with
  | element hbefore item hafter =>
      rw [← List.append_assoc]
      exact .element (hlonger _ hbefore) item hafter
  | moreElements hbefore item hafter elements =>
      rw [← List.append_assoc]
      exact .moreElements (hlonger _ hbefore) item hafter elements
  | member hbefore characters hmiddle hbetween item hafter =>
      rw [← List.append_assoc]
      exact .member (hlonger _ hbefore) characters hmiddle hbetween item hafter
  | moreMembers hbefore characters hmiddle hbetween item hafter members =>
      rw [← List.append_assoc]
      exact .moreMembers (hlonger _ hbefore) characters hmiddle hbetween item hafter members
  | _ => exact absurd rfl hkind

/-- What `parseArray` and `parseObject` share: between the brackets stands whitespace alone, or
what `inside` reads. -/
def bracketed (opening : Char) (closing : UInt8) (empty : JsonValue)
    (inside : JsonReader JsonValue) : JsonReader JsonValue := do
  expect opening
  skipSpace
  let closed ← consume closing
  if closed then return empty else inside

theorem of_bracketed {opening : Char} {closing : UInt8} {empty value : JsonValue}
    {inside : JsonReader JsonValue}
    (hparse : bracketed opening closing empty inside input = .ok (value, rest)) :
    ∃ blank behind, (∀ ch ∈ blank, isSpace ch = true) ∧
      input = ascii opening :: (blank ++ behind) ∧
        (behind = closing :: rest ∨ inside behind = .ok (value, rest)) := by
  obtain ⟨_, behindOpen, hopen, hparse⟩ := of_bind_ok hparse
  obtain ⟨_, behind, hskip, hparse⟩ := of_bind_ok hparse
  obtain ⟨blank, hblank, hbehind⟩ := of_skipSpace hskip
  obtain ⟨closed, behindClose, hclose, hparse⟩ := of_bind_ok hparse
  refine ⟨blank, behind, hblank, by rw [of_expect hopen, hbehind], ?_⟩
  cases closed with
  | true =>
      cases hparse
      exact .inl (of_consume_true hclose)
  | false =>
      rw [(of_consume_false hclose).1] at hparse
      exact .inr hparse

/-- What the parser moved over is a phrase of the grammar with `isspace` whitespace. -/
theorem parse_phrase (fuel : Nat) :
    (∀ input value rest, parseValue fuel input = .ok (value, rest) →
      ∃ before text, (∀ ch ∈ before, isSpace ch = true) ∧ Phrase isSpace .value text ∧
        input = before ++ (text ++ rest)) ∧
    (∀ input items rest, parseElements fuel input = .ok (items, rest) →
      ∃ text, Phrase isSpace .elements text ∧ input = text ++ ascii ']' :: rest) ∧
    ∀ known input members rest, parseMembers fuel known input = .ok (members, rest) →
      ∃ text, Phrase isSpace .members text ∧ input = text ++ ascii '\x7d' :: rest := by
  induction fuel with
  | zero =>
      refine ⟨?_, ?_, ?_⟩
      · rintro input value rest ⟨⟩
      · rintro input items rest ⟨⟩
      · rintro known input members rest ⟨⟩
  | succ fuel ih =>
      obtain ⟨ihValue, ihElements, ihMembers⟩ := ih
      refine ⟨?_, ?_, ?_⟩
      · intro input value rest hparse
        rw [parseValue] at hparse
        obtain ⟨_, start, hskip, hparse⟩ := of_bind_ok hparse
        obtain ⟨before, hbefore, hinput⟩ := of_skipSpace hskip
        obtain ⟨next, same, hcurrent, hparse⟩ := of_bind_ok hparse
        rw [(of_current hcurrent).1] at hparse
        suffices hphrase : ∃ text, Phrase isSpace .value text ∧ start = text ++ rest by
          obtain ⟨text, htext, hstart⟩ := hphrase
          exact ⟨before, text, hbefore, htext, by rw [hinput, hstart]⟩
        split at hparse
        · cases hparse
        split at hparse
        · exact ⟨_, .nullText, text_of_parseLiteral hparse⟩
        split at hparse
        · exact ⟨_, .trueText, text_of_parseLiteral hparse⟩
        split at hparse
        · exact ⟨_, .falseText, text_of_parseLiteral hparse⟩
        split at hparse
        · obtain ⟨text, behindText, hstring, hparse⟩ := of_bind_ok hparse
          cases hparse
          obtain ⟨chars, hchars, hstart⟩ := of_parseString hstring
          exact ⟨_, .string hchars, hstart⟩
        split at hparse
        · obtain ⟨blank, behind, hblank, hstart, hbehind⟩ := of_bracketed hparse
          rw [hstart]
          rcases hbehind with hclosed | hinside
          · rw [hclosed]
            exact ⟨_, .emptyArray hblank, by simp⟩
          · obtain ⟨items, behindItems, hitems, hparse⟩ := of_bind_ok hinside
            cases hparse
            obtain ⟨text, htext, hrest⟩ := ihElements _ _ _ hitems
            rw [hrest]
            exact ⟨_, .array (phrase_blank_append (by rintro ⟨⟩) hblank htext), by simp⟩
        split at hparse
        · obtain ⟨blank, behind, hblank, hstart, hbehind⟩ := of_bracketed hparse
          rw [hstart]
          rcases hbehind with hclosed | hinside
          · rw [hclosed]
            exact ⟨_, .emptyObject hblank, by simp⟩
          · obtain ⟨members, behindMembers, hmembers, hparse⟩ := of_bind_ok hinside
            cases hparse
            obtain ⟨text, htext, hrest⟩ := ihMembers _ _ _ _ hmembers
            rw [hrest]
            exact ⟨_, .object (phrase_blank_append (by rintro ⟨⟩) hblank htext), by simp⟩
        split at hparse
        · obtain ⟨scalar, hscalar, hstart⟩ := of_parseNumber hparse
          exact ⟨scalar, .number hscalar, hstart⟩
        · cases hparse
      · intro input items rest hparse
        rw [parseElements] at hparse
        obtain ⟨item, behindItem, hitem, hparse⟩ := of_bind_ok hparse
        obtain ⟨before, text, hbefore, htext, hinput⟩ := ihValue _ _ _ hitem
        obtain ⟨_, start, hskip, hparse⟩ := of_bind_ok hparse
        obtain ⟨after, hafter, hstart⟩ := of_skipSpace hskip
        obtain ⟨close, behindClose, hclose, hparse⟩ := of_bind_ok hparse
        rw [hinput, hstart]
        split at hparse
        · next hclosed =>
            cases hparse
            rw [hclosed] at hclose
            rw [of_consume_true hclose]
            exact ⟨_, .element hbefore htext hafter, by simp⟩
        · next hclosed =>
            rw [Bool.eq_false_iff.mpr hclosed] at hclose
            obtain ⟨_, behindComma, hcomma, hparse⟩ := of_bind_ok hparse
            obtain ⟨tail, behindTail, htail, hparse⟩ := of_bind_ok hparse
            cases hparse
            obtain ⟨items, hitems, hrest⟩ := ihElements _ _ _ htail
            rw [← (of_consume_false hclose).1, of_expect hcomma, hrest]
            exact ⟨_, .moreElements hbefore htext hafter hitems, by simp⟩
      · intro known input members rest hparse
        rw [parseMembers] at hparse
        obtain ⟨_, start, hskip, hparse⟩ := of_bind_ok hparse
        obtain ⟨before, hbefore, hinput⟩ := of_skipSpace hskip
        obtain ⟨next, same, hpeek, hparse⟩ := of_bind_ok hparse
        rw [of_peek hpeek] at hparse
        split at hparse
        · cases hparse
        obtain ⟨key, behindKey, hkey, hparse⟩ := of_bind_ok hparse
        obtain ⟨chars, hchars, hstart⟩ := of_parseString hkey
        obtain ⟨_, beforeColon, hskip, hparse⟩ := of_bind_ok hparse
        obtain ⟨middle, hmiddle, hbehindKey⟩ := of_skipSpace hskip
        obtain ⟨_, behindColon, hcolon, hparse⟩ := of_bind_ok hparse
        obtain ⟨value, behindValue, hvalue, hparse⟩ := of_bind_ok hparse
        obtain ⟨between, text, hbetween, htext, hbehindColon⟩ := ihValue _ _ _ hvalue
        obtain ⟨_, beforeClose, hskip, hparse⟩ := of_bind_ok hparse
        obtain ⟨after, hafter, hbehindValue⟩ := of_skipSpace hskip
        obtain ⟨close, behindClose, hclose, hparse⟩ := of_bind_ok hparse
        rw [hinput, hstart, hbehindKey, of_expect hcolon, hbehindColon, hbehindValue]
        split at hparse
        · next hclosed =>
            cases hparse
            rw [hclosed] at hclose
            rw [of_consume_true hclose]
            exact ⟨_, .member hbefore hchars hmiddle hbetween htext hafter, by simp⟩
        · next hclosed =>
            rw [Bool.eq_false_iff.mpr hclosed] at hclose
            obtain ⟨_, behindComma, hcomma, hparse⟩ := of_bind_ok hparse
            obtain ⟨items, hitems, hrest⟩ := ihMembers _ _ _ _ hparse
            rw [← (of_consume_false hclose).1, of_expect hcomma, hrest]
            exact ⟨_, .moreMembers hbefore hchars hmiddle hbetween htext hafter hitems, by simp⟩

end Parser

/-- An accepted text is in the grammar. -/
theorem isJsonText_of_parseJson {text : Bytes} {value : JsonValue}
    (hparse : parseJson text = .ok value) : IsJsonText isSpace text := by
  unfold parseJson at hparse
  cases hread : Parser.parse (2 * text.length + 1) text with
  | error fault =>
      rw [hread] at hparse
      cases hparse
  | ok read =>
      obtain ⟨value, rest, hvalue, htail⟩ := Parser.of_bind_ok hread
      obtain ⟨before, phrase, hbefore, hphrase, htext⟩ := (Parser.parse_phrase _).1 _ _ _ hvalue
      obtain ⟨_, behind, hskip, htail⟩ := Parser.of_bind_ok htail
      obtain ⟨after, hafter, hrest⟩ := Parser.of_skipSpace hskip
      obtain ⟨next, same, hcurrent, htail⟩ := Parser.of_bind_ok htail
      have hnext := (Parser.of_current hcurrent).2
      split at htail
      · cases htail
      · next hend =>
          have hnil : behind = [] := by
            cases hbehind : behind with
            | nil => rfl
            | cons ch tail =>
                rw [hbehind] at hnext
                exact absurd (hnext ▸ rfl) hend
          rw [hnil, List.append_nil] at hrest
          exact ⟨before, phrase, after, hbefore, hphrase, hafter, hrest ▸ htext⟩

end AudioStudio.Rpc
