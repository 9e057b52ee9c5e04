import AudioStudio.Rpc.JsonGrammar
import Mathlib.Data.List.DropRight

/-!
# The texts that the parser accepts

The parser reads every phrase of the grammar.  So it accepts the JSON texts, and those that
differ from one by whitespace that `std::isspace` knows and JSON does not.
-/

namespace AudioStudio.Rpc

open AudioStudio.LittleEndian

/-! ## Texts in the grammar are accepted -/

namespace Parser

variable {α β : Type} {reader : JsonReader α} {next : α → JsonReader β} {input middle rest : Bytes}

/-- The reader leaves the rest, if the bound on the recursion lets it. -/
def ReadsTo {α : Type} (reader : JsonReader α) (input rest : Bytes) : Prop :=
  reader input = .error .spent ∨ ∃ value, reader input = .ok (value, rest)

theorem ReadsTo.bind (hreader : ReadsTo reader input middle)
    (hnext : ∀ value, ReadsTo (next value) middle rest) : ReadsTo (reader >>= next) input rest := by
  rcases hreader with hspent | ⟨value, hok⟩
  · refine .inl ?_
    change (reader input >>= fun read => next read.1 read.2) = _
    rw [hspent]
    rfl
  · unfold ReadsTo
    rw [bind_ok hok]
    exact hnext value

/-- A step whose outcome is known. -/
theorem ReadsTo.step {value : α} (hreader : reader input = .ok (value, middle))
    (hnext : ReadsTo (next value) middle rest) : ReadsTo (reader >>= next) input rest := by
  unfold ReadsTo
  rw [bind_ok hreader]
  exact hnext

theorem readsTo_pure (value : α) (rest : Bytes) : ReadsTo (pure value) rest rest :=
  .inr ⟨value, rfl⟩

theorem simpleEscape_of_escaped : ∀ ch ∈ escapedCharacters, (simpleEscape ch).isSome = true :=
  List.all_eq_true.mp (by decide)

variable {ch : UInt8}

theorem hexValue_of_isHexDigit (hch : IsHexDigit ch) : ∃ digit, hexValue ch = some digit := by
  unfold hexValue
  split
  · exact ⟨_, rfl⟩
  next hdecimal =>
  split
  · exact ⟨_, rfl⟩
  next hlower =>
  split
  · exact ⟨_, rfl⟩
  next hupper =>
  rcases hch with hdigit | hdigit | hdigit
  · exact absurd (of_decide_eq_true hdigit) hdecimal
  · exact absurd hdigit hlower
  · exact absurd hdigit hupper

theorem unicodeEscape_of_isHexDigit {digits : Bytes} (hdigits : ∀ ch ∈ digits, IsHexDigit ch)
    (start : UInt32) : ∃ codepoint, unicodeEscape digits start = .ok codepoint := by
  induction digits generalizing start with
  | nil => exact ⟨start, rfl⟩
  | cons ch digits ih =>
      obtain ⟨hch, hrest⟩ := List.forall_mem_cons.mp hdigits
      obtain ⟨digit, hdigit⟩ := hexValue_of_isHexDigit hch
      unfold unicodeEscape
      rw [hdigit]
      exact ih hrest _

variable {chars : Bytes}

theorem parseStringLoop_characters (hchars : Characters chars) (out rest : Bytes) :
    ∃ text, parseStringLoop out (chars ++ quote :: rest) = .ok (text, rest) := by
  induction hchars generalizing out with
  | nil =>
      rw [List.nil_append, parseStringLoop.eq_def]
      dsimp only
      rw [if_pos rfl]
      exact ⟨out, rfl⟩
  | @plain ch chars hcontrol hquote hbackslash _ ih =>
      obtain ⟨text, htext⟩ := ih (out ++ [ch])
      refine ⟨text, ?_⟩
      rw [List.cons_append, parseStringLoop.eq_def]
      dsimp only
      rw [if_neg hquote, if_neg hcontrol, if_pos hbackslash, htext]
  | @escape ch chars hescaped _ ih =>
      obtain ⟨byte, hbyte⟩ := Option.isSome_iff_exists.mp (simpleEscape_of_escaped ch hescaped)
      obtain ⟨text, htext⟩ := ih (out ++ [byte])
      refine ⟨text, ?_⟩
      rw [List.cons_append, List.cons_append, parseStringLoop.eq_def]
      dsimp only
      rw [if_neg (by decide), if_neg (by decide), if_neg (by decide), hbyte]
      exact htext
  | @unicode d₀ d₁ d₂ d₃ chars hdigits _ ih =>
      obtain ⟨codepoint, hcode⟩ := unicodeEscape_of_isHexDigit hdigits 0
      obtain ⟨text, htext⟩ := ih (out ++ encodeUtf8 codepoint)
      refine ⟨text, ?_⟩
      simp only [List.cons_append]
      rw [parseStringLoop.eq_def]
      dsimp only
      rw [if_neg (by decide), if_neg (by decide), if_neg (by decide),
        show simpleEscape (ascii 'u') = none by decide]
      dsimp only
      rw [if_neg (by decide), hcode]
      exact htext

theorem parseString_stringText (hchars : Characters chars) (rest : Bytes) :
    ∃ text, parseString (stringText chars ++ rest) = .ok (text, rest) := by
  obtain ⟨text, htext⟩ := parseStringLoop_characters hchars [] rest
  refine ⟨text, ?_⟩
  unfold parseString stringText
  rw [List.cons_append, List.append_assoc,
    bind_ok (show expect '"' (quote :: _) = _ from expect_cons '"')]
  exact htext

/-! ### Whitespace -/

variable {blank tail : Bytes}

theorem dropWhile_blank (hblank : ∀ ch ∈ blank, isSpace ch = true) (hch : isSpace ch = false) :
    (blank ++ ch :: tail).dropWhile (isSpace ·) = ch :: tail := by
  rw [List.dropWhile_append_of_pos hblank,
    List.dropWhile_cons_of_neg (by rw [hch]; exact Bool.false_ne_true)]

theorem skipSpace_blank (hblank : ∀ ch ∈ blank, isSpace ch = true) (hch : isSpace ch = false) :
    skipSpace (blank ++ ch :: tail) = .ok ((), ch :: tail) :=
  congrArg (fun rest => Except.ok ((), rest)) (dropWhile_blank hblank hch)

/-- Whitespace does not continue a number. -/
theorem endsNumber_blank (hblank : ∀ ch ∈ blank, isSpace ch = true) (hrest : EndsNumber rest) :
    EndsNumber (blank ++ rest) := by
  cases blank with
  | nil => exact hrest
  | cons ch blank =>
      rintro first ⟨rfl⟩
      have hspace := hblank ch List.mem_cons_self
      refine ⟨?_, ?_, ?_, ?_⟩
      · by_contra hdigit
        rw [isSpace_of_isDigit (Bool.eq_true_of_not_eq_false hdigit)] at hspace
        cases hspace
      · rintro rfl
        revert hspace
        decide
      · rintro rfl
        revert hspace
        decide
      · rintro rfl
        revert hspace
        decide

/-- How a value begins. -/
theorem value_head {isBlank : UInt8 → Bool} {text : Bytes} (hphrase : Phrase isBlank .value text) :
    ∃ ch tail, text = ch :: tail ∧ isSpace ch = false ∧ ch ≠ ascii ']' := by
  cases hphrase with
  | number hnumber =>
      obtain ⟨ch, tail, htext, hch⟩ := number_head hnumber
      refine ⟨ch, tail, htext, ?_⟩
      rcases hch with rfl | hch
      · decide
      · exact ⟨isSpace_of_isDigit hch, ne_of_isDigit hch (by decide)⟩
  | nullText => exact ⟨_, _, rfl, by decide⟩
  | trueText => exact ⟨_, _, rfl, by decide⟩
  | falseText => exact ⟨_, _, rfl, by decide⟩
  | string _ => exact ⟨_, _, rfl, by decide⟩
  | emptyArray _ => exact ⟨_, _, rfl, by decide⟩
  | array _ => exact ⟨_, _, rfl, by decide⟩
  | emptyObject _ => exact ⟨_, _, rfl, by decide⟩
  | object _ => exact ⟨_, _, rfl, by decide⟩

/-! ### Phrases -/

/-- What stands behind the whitespace of an input. -/
def behindBlank (input : Bytes) : Bytes := input.dropWhile (isSpace ·)

theorem behindBlank_append (hblank : ∀ ch ∈ blank, isSpace ch = true) (hch : isSpace ch = false) :
    behindBlank (blank ++ ch :: tail) = ch :: tail := dropWhile_blank hblank hch

theorem behindBlank_behindBlank (input : Bytes) :
    behindBlank (behindBlank input) = behindBlank input :=
  List.dropWhile_idempotent _ _

/-- What the parser does with a phrase, whatever whitespace stands before it. -/
def Reads : PhraseKind → Bytes → Prop
  | .value, text => ∀ fuel input rest, behindBlank input = text ++ rest → EndsNumber rest →
      ReadsTo (parseValue fuel) input rest
  | .elements, text => ∀ fuel input rest,
      behindBlank input = behindBlank (text ++ ascii ']' :: rest) →
        ReadsTo (parseElements fuel) input rest
  | .members, text => ∀ fuel known input rest,
      behindBlank input = behindBlank (text ++ ascii '\x7d' :: rest) →
        ReadsTo (parseMembers fuel known) input rest

/-- A value is read behind its whitespace. -/
theorem reads_value (hch : isSpace ch = false)
    (hreads : ∀ fuel rest, EndsNumber rest →
      ReadsTo (parseValue (fuel + 1)) (ch :: (tail ++ rest)) rest) :
    Reads .value (ch :: tail) := by
  intro fuel input rest hinput hrest
  cases fuel with
  | zero => exact .inl rfl
  | succ fuel =>
      have hskip : skipSpace input = .ok ((), ch :: (tail ++ rest)) :=
        congrArg (fun rest => Except.ok ((), rest)) hinput
      have hsame : parseValue (fuel + 1) input = parseValue (fuel + 1) (ch :: (tail ++ rest)) := by
        rw [parseValue, bind_ok hskip, bind_ok (skipSpace_cons hch)]
      unfold ReadsTo
      rw [hsame]
      exact hreads fuel rest hrest

theorem reads_literal {value : JsonValue} (hch : isSpace ch = false)
    (hparse : ∀ fuel rest, parseValue (fuel + 1) (ch :: (tail ++ rest)) = .ok (value, rest)) :
    Reads .value (ch :: tail) :=
  reads_value hch fun fuel rest _ => .inr ⟨value, hparse fuel rest⟩

theorem reads_number {scalar : Bytes} (hnumber : IsNumber scalar) : Reads .value scalar := by
  obtain ⟨ch, tail, rfl, hch⟩ := number_head hnumber
  have hspace : isSpace ch = false := by
    rcases hch with rfl | hch
    · decide
    · exact isSpace_of_isDigit hch
  refine reads_value hspace fun fuel rest hrest => .inr ⟨.number (ch :: tail), ?_⟩
  rw [parseValue_number hch]
  exact parseNumber_append hnumber hrest

theorem reads_string (hchars : Characters chars) : Reads .value (stringText chars) := by
  refine reads_value (by decide) fun fuel rest _ => ?_
  obtain ⟨text, htext⟩ := parseString_stringText hchars rest
  change ReadsTo (parseString >>= fun text => pure (JsonValue.string text))
    (stringText chars ++ rest) rest
  exact .step htext (readsTo_pure _ rest)

/-- The first character of what an array or an object has inside. -/
theorem inside_head {kind : PhraseKind} {text : Bytes} (hkind : kind ≠ .value)
    (hphrase : Phrase isSpace kind text) (rest : Bytes) :
    ∃ ch tail, behindBlank (text ++ rest) = ch :: tail ∧
      (kind = .elements → ch ≠ ascii ']') ∧ (kind = .members → ch = quote) := by
  cases hphrase with
  | element hbefore item hafter =>
      obtain ⟨ch, tail, rfl, hspace, hclose⟩ := value_head item
      simp only [List.append_assoc, List.cons_append, behindBlank_append hbefore hspace]
      exact ⟨ch, _, rfl, fun _ => hclose, by rintro ⟨⟩⟩
  | moreElements hbefore item hafter _ =>
      obtain ⟨ch, tail, rfl, hspace, hclose⟩ := value_head item
      simp only [List.append_assoc, List.cons_append, behindBlank_append hbefore hspace]
      exact ⟨ch, _, rfl, fun _ => hclose, by rintro ⟨⟩⟩
  | member hbefore hchars hmiddle hbetween item hafter =>
      have hquote : isSpace quote = false := by decide
      simp only [stringText, List.append_assoc, List.cons_append, behindBlank_append hbefore hquote]
      exact ⟨quote, _, rfl, by rintro ⟨⟩, fun _ => rfl⟩
  | moreMembers hbefore hchars hmiddle hbetween item hafter _ =>
      have hquote : isSpace quote = false := by decide
      simp only [stringText, List.append_assoc, List.cons_append, behindBlank_append hbefore hquote]
      exact ⟨quote, _, rfl, by rintro ⟨⟩, fun _ => rfl⟩
  | _ => exact absurd rfl hkind

theorem readsTo_bracketed_empty {opening : Char} {closing : UInt8}
    (hblank : ∀ ch ∈ blank, isSpace ch = true) (hclosing : isSpace closing = false)
    (empty : JsonValue) (inside : JsonReader JsonValue) (rest : Bytes) :
    ReadsTo (bracketed opening closing empty inside)
      (ascii opening :: (blank ++ closing :: rest)) rest := by
  refine .step (expect_cons opening) (.step (skipSpace_blank hblank hclosing) ?_)
  exact .step (consume_cons closing) (readsTo_pure empty rest)

/-- Brackets with something else between them. -/
theorem readsTo_bracketed {opening : Char} {closing first : UInt8} {empty : JsonValue}
    {inside : JsonReader JsonValue} {text : Bytes} (hhead : behindBlank text = first :: tail)
    (hfirst : first ≠ closing) (hinside : ReadsTo inside (first :: tail) rest) :
    ReadsTo (bracketed opening closing empty inside) (ascii opening :: text) rest := by
  refine .step (expect_cons opening) (.step (congrArg (fun rest => Except.ok ((), rest)) hhead) ?_)
  refine .step (consume_cons_of_ne hfirst) ?_
  rw [if_neg Bool.false_ne_true]
  exact hinside

theorem reads_emptyArray (hblank : ∀ ch ∈ blank, isSpace ch = true) :
    Reads .value (ascii '[' :: (blank ++ [ascii ']'])) := by
  refine reads_value (by decide) fun fuel rest _ => ?_
  rw [List.append_assoc]
  change ReadsTo (bracketed '[' (ascii ']') (.array [])
    (parseElements fuel >>= fun items => pure (.array items))) (ascii '[' :: _) rest
  exact readsTo_bracketed_empty hblank (by decide) _ _ rest

variable {items : Bytes}

theorem reads_array (hphrase : Phrase isSpace .elements items) (hitems : Reads .elements items) :
    Reads .value (ascii '[' :: (items ++ [ascii ']'])) := by
  refine reads_value (by decide) fun fuel rest _ => ?_
  rw [List.append_assoc]
  obtain ⟨first, tail, hhead, hclose, -⟩ :=
    @inside_head .elements _ nofun hphrase (ascii ']' :: rest)
  have hread := hitems fuel _ rest (behindBlank_behindBlank _)
  rw [hhead] at hread
  change ReadsTo (bracketed '[' (ascii ']') (.array [])
    (parseElements fuel >>= fun items => pure (.array items))) (ascii '[' :: _) rest
  exact readsTo_bracketed hhead (hclose rfl) (hread.bind fun items => readsTo_pure _ rest)

theorem reads_emptyObject (hblank : ∀ ch ∈ blank, isSpace ch = true) :
    Reads .value (ascii '\x7b' :: (blank ++ [ascii '\x7d'])) := by
  refine reads_value (by decide) fun fuel rest _ => ?_
  rw [List.append_assoc]
  change ReadsTo (bracketed '\x7b' (ascii '\x7d') (.object [])
    (parseMembers fuel [] >>= fun members => pure (.object members))) (ascii '\x7b' :: _) rest
  exact readsTo_bracketed_empty hblank (by decide) _ _ rest

theorem reads_object (hphrase : Phrase isSpace .members items) (hitems : Reads .members items) :
    Reads .value (ascii '\x7b' :: (items ++ [ascii '\x7d'])) := by
  refine reads_value (by decide) fun fuel rest _ => ?_
  rw [List.append_assoc]
  obtain ⟨first, tail, hhead, -, hquote⟩ :=
    @inside_head .members _ nofun hphrase (ascii '\x7d' :: rest)
  have hread := hitems fuel [] _ rest (behindBlank_behindBlank _)
  rw [hhead] at hread
  change ReadsTo (bracketed '\x7b' (ascii '\x7d') (.object [])
    (parseMembers fuel [] >>= fun members => pure (.object members))) (ascii '\x7b' :: _) rest
  refine readsTo_bracketed hhead ?_ (hread.bind fun members => readsTo_pure _ rest)
  rw [hquote rfl]
  decide

variable {before value after : Bytes}

/-- The value of an element, up to what closes or continues it. -/
theorem reads_item (hbefore : ∀ ch ∈ before, isSpace ch = true) (item : Phrase isSpace .value value)
    (hafter : ∀ ch ∈ after, isSpace ch = true) (hitem : Reads .value value)
    (hch : isDigit ch = false ∧ ch ≠ ascii '.' ∧ ch ≠ ascii 'e' ∧ ch ≠ ascii 'E') (fuel : Nat)
    (hinput : behindBlank input = behindBlank (before ++ (value ++ (after ++ ch :: rest)))) :
    ReadsTo (parseValue fuel) input (after ++ ch :: rest) := by
  obtain ⟨first, tail, rfl, hspace, -⟩ := value_head item
  refine hitem fuel input _ ?_ (endsNumber_blank hafter (endsNumber_cons hch))
  rw [hinput, List.cons_append, behindBlank_append hbefore hspace]

theorem reads_element (hbefore : ∀ ch ∈ before, isSpace ch = true)
    (item : Phrase isSpace .value value) (hafter : ∀ ch ∈ after, isSpace ch = true)
    (hitem : Reads .value value) : Reads .elements (before ++ (value ++ after)) := by
  intro fuel input rest hinput
  cases fuel with
  | zero => exact .inl rfl
  | succ fuel =>
      simp only [List.append_assoc] at hinput
      rw [parseElements]
      refine (reads_item hbefore item hafter hitem (by decide) fuel hinput).bind fun value => ?_
      refine .step (skipSpace_blank hafter (by decide)) (.step (consume_cons _) ?_)
      exact readsTo_pure _ rest

theorem reads_moreElements (hbefore : ∀ ch ∈ before, isSpace ch = true)
    (item : Phrase isSpace .value value) (hafter : ∀ ch ∈ after, isSpace ch = true)
    (hitem : Reads .value value) (hitems : Reads .elements items) :
    Reads .elements (before ++ (value ++ (after ++ ascii ',' :: items))) := by
  intro fuel input rest hinput
  cases fuel with
  | zero => exact .inl rfl
  | succ fuel =>
      simp only [List.append_assoc, List.cons_append] at hinput
      rw [parseElements]
      refine (reads_item hbefore item hafter hitem (by decide) fuel hinput).bind fun value => ?_
      refine .step (skipSpace_blank hafter (by decide)) (.step (consume_cons_of_ne (by decide)) ?_)
      rw [if_neg Bool.false_ne_true]
      refine .step (expect_cons ',') ?_
      exact (hitems fuel _ rest rfl).bind fun items => readsTo_pure _ rest

variable {key middle between : Bytes}

/-- A member, up to what closes or continues it. -/
theorem reads_key (hbefore : ∀ ch ∈ before, isSpace ch = true) (hchars : Characters key)
    (hmiddle : ∀ ch ∈ middle, isSpace ch = true) (hbetween : ∀ ch ∈ between, isSpace ch = true)
    (item : Phrase isSpace .value value) (hafter : ∀ ch ∈ after, isSpace ch = true)
    (hitem : Reads .value value) {behind : Bytes}
    (hch : isDigit ch = false ∧ ch ≠ ascii '.' ∧ ch ≠ ascii 'e' ∧ ch ≠ ascii 'E')
    (hspace : isSpace ch = false) (fuel : Nat) {known : JsonMembers}
    (hinput : behindBlank input = behindBlank (before ++ (stringText key ++ (middle ++ ascii ':' ::
      (between ++ (value ++ (after ++ ch :: behind)))))))
    (hnext : ∀ members : JsonMembers, ReadsTo (consume (ascii '\x7d') >>= fun close =>
      if close then return members
      else do
        expect ','
        parseMembers fuel members) (ch :: behind) rest) :
    ReadsTo (parseMembers (fuel + 1) known) input rest := by
  obtain ⟨text, htext⟩ := parseString_stringText hchars
    (middle ++ ascii ':' :: (between ++ (value ++ (after ++ ch :: behind))))
  have hquote : isSpace quote = false := by decide
  have hskip : skipSpace input = .ok ((), stringText key ++ (middle ++ ascii ':' ::
      (between ++ (value ++ (after ++ ch :: behind))))) := by
    refine congrArg (fun rest => Except.ok ((), rest)) (hinput.trans ?_)
    rw [stringText, List.cons_append, behindBlank_append hbefore hquote]
  rw [parseMembers]
  refine .step hskip (.step (show peek (stringText key ++ _) = .ok (quote, _) from rfl) ?_)
  rw [if_neg (not_not_intro rfl)]
  refine .step htext (.step (skipSpace_blank hmiddle (by decide)) (.step (expect_cons ':') ?_))
  refine (reads_item hbetween item hafter hitem hch fuel rfl).bind fun value => ?_
  exact .step (skipSpace_blank hafter hspace) (hnext _)

/-- The parser reads every phrase. -/
theorem reads_phrase {kind : PhraseKind} {text : Bytes} (hphrase : Phrase isSpace kind text) :
    Reads kind text := by
  induction hphrase with
  | nullText => exact reads_literal (by decide) fun _ _ => rfl
  | trueText => exact reads_literal (by decide) fun _ _ => rfl
  | falseText => exact reads_literal (by decide) fun _ _ => rfl
  | number hnumber => exact reads_number hnumber
  | string hchars => exact reads_string hchars
  | emptyArray hblank => exact reads_emptyArray hblank
  | array hitems ih => exact reads_array hitems ih
  | emptyObject hblank => exact reads_emptyObject hblank
  | object hitems ih => exact reads_object hitems ih
  | element hbefore item hafter ih => exact reads_element hbefore item hafter ih
  | moreElements hbefore item hafter _ ih ihItems =>
      exact reads_moreElements hbefore item hafter ih ihItems
  | member hbefore hchars hmiddle hbetween item hafter ih =>
      intro fuel known input rest hinput
      cases fuel with
      | zero => exact .inl rfl
      | succ fuel =>
          simp only [List.append_assoc, List.cons_append] at hinput
          refine reads_key hbefore hchars hmiddle hbetween item hafter ih (by decide) (by decide)
            fuel hinput fun members => ?_
          exact .step (consume_cons _) (readsTo_pure _ rest)
  | moreMembers hbefore hchars hmiddle hbetween item hafter _ ih ihItems =>
      intro fuel known input rest hinput
      cases fuel with
      | zero => exact .inl rfl
      | succ fuel =>
          simp only [List.append_assoc, List.cons_append] at hinput
          refine reads_key hbefore hchars hmiddle hbetween item hafter ih (by decide) (by decide)
            fuel hinput fun members => ?_
          refine .step (consume_cons_of_ne (by decide)) ?_
          rw [if_neg Bool.false_ne_true]
          exact .step (expect_cons ',') (ihItems fuel members _ rest rfl)

end Parser

/-- A text of the grammar is accepted. -/
theorem parseJson_of_isJsonText {text : Bytes} (htext : IsJsonText isSpace text) :
    ∃ value, parseJson text = .ok value := by
  have hspent := parseJson_ne_spent text
  obtain ⟨before, value, after, hbefore, hvalue, hafter, rfl⟩ := htext
  obtain ⟨ch, tail, hhead, hspace, -⟩ := Parser.value_head hvalue
  have hread : Parser.ReadsTo (Parser.parseValue (2 * (before ++ (value ++ after)).length + 1))
      (before ++ (value ++ after)) after := by
    refine Parser.reads_phrase hvalue _ _ _ ?_ ?_
    · rw [hhead, List.cons_append, Parser.behindBlank_append hbefore hspace]
    · have hnil : Parser.EndsNumber [] := nofun
      have hend := Parser.endsNumber_blank hafter hnil
      rwa [List.append_nil] at hend
  have hskip : Parser.skipSpace after = .ok ((), []) :=
    congrArg (fun rest => Except.ok ((), rest)) (List.dropWhile_eq_nil_iff.mpr hafter)
  unfold parseJson at hspent ⊢
  have hparse : Parser.ReadsTo (Parser.parse (2 * (before ++ (value ++ after)).length + 1))
      (before ++ (value ++ after)) [] := by
    have hend : Parser.current [] = .ok (none, []) := rfl
    exact hread.bind fun value => .step hskip (.step hend (Parser.readsTo_pure value []))
  rcases hparse with hparse | ⟨value, hparse⟩
  · rw [hparse] at hspent
    exact absurd rfl hspent
  · rw [hparse]
    exact ⟨value, rfl⟩

/-- The parser accepts the grammar with the whitespace of `std::isspace`. -/
theorem parseJson_ok_iff (text : Bytes) :
    (∃ value, parseJson text = .ok value) ↔ IsJsonText isSpace text :=
  ⟨fun ⟨_, hvalue⟩ => isJsonText_of_parseJson hvalue, parseJson_of_isJsonText⟩

/-! ## The two kinds of whitespace -/

variable {isBlank other : UInt8 → Bool} {kind : PhraseKind} {text : Bytes}

theorem IsHexDigit.printable {ch : UInt8} (hch : IsHexDigit ch) : ¬ ch < 0x20 := by
  have hlow : ∀ first : UInt8, 0x20 ≤ first → first ≤ ch → ¬ ch < 0x20 :=
    fun first hfirst hle hlt => UInt8.not_lt.mpr (UInt8.le_trans hfirst hle) hlt
  rcases hch with hdigit | hlower | hupper
  · exact hlow 0x30 (by decide) (of_decide_eq_true hdigit).1
  · exact hlow _ (by decide) hlower.1
  · exact hlow _ (by decide) hupper.1

theorem printable_of_all {text : Bytes} (hall : text.all (fun ch => ¬ ch < 0x20) = true) :
    ∀ ch ∈ text, ¬ ch < 0x20 := by
  simpa using hall

theorem Characters.printable {chars : Bytes} (hchars : Characters chars) :
    ∀ ch ∈ chars, ¬ ch < 0x20 := by
  have hescaped : ∀ ch ∈ escapedCharacters, ¬ ch < 0x20 :=
    printable_of_all (by decide)
  induction hchars with
  | nil => exact nofun
  | plain hcontrol _ _ _ ih => exact List.forall_mem_cons.mpr ⟨hcontrol, ih⟩
  | escape hch _ ih =>
      exact List.forall_mem_cons.mpr ⟨by decide, List.forall_mem_cons.mpr ⟨hescaped _ hch, ih⟩⟩
  | @unicode d₀ d₁ d₂ d₃ chars hdigits _ ih =>
      have hprintable : ∀ ch ∈ [d₀, d₁, d₂, d₃], ¬ ch < 0x20 :=
        fun ch hch => (hdigits ch hch).printable
      have hmark : ∀ ch ∈ [backslash, ascii 'u'], ¬ ch < 0x20 :=
        printable_of_all (by decide)
      intro ch hch
      have hsplit : ch ∈ [backslash, ascii 'u'] ∨ ch ∈ [d₀, d₁, d₂, d₃] ∨ ch ∈ chars := by
        simpa [or_assoc] using hch
      rcases hsplit with hch | hch | hch
      · exact hmark ch hch
      · exact hprintable ch hch
      · exact ih ch hch

theorem stringText_printable {chars : Bytes} (hchars : Characters chars) :
    ∀ ch ∈ stringText chars, ¬ ch < 0x20 := by
  refine List.forall_mem_cons.mpr ⟨by decide, List.forall_mem_append.mpr ⟨hchars.printable, ?_⟩⟩
  exact printable_of_all (by decide)

namespace Parser

theorem IsDigits.printable {digits : Bytes} (hdigits : IsDigits digits) :
    ∀ ch ∈ digits, ¬ ch < 0x20 :=
  fun ch hch => IsHexDigit.printable (.inl (hdigits.2 ch hch))

theorem IsNumber.printable {scalar : Bytes} (hnumber : IsNumber scalar) :
    ∀ ch ∈ scalar, ¬ ch < 0x20 := by
  obtain ⟨sign, integer, fraction, exponent, hsign, hinteger, hfraction, hexponent, rfl⟩ := hnumber
  refine List.forall_mem_append.mpr ⟨?_, List.forall_mem_append.mpr ⟨?_,
    List.forall_mem_append.mpr ⟨?_, ?_⟩⟩⟩
  · rcases hsign with rfl | rfl <;> exact printable_of_all (by decide)
  · rcases hinteger with rfl | ⟨hdigits, _⟩
    · exact printable_of_all (by decide)
    · exact hdigits.printable
  · rcases hfraction with rfl | ⟨digits, hdigits, rfl⟩
    · exact nofun
    · exact List.forall_mem_cons.mpr ⟨by decide, hdigits.printable⟩
  · rcases hexponent with rfl | ⟨mark, sign, digits, hmark, hsign, hdigits, rfl⟩
    · exact nofun
    · refine List.forall_mem_cons.mpr ⟨?_, List.forall_mem_append.mpr ⟨?_, hdigits.printable⟩⟩
      · rcases hmark with rfl | rfl <;> decide
      · rcases hsign with rfl | rfl | rfl <;> exact printable_of_all (by decide)

end Parser

/-- Every byte of a phrase is whitespace or no control character. -/
theorem Phrase.blank_or_printable (hphrase : Phrase isBlank kind text) :
    ∀ ch ∈ text, isBlank ch = true ∨ ¬ ch < 0x20 := by
  have hblank : ∀ {blank : Bytes}, (∀ ch ∈ blank, isBlank ch = true) →
      ∀ ch ∈ blank, isBlank ch = true ∨ ¬ ch < 0x20 := fun hall ch hch => .inl (hall ch hch)
  have hprintable : ∀ {printed : Bytes}, (∀ ch ∈ printed, ¬ ch < 0x20) →
      ∀ ch ∈ printed, isBlank ch = true ∨ ¬ ch < 0x20 := fun hall ch hch => .inr (hall ch hch)
  have happend : ∀ {first second : Bytes}, (∀ ch ∈ first, isBlank ch = true ∨ ¬ ch < 0x20) →
      (∀ ch ∈ second, isBlank ch = true ∨ ¬ ch < 0x20) →
        ∀ ch ∈ first ++ second, isBlank ch = true ∨ ¬ ch < 0x20 :=
    fun hfirst hsecond => List.forall_mem_append.mpr ⟨hfirst, hsecond⟩
  have hcons : ∀ {ch : UInt8} {tail : Bytes}, ¬ ch < 0x20 →
      (∀ ch ∈ tail, isBlank ch = true ∨ ¬ ch < 0x20) →
        ∀ first ∈ ch :: tail, isBlank first = true ∨ ¬ first < 0x20 :=
    fun hch htail => List.forall_mem_cons.mpr ⟨.inr hch, htail⟩
  induction hphrase with
  | nullText => exact hprintable (printable_of_all (by decide))
  | trueText => exact hprintable (printable_of_all (by decide))
  | falseText => exact hprintable (printable_of_all (by decide))
  | number hnumber => exact hprintable hnumber.printable
  | string hchars => exact hprintable (stringText_printable hchars)
  | emptyArray hall =>
      exact hcons (by decide)
        (happend (hblank hall) (hprintable (printable_of_all (by decide))))
  | array _ ih => exact hcons (by decide) (happend ih (hprintable (printable_of_all (by decide))))
  | emptyObject hall =>
      exact hcons (by decide)
        (happend (hblank hall) (hprintable (printable_of_all (by decide))))
  | object _ ih => exact hcons (by decide) (happend ih (hprintable (printable_of_all (by decide))))
  | element hbefore _ hafter ih => exact happend (hblank hbefore) (happend ih (hblank hafter))
  | moreElements hbefore _ hafter _ ih ihItems =>
      exact happend (hblank hbefore)
        (happend ih (happend (hblank hafter) (hcons (by decide) ihItems)))
  | member hbefore hchars hmiddle hbetween _ hafter ih =>
      exact happend (hblank hbefore) (happend (hprintable (stringText_printable hchars))
        (happend (hblank hmiddle) (hcons (by decide) (happend (hblank hbetween)
          (happend ih (hblank hafter))))))
  | moreMembers hbefore hchars hmiddle hbetween _ hafter _ ih ihItems =>
      exact happend (hblank hbefore) (happend (hprintable (stringText_printable hchars))
        (happend (hblank hmiddle) (hcons (by decide) (happend (hblank hbetween)
          (happend ih (happend (hblank hafter) (hcons (by decide) ihItems)))))))

theorem IsJsonText.mono (htext : IsJsonText isBlank text)
    (hblank : ∀ ch ∈ text, isBlank ch = true → other ch = true) : IsJsonText other text := by
  obtain ⟨before, value, after, hbefore, hvalue, hafter, rfl⟩ := htext
  refine ⟨before, value, after, fun ch hch => ?_, hvalue.mono fun ch hch => ?_,
    fun ch hch => ?_, rfl⟩
  · exact hblank ch (by simp [hch]) (hbefore ch hch)
  · exact hblank ch (by simp [hch])
  · exact hblank ch (by simp [hch]) (hafter ch hch)

/-- `std::isspace` has two characters more. -/
theorem isJsonSpace_iff {ch : UInt8} :
    isJsonSpace ch = true ↔ isSpace ch = true ∧ ch ≠ 0x0b ∧ ch ≠ 0x0c := by
  simp only [isSpace, isJsonSpace, decide_eq_true_eq, ne_eq, ← UInt8.toNat_inj,
    UInt8.le_iff_toNat_le, UInt8.reduceToNat]
  omega

/-- No JSON text has a vertical tab or a form feed. -/
theorem IsJsonText.no_tab_or_feed (htext : IsJsonText isJsonSpace text) :
    ∀ ch ∈ text, ch ≠ 0x0b ∧ ch ≠ 0x0c := by
  obtain ⟨before, value, after, hbefore, hvalue, hafter, rfl⟩ := htext
  have hspace : ∀ ch, isJsonSpace ch = true → ch ≠ 0x0b ∧ ch ≠ 0x0c :=
    fun ch hch => (isJsonSpace_iff.mp hch).2
  refine List.forall_mem_append.mpr ⟨fun ch hch => hspace ch (hbefore ch hch),
    List.forall_mem_append.mpr ⟨fun ch hch => ?_, fun ch hch => hspace ch (hafter ch hch)⟩⟩
  rcases hvalue.blank_or_printable ch hch with hblank | hprintable
  · exact hspace ch hblank
  · refine ⟨?_, ?_⟩
    · rintro rfl
      exact hprintable (by decide)
    · rintro rfl
      exact hprintable (by decide)

/-- The parser accepts the text exactly if it is a JSON text, and rejects it with a parse
error otherwise. -/
structure AcceptsExactly (text : Bytes) : Prop where
  accepts : (∃ value, parseJson text = .ok value) ↔ IsJsonText isJsonSpace text
  rejects : (∃ value, parseJson text = .ok value) ∨
    ∃ message remaining, parseJson text = .error (.parse message remaining)

/-- The parser is right about a text unless the text is a JSON text but for vertical tabs
or form feeds that stand as whitespace. -/
theorem accepts_exactly_iff (text : Bytes) :
    AcceptsExactly text ↔ ¬ (IsJsonText isSpace text ∧ ∃ ch ∈ text, ch = 0x0b ∨ ch = 0x0c) := by
  constructor
  · rintro ⟨haccepts, -⟩ ⟨htext, ch, hch, hother⟩
    have hjson := haccepts.mp ((parseJson_ok_iff text).mpr htext)
    obtain ⟨htab, hfeed⟩ := hjson.no_tab_or_feed ch hch
    exact hother.elim htab hfeed
  · intro hexact
    constructor
    · rw [parseJson_ok_iff]
      constructor
      · intro htext
        refine htext.mono fun ch hch hspace => isJsonSpace_iff.mpr ⟨hspace, ?_, ?_⟩
        · exact fun htab => hexact ⟨htext, ch, hch, .inl htab⟩
        · exact fun hfeed => hexact ⟨htext, ch, hch, .inr hfeed⟩
      · exact fun htext => htext.mono fun ch _ hspace => (isJsonSpace_iff.mp hspace).1
    · cases hparse : parseJson text with
      | ok value => exact .inl ⟨value, rfl⟩
      | error fault =>
          cases fault with
          | parse message remaining => exact .inr ⟨message, remaining, rfl⟩
          | spent => exact absurd hparse (parseJson_ne_spent text)

/-- `null` behind a vertical tab is accepted. -/
theorem vertical_tab_accepted : ¬ AcceptsExactly (0x0b :: asciiBytes "null") := by
  intro hexact
  have hvalue : parseJson (0x0b :: asciiBytes "null") = .ok .null := rfl
  have hjson := hexact.accepts.mp ⟨.null, hvalue⟩
  exact (hjson.no_tab_or_feed 0x0b List.mem_cons_self).1 rfl

end AudioStudio.Rpc
