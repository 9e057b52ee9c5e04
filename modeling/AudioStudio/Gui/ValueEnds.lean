import AudioStudio.Gui.ObjectText

/-!
# Where JSON values end

The scanners of a splice find the end of every value, and so the members of an object are
read off its text in one way only.
-/

namespace AudioStudio.Gui

open AudioStudio.LittleEndian
open AudioStudio.Rpc
open AudioStudio.Rpc.Parser

/-! ## What a counter of brackets sees -/

/-- A string body as the scanners read it: behind a backslash stands any character. -/
inductive Unquoted : Bytes → Prop
  | nil : Unquoted []
  | plain {c : UInt8} {rest : Bytes} (hquote : c ≠ quote) (hbackslash : c ≠ backslash)
      (hrest : Unquoted rest) : Unquoted (c :: rest)
  | escape {c : UInt8} {rest : Bytes} (hrest : Unquoted rest) : Unquoted (backslash :: c :: rest)

theorem ne_of_hexDigit {digit other : UInt8} (hdigit : (Rpc.hexValue digit).isSome)
    (hother : Rpc.hexValue other = none) : digit ≠ other := by
  rintro rfl
  rw [hother] at hdigit
  exact absurd hdigit (by decide)

variable {rest : Bytes}

theorem Unquoted.append_digits {digits : Bytes}
    (hdigits : ∀ digit ∈ digits, (Rpc.hexValue digit).isSome) (hrest : Unquoted rest) :
    Unquoted (digits ++ rest) := by
  induction digits with
  | nil => exact hrest
  | cons digit digits ih =>
      have hdigit := hdigits digit List.mem_cons_self
      exact .plain (ne_of_hexDigit hdigit (by decide)) (ne_of_hexDigit hdigit (by decide))
        (ih fun other hother => hdigits other (List.mem_cons_of_mem digit hother))

variable {body : Bytes}

theorem IsBody.unquoted (hbody : IsBody body) : Unquoted body := by
  induction hbody with
  | nil => exact .nil
  | plain hquote hbackslash _ _ ih => exact .plain hquote hbackslash ih
  | escape _ _ ih => exact .escape ih
  | unicode _ hdigits _ ih => exact .escape (.append_digits hdigits ih)

/-- A character that no scanner stops at. -/
structure IsPlain (c : UInt8) : Prop where
  quote : c ≠ quote
  openBrace : c ≠ ascii '{'
  closeBrace : c ≠ ascii '}'
  openBracket : c ≠ ascii '['
  closeBracket : c ≠ ascii ']'

/-- A text whose strings are closed and whose brackets are paired. -/
inductive Balanced : Bytes → Prop
  | nil : Balanced []
  | plain {c : UInt8} {rest : Bytes} (hplain : IsPlain c) (hrest : Balanced rest) :
      Balanced (c :: rest)
  | string {body rest : Bytes} (hbody : Unquoted body) (hrest : Balanced rest) :
      Balanced (quoted body ++ rest)
  | braces {inner rest : Bytes} (hinner : Balanced inner) (hrest : Balanced rest) :
      Balanced (ascii '{' :: (inner ++ ascii '}' :: rest))
  | brackets {inner rest : Bytes} (hinner : Balanced inner) (hrest : Balanced rest) :
      Balanced (ascii '[' :: (inner ++ ascii ']' :: rest))

theorem Balanced.append {first second : Bytes} (hfirst : Balanced first)
    (hsecond : Balanced second) : Balanced (first ++ second) := by
  induction hfirst with
  | nil => exact hsecond
  | plain hplain _ ih => exact .plain hplain ih
  | string hbody _ ih =>
      rw [List.append_assoc]
      exact .string hbody ih
  | braces hinner _ _ ih =>
      rw [List.cons_append, List.append_assoc]
      exact .braces hinner ih
  | brackets hinner _ _ ih =>
      rw [List.cons_append, List.append_assoc]
      exact .brackets hinner ih

variable {text : Bytes}

theorem balanced_of_plain (hplain : ∀ c ∈ text, IsPlain c) : Balanced text := by
  induction text with
  | nil => exact .nil
  | cons c rest ih =>
      exact .plain (hplain c List.mem_cons_self)
        (ih fun other hother => hplain other (List.mem_cons_of_mem c hother))

variable {c : UInt8}

theorem isPlain_of_isScalarChar (hscalar : isScalarChar c = true) : IsPlain c := by
  constructor <;> exact ne_of_isScalarChar hscalar (by decide)

theorem ne_of_isBlank {other : UInt8} (hblank : isBlank c = true) (hother : isBlank other = false) :
    c ≠ other := by
  rintro rfl
  exact absurd (hblank.symm.trans hother) (by decide)

theorem isPlain_of_isBlank (hblank : isBlank c = true) : IsPlain c := by
  constructor <;> exact ne_of_isBlank hblank (by decide)

theorem Blanks.balanced (hblanks : Blanks text) : Balanced text :=
  balanced_of_plain fun c hc => isPlain_of_isBlank (hblanks c hc)

theorem IsScalar.balanced (hscalar : IsScalar text) : Balanced text :=
  balanced_of_plain fun c hc => isPlain_of_isScalarChar (hscalar.chars c hc)

theorem balanced_quoted (hbody : IsBody body) : Balanced (quoted body) := by
  have hstring := Balanced.string hbody.unquoted .nil
  rwa [List.append_nil] at hstring

theorem isPlain_comma : IsPlain (ascii ',') := by
  constructor <;> decide

theorem isPlain_colon : IsPlain (ascii ':') := by
  constructor <;> decide

theorem balanced_following {parts : List Bytes} (hparts : ∀ part ∈ parts, Balanced part) :
    Balanced (following parts) := by
  induction parts with
  | nil => exact .nil
  | cons part parts ih =>
      exact .plain isPlain_comma ((hparts part List.mem_cons_self).append
        (ih fun other hother => hparts other (List.mem_cons_of_mem part hother)))

theorem balanced_commaJoined {parts : List Bytes} (hparts : ∀ part ∈ parts, Balanced part) :
    Balanced (commaJoined parts) := by
  cases parts with
  | nil => exact .nil
  | cons part parts =>
      exact (hparts part List.mem_cons_self).append
        (balanced_following fun other hother => hparts other (List.mem_cons_of_mem part hother))

theorem JsonItem.Spaced.balanced {item : JsonItem} (hspaced : item.Spaced)
    (hvalue : Balanced item.value) : Balanced item.text :=
  hspaced.before.balanced.append (hvalue.append hspaced.after.balanced)

theorem JsonMember.Spaced.balanced {member : JsonMember} (hspaced : member.Spaced)
    (hvalue : Balanced member.value) : Balanced member.text :=
  hspaced.lead.balanced.append ((balanced_quoted hspaced.name).append
    (hspaced.behind.balanced.append (.plain isPlain_colon (hspaced.item.balanced hvalue))))

variable {inner : Bytes}

theorem balanced_inBraces (hinner : Balanced inner) :
    Balanced (ascii '{' :: (inner ++ [ascii '}'])) :=
  .braces hinner .nil

theorem balanced_inBrackets (hinner : Balanced inner) :
    Balanced (ascii '[' :: (inner ++ [ascii ']'])) :=
  .brackets hinner .nil

variable {members : List JsonMember}

theorem balanced_members (hspaced : ∀ member ∈ members, member.Spaced)
    (hvalues : ∀ member ∈ members, Balanced member.value) :
    Balanced (commaJoined (members.map JsonMember.text)) := by
  apply balanced_commaJoined
  intro part hpart
  obtain ⟨member, hmember, rfl⟩ := List.mem_map.mp hpart
  exact (hspaced member hmember).balanced (hvalues member hmember)

theorem balanced_items {items : List JsonItem} (hspaced : ∀ item ∈ items, item.Spaced)
    (hvalues : ∀ item ∈ items, Balanced item.value) :
    Balanced (commaJoined (items.map JsonItem.text)) := by
  apply balanced_commaJoined
  intro part hpart
  obtain ⟨item, hitem, rfl⟩ := List.mem_map.mp hpart
  exact (hspaced item hitem).balanced (hvalues item hitem)

variable {value : Bytes}

theorem IsValue.balanced (hvalue : IsValue value) : Balanced value := by
  induction hvalue with
  | literal hliteral => exact (isScalar_literal hliteral).balanced
  | number hnumber => exact (isScalar_number hnumber).balanced
  | string hbody => exact balanced_quoted hbody
  | emptyArray hblanks => exact balanced_inBrackets hblanks.balanced
  | array _ hspaced _ ih => exact balanced_inBrackets (balanced_items hspaced ih)
  | emptyObject hblanks => exact balanced_inBraces hblanks.balanced
  | object _ hspaced _ ih => exact balanced_inBraces (balanced_members hspaced ih)

/-! ## The scanners over balanced texts -/

theorem matchingQuoteLength_append (hbody : Unquoted body) (rest : Bytes) :
    matchingQuoteLength (body ++ quote :: rest) false = some (body.length + 1) := by
  induction hbody with
  | nil => rfl
  | plain hquote hbackslash _ ih =>
      rw [List.cons_append, matchingQuoteLength, if_neg Bool.false_ne_true, if_neg hbackslash,
        if_neg hquote, ih]
      rfl
  | escape _ ih =>
      rw [List.cons_append, List.cons_append, matchingQuoteLength, if_neg Bool.false_ne_true,
        if_pos rfl, matchingQuoteLength, if_pos rfl, ih]
      rfl

/-- The brackets that a counter is for. -/
def IsOpening (first : UInt8) : Prop :=
  first = ascii '{' ∨ first = ascii '['

/-- A scanner is where it was, behind a text of this length. -/
def behind (taken : Nat) (found : Option Nat) : Option Nat :=
  found.map (taken + ·)

theorem behind_succ (taken : Nat) (found : Option Nat) :
    (behind taken found).map (· + 1) = behind (taken + 1) found := by
  cases found with
  | none => rfl
  | some length => exact congrArg some (Nat.add_right_comm taken length 1)

theorem map_succ (found : Option Nat) : found.map (· + 1) = behind 1 found := by
  cases found with
  | none => rfl
  | some length => exact congrArg some (Nat.add_comm length 1)

theorem behind_behind (taken more : Nat) (found : Option Nat) :
    behind taken (behind more found) = behind (taken + more) found := by
  cases found with
  | none => rfl
  | some length => exact congrArg some (Nat.add_assoc taken more length).symm

variable {first : UInt8}

theorem matchingBracketLength_body (hbody : Unquoted body) (rest : Bytes) (depth : Int) :
    matchingBracketLength first (body ++ quote :: rest) depth ⟨true, false⟩ =
      behind (body.length + 1) (matchingBracketLength first rest depth {}) := by
  induction hbody with
  | nil =>
      have hread : Scan.read ⟨true, false⟩ quote = {} := rfl
      rw [List.nil_append, matchingBracketLength, if_pos rfl, hread, map_succ]
      rfl
  | @plain c tail hquote hbackslash _ ih =>
      have hread : Scan.read ⟨true, false⟩ c = ⟨true, false⟩ := by
        rw [Scan.read, if_neg Bool.false_ne_true, if_neg hbackslash, if_neg hquote]
      rw [List.cons_append, matchingBracketLength, if_pos rfl, hread, ih, behind_succ]
      rfl
  | @escape c tail _ ih =>
      have hread : Scan.read ⟨true, true⟩ c = ⟨true, false⟩ := rfl
      have hescape : Scan.read ⟨true, false⟩ backslash = ⟨true, true⟩ := rfl
      rw [List.cons_append, List.cons_append, matchingBracketLength, if_pos rfl, hescape,
        matchingBracketLength, if_pos rfl, hread, ih, behind_succ, behind_succ]
      rfl

/-- The bracket that closes an opening one. -/
def closing (first : UInt8) : UInt8 :=
  if first = ascii '{' then ascii '}' else ascii ']'

theorem matchingBracketLength_plain (hfirst : IsOpening first) (hplain : IsPlain c) (rest : Bytes)
    (depth : Int) :
    matchingBracketLength first (c :: rest) depth {} =
      (matchingBracketLength first rest depth {}).map (· + 1) := by
  have hne : c ≠ first := by
    rcases hfirst with rfl | rfl
    · exact hplain.openBrace
    · exact hplain.openBracket
  rw [matchingBracketLength, if_neg Bool.false_ne_true, if_neg hplain.quote, if_neg hne, if_neg]
  rintro (⟨_, hclose⟩ | ⟨_, hclose⟩)
  · exact hplain.closeBrace hclose
  · exact hplain.closeBracket hclose

theorem matchingBracketLength_quoted (hbody : Unquoted body) (rest : Bytes) (depth : Int) :
    matchingBracketLength first (quoted body ++ rest) depth {} =
      behind (quoted body).length (matchingBracketLength first rest depth {}) := by
  have hlength : (quoted body).length = body.length + 1 + 1 := by
    rw [quoted, List.length_cons, List.length_append, List.length_singleton]
  have htext : quoted body ++ rest = quote :: (body ++ quote :: rest) := by
    rw [quoted, List.cons_append, List.append_assoc, List.singleton_append]
  rw [htext, matchingBracketLength, if_neg Bool.false_ne_true, if_pos rfl,
    matchingBracketLength_body hbody, behind_succ, hlength]

/-- A pair of brackets: the counter goes up by what the opening one counts, and down again. -/
theorem matchingBracketLength_pair {first opening : UInt8} (hfirst : IsOpening first)
    (hopening : IsOpening opening) {inner rest : Bytes} {depth : Int} (hdepth : 1 ≤ depth)
    (hinner : ∀ (rest : Bytes) (depth : Int), 1 ≤ depth →
      matchingBracketLength first (inner ++ rest) depth {} =
        behind inner.length (matchingBracketLength first rest depth {})) :
    matchingBracketLength first (opening :: (inner ++ closing opening :: rest)) depth {} =
      behind (inner.length + 2) (matchingBracketLength first rest depth {}) := by
  by_cases hsame : opening = first
  · subst hsame
    have hopened : matchingBracketLength opening
        (opening :: (inner ++ closing opening :: rest)) depth {} =
        (matchingBracketLength opening (inner ++ closing opening :: rest) (depth + 1) {}).map
          (· + 1) := by
      rw [matchingBracketLength, if_neg Bool.false_ne_true, if_neg, if_pos rfl]
      rcases hfirst with rfl | rfl <;> decide
    have hclosed : matchingBracketLength opening (closing opening :: rest) (depth + 1) {} =
        (matchingBracketLength opening rest depth {}).map (· + 1) := by
      have hquote : closing opening ≠ quote := by rcases hfirst with rfl | rfl <;> decide
      have hother : closing opening ≠ opening := by rcases hfirst with rfl | rfl <;> decide
      have hclose : opening = ascii '{' ∧ closing opening = ascii '}' ∨
          opening = ascii '[' ∧ closing opening = ascii ']' := by
        rcases hfirst with rfl | rfl <;> decide
      have hback : depth + 1 - 1 = depth := by omega
      rw [matchingBracketLength, if_neg Bool.false_ne_true, if_neg hquote, if_neg hother,
        if_pos hclose, hback, if_neg (by omega)]
    rw [hopened, hinner _ _ (by omega), hclosed, map_succ, map_succ, behind_behind, behind_behind]
    exact congrArg (behind · _) (by omega)
  · have hskip : ∀ c, c = opening ∨ c = closing opening → ∀ tail,
        matchingBracketLength first (c :: tail) depth {} =
          (matchingBracketLength first tail depth {}).map (· + 1) := by
      intro c hc tail
      have hquote : c ≠ quote := by
        rcases hc with rfl | rfl <;> rcases hopening with rfl | rfl <;> decide
      have hne : c ≠ first := by
        rcases hc with rfl | rfl
        · exact hsame
        · rcases hopening with rfl | rfl <;> rcases hfirst with rfl | rfl <;> decide
      have hclose : ¬ (first = ascii '{' ∧ c = ascii '}' ∨ first = ascii '[' ∧ c = ascii ']') := by
        rcases hc with rfl | rfl <;> rcases hopening with rfl | rfl <;>
          rcases hfirst with rfl | rfl <;> first | exact absurd rfl hsame | decide
      rw [matchingBracketLength, if_neg Bool.false_ne_true, if_neg hquote, if_neg hne,
        if_neg hclose]
    rw [hskip opening (Or.inl rfl), hinner _ _ hdepth, hskip _ (Or.inr rfl), map_succ, map_succ,
      behind_behind, behind_behind]
    exact congrArg (behind · _) (by omega)

/-- A balanced text leaves the counter where it was. -/
theorem matchingBracketLength_balanced (hfirst : IsOpening first) (hbalanced : Balanced text) :
    ∀ (rest : Bytes) (depth : Int), 1 ≤ depth →
      matchingBracketLength first (text ++ rest) depth {} =
        behind text.length (matchingBracketLength first rest depth {}) := by
  induction hbalanced with
  | nil =>
      intro rest depth _
      rw [List.nil_append]
      cases matchingBracketLength first rest depth {} with
      | none => rfl
      | some length => exact congrArg some (Nat.zero_add length).symm
  | plain hplain _ ih =>
      intro rest depth hdepth
      rw [List.cons_append, matchingBracketLength_plain hfirst hplain, ih rest depth hdepth,
        behind_succ]
      rfl
  | string hbody _ ih =>
      intro rest depth hdepth
      rw [List.append_assoc, matchingBracketLength_quoted hbody, ih rest depth hdepth,
        behind_behind, List.length_append]
  | @braces inner tail _ _ ihInner ih =>
      intro rest depth hdepth
      rw [List.cons_append, List.append_assoc, List.cons_append]
      have hpair := @matchingBracketLength_pair first (ascii '{') hfirst (Or.inl rfl) inner
        (tail ++ rest) depth hdepth ihInner
      rw [show closing (ascii '{') = ascii '}' from rfl] at hpair
      rw [hpair, ih rest depth hdepth, behind_behind, List.length_cons, List.length_append,
        List.length_cons]
      exact congrArg (behind · _) (by omega)
  | @brackets inner tail _ _ ihInner ih =>
      intro rest depth hdepth
      rw [List.cons_append, List.append_assoc, List.cons_append]
      have hpair := @matchingBracketLength_pair first (ascii '[') hfirst (Or.inr rfl) inner
        (tail ++ rest) depth hdepth ihInner
      rw [show closing (ascii '[') = ascii ']' from rfl] at hpair
      rw [hpair, ih rest depth hdepth, behind_behind, List.length_cons, List.length_append,
        List.length_cons]
      exact congrArg (behind · _) (by omega)

/-- The counter over a bracket and what it closes. -/
theorem matchingBracketLength_closed (hfirst : IsOpening first) (hinner : Balanced inner)
    (rest : Bytes) :
    matchingBracketLength first (first :: (inner ++ closing first :: rest)) 0 {} =
      some (inner.length + 2) := by
  have hquote : first ≠ quote ∧ closing first ≠ quote ∧ closing first ≠ first := by
    rcases hfirst with rfl | rfl <;> decide
  have hclose : first = ascii '{' ∧ closing first = ascii '}' ∨
      first = ascii '[' ∧ closing first = ascii ']' := by
    rcases hfirst with rfl | rfl <;> decide
  have hclosed : matchingBracketLength first (closing first :: rest) 1 {} = some 1 := by
    rw [matchingBracketLength, if_neg Bool.false_ne_true, if_neg hquote.2.1, if_neg hquote.2.2,
      if_pos hclose, if_pos (by decide)]
  rw [matchingBracketLength, if_neg Bool.false_ne_true, if_neg hquote.1, if_pos rfl,
    matchingBracketLength_balanced hfirst hinner _ _ (by decide)]
  rw [show (0 : Int) + 1 = 1 from rfl, hclosed]
  rfl

/-! ## Lengths of values -/

theorem length_quoted (body : Bytes) : (quoted body).length = body.length + 2 := by
  rw [quoted, List.length_cons, List.length_append, List.length_singleton]

theorem quoted_append (body rest : Bytes) :
    quoted body ++ rest = quote :: (body ++ quote :: rest) := by
  rw [quoted, List.cons_append, List.append_assoc, List.singleton_append]

theorem jsonValueLength_quoted (hbody : Unquoted body) (rest : Bytes) :
    jsonValueLength (quoted body ++ rest) = some (quoted body).length := by
  rw [quoted_append, jsonValueLength, if_neg (by decide), if_pos rfl,
    matchingQuoteLength_append hbody, length_quoted]
  rfl

theorem jsonValueLength_closed (hfirst : IsOpening first) (hinner : Balanced inner) (rest : Bytes) :
    jsonValueLength (first :: (inner ++ closing first :: rest)) = some (inner.length + 2) := by
  have hopening : first = ascii '{' ∨ first = ascii '[' := hfirst
  rw [jsonValueLength, if_pos hopening, matchingBracketLength_closed hfirst hinner]

/-- A value that ends itself: a string, an array or an object. -/
structure IsClosed (value : Bytes) : Prop where
  opened : ∃ first ∈ value.head?, IsOpening first ∨ first = quote
  closed : ∃ front last, value = front ++ [last] ∧
    (last = ascii '}' ∨ last = ascii ']' ∨ last = quote)
  ends : ∀ rest, jsonValueLength (value ++ rest) = some value.length

theorem isClosed_quoted (hbody : IsBody body) : IsClosed (quoted body) where
  opened := ⟨quote, rfl, Or.inr rfl⟩
  closed := ⟨quote :: body, quote, rfl, Or.inr (Or.inr rfl)⟩
  ends := jsonValueLength_quoted hbody.unquoted

theorem isClosed_bracketed (hfirst : IsOpening first) (hinner : Balanced inner) :
    IsClosed (first :: (inner ++ [closing first])) where
  opened := ⟨first, rfl, Or.inl hfirst⟩
  closed := by
    refine ⟨first :: inner, closing first, rfl, ?_⟩
    rcases hfirst with rfl | rfl
    · exact Or.inl rfl
    · exact Or.inr (Or.inl rfl)
  ends := by
    intro rest
    rw [List.cons_append, List.append_assoc, List.singleton_append,
      jsonValueLength_closed hfirst hinner, List.length_cons, List.length_append,
      List.length_singleton]

theorem IsValue.scalar_or_closed (hvalue : IsValue value) : IsScalar value ∨ IsClosed value := by
  cases hvalue with
  | literal hliteral => exact Or.inl (isScalar_literal hliteral)
  | number hnumber => exact Or.inl (isScalar_number hnumber)
  | string hbody => exact Or.inr (isClosed_quoted hbody)
  | emptyArray hblanks => exact Or.inr (isClosed_bracketed (Or.inr rfl) hblanks.balanced)
  | array _ hspaced hvalues =>
      exact Or.inr (isClosed_bracketed (Or.inr rfl)
        (balanced_items hspaced fun item hitem => (hvalues item hitem).balanced))
  | emptyObject hblanks => exact Or.inr (isClosed_bracketed (Or.inl rfl) hblanks.balanced)
  | object _ hspaced hvalues =>
      exact Or.inr (isClosed_bracketed (Or.inl rfl)
        (balanced_members hspaced fun member hmember => (hvalues member hmember).balanced))

/-- A scalar runs to the next comma or closing bracket. -/
theorem jsonValueLength_scalar (hscalar : IsScalar value) (rest : Bytes) :
    jsonValueLength (value ++ rest) = some (value.length + (rest.takeWhile fun c =>
      c ≠ ascii ',' ∧ c ≠ ascii '}' ∧ c ≠ ascii ']').length) := by
  obtain ⟨hne, hchars⟩ := hscalar
  have htaken : ∀ c ∈ value, decide (c ≠ ascii ',' ∧ c ≠ ascii '}' ∧ c ≠ ascii ']') = true :=
    fun c hc => decide_eq_true ⟨ne_of_isScalarChar (hchars c hc) (by decide),
      ne_of_isScalarChar (hchars c hc) (by decide), ne_of_isScalarChar (hchars c hc) (by decide)⟩
  cases value with
  | nil => exact absurd rfl hne
  | cons first tail =>
      have hplain := isPlain_of_isScalarChar (hchars first List.mem_cons_self)
      have hopening : ¬ (first = ascii '{' ∨ first = ascii '[') := by
        rintro (hopen | hopen)
        · exact hplain.openBrace hopen
        · exact hplain.openBracket hopen
      rw [List.cons_append, jsonValueLength, if_neg hopening, if_neg hplain.quote,
        ← List.cons_append, List.takeWhile_append_of_pos htaken, List.length_append]

/-! ## One way to read -/

variable {rest' : Bytes}

/-- A run of characters of a class in front of what is not of the class. -/
theorem run_unique {kind : UInt8 → Bool} {run run' : Bytes} (hrun : ∀ c ∈ run, kind c = true)
    (hrun' : ∀ c ∈ run', kind c = true) (hrest : ∀ c ∈ rest.head?, kind c = false)
    (hrest' : ∀ c ∈ rest'.head?, kind c = false) (heq : run ++ rest = run' ++ rest') :
    run = run' ∧ rest = rest' := by
  have hstops : ∀ {rest : Bytes},
      (∀ c ∈ rest.head?, kind c = false) → rest.takeWhile kind = [] := by
    intro rest hrest
    cases rest with
    | nil => rfl
    | cons c rest =>
        have hc : ¬ kind c = true := by rw [hrest c rfl]; exact Bool.false_ne_true
        exact List.takeWhile_cons_of_neg hc
  have htaken := congrArg (List.takeWhile kind) heq
  rw [List.takeWhile_append_of_pos hrun, List.takeWhile_append_of_pos hrun', hstops hrest,
    hstops hrest', List.append_nil, List.append_nil] at htaken
  exact ⟨htaken, by rwa [htaken, List.append_cancel_left_eq] at heq⟩

variable {value' : Bytes}

theorem closed_unique (hvalue : IsClosed value) (hvalue' : IsClosed value')
    (heq : value ++ rest = value' ++ rest') : value = value' ∧ rest = rest' := by
  have hlength := congrArg jsonValueLength heq
  rw [hvalue.ends, hvalue'.ends] at hlength
  exact List.append_inj heq (Option.some.inj hlength)

theorem not_scalar_closed (hvalue : IsScalar value) (hvalue' : IsClosed value') :
    value ++ rest ≠ value' ++ rest' := by
  intro heq
  obtain ⟨first, hfirst, hopened⟩ := hvalue'.opened
  cases value with
  | nil => exact hvalue.ne_nil rfl
  | cons c tail =>
      cases value' with
      | nil => exact absurd hfirst (Option.not_mem_none first)
      | cons c' tail' =>
          have hc : c = c' := (List.cons.inj heq).1
          have hplain := isPlain_of_isScalarChar (hvalue.chars c List.mem_cons_self)
          rw [hc, Option.some.inj hfirst] at hplain
          rcases hopened with (hopen | hopen) | hopen
          · exact hplain.openBrace hopen
          · exact hplain.openBracket hopen
          · exact hplain.quote hopen

/-- What stands behind a value or its white space, and continues neither. -/
def Stops (rest : Bytes) : Prop :=
  ∀ c ∈ rest.head?, isBlank c = false ∧ isScalarChar c = false

theorem value_unique (hvalue : IsValue value) (hvalue' : IsValue value')
    (hrest : ∀ c ∈ rest.head?, isScalarChar c = false)
    (hrest' : ∀ c ∈ rest'.head?, isScalarChar c = false) (heq : value ++ rest = value' ++ rest') :
    value = value' ∧ rest = rest' := by
  rcases hvalue.scalar_or_closed with hscalar | hclosed
  · rcases hvalue'.scalar_or_closed with hscalar' | hclosed'
    · exact run_unique hscalar.chars hscalar'.chars hrest hrest' heq
    · exact absurd heq (not_scalar_closed hscalar hclosed')
  · rcases hvalue'.scalar_or_closed with hscalar' | hclosed'
    · exact absurd heq.symm (not_scalar_closed hscalar' hclosed)
    · exact closed_unique hclosed hclosed' heq

theorem not_blank_of_scalar (hscalar : isScalarChar c = true) : isBlank c = false := by
  cases hblank : isBlank c with
  | false => rfl
  | true =>
      simp only [isBlank, decide_eq_true_eq] at hblank
      rcases hblank with rfl | rfl | rfl | rfl <;> exact absurd hscalar (by decide)

theorem not_scalar_of_blank (hblank : isBlank c = true) : isScalarChar c = false := by
  cases hscalar : isScalarChar c with
  | false => rfl
  | true => exact absurd ((not_blank_of_scalar hscalar).symm.trans hblank) (by decide)

/-- White space and what it stands in front of. -/
theorem head_blanks_append {blanks : Bytes} (hblanks : Blanks blanks) {kind : UInt8 → Prop}
    (hrest : ∀ c ∈ rest.head?, kind c) (hkind : ∀ c, isBlank c = true → kind c) :
    ∀ c ∈ (blanks ++ rest).head?, kind c := by
  cases blanks with
  | nil => exact hrest
  | cons first blanks =>
      intro c hc
      rw [← Option.some.inj hc]
      exact hkind first (hblanks first List.mem_cons_self)

theorem value_head (hvalue : IsValue value) (rest : Bytes) :
    ∀ c ∈ (value ++ rest).head?, isBlank c = false := by
  rcases hvalue.scalar_or_closed with hscalar | hclosed
  · cases value with
    | nil => exact absurd rfl hscalar.ne_nil
    | cons first tail =>
        intro c hc
        rw [← Option.some.inj hc]
        exact not_blank_of_scalar (hscalar.chars first List.mem_cons_self)
  · obtain ⟨first, hfirst, hopened⟩ := hclosed.opened
    cases value with
    | nil => exact absurd hfirst (Option.not_mem_none first)
    | cons head tail =>
        intro c hc
        rw [← Option.some.inj hc, Option.some.inj hfirst]
        rcases hopened with (rfl | rfl) | rfl <;> decide

theorem item_unique {item item' : JsonItem} (hspaced : item.Spaced) (hspaced' : item'.Spaced)
    (hvalue : IsValue item.value) (hvalue' : IsValue item'.value) (hrest : Stops rest)
    (hrest' : Stops rest') (heq : item.text ++ rest = item'.text ++ rest') :
    item = item' ∧ rest = rest' := by
  obtain ⟨before, value, after⟩ := item
  obtain ⟨before', value', after'⟩ := item'
  simp only [JsonItem.text, List.append_assoc] at heq
  obtain ⟨hbefore, hfirst⟩ := run_unique hspaced.before hspaced'.before (value_head hvalue _)
    (value_head hvalue' _) heq
  obtain ⟨hvalues, hsecond⟩ := value_unique hvalue hvalue'
    (head_blanks_append hspaced.after (fun c hc => (hrest c hc).2) fun _ => not_scalar_of_blank)
    (head_blanks_append hspaced'.after (fun c hc => (hrest' c hc).2) fun _ => not_scalar_of_blank)
    hfirst
  obtain ⟨hafter, hend⟩ := run_unique hspaced.after hspaced'.after
    (fun c hc => (hrest c hc).1) (fun c hc => (hrest' c hc).1) hsecond
  simp only at hbefore hvalues hafter
  subst hbefore hvalues hafter
  exact ⟨rfl, hend⟩

theorem member_unique {member member' : JsonMember} (hspaced : member.Spaced)
    (hspaced' : member'.Spaced) (hvalue : IsValue member.value) (hvalue' : IsValue member'.value)
    (hrest : Stops rest) (hrest' : Stops rest') (heq : member.text ++ rest = member'.text ++ rest')
    : member = member' ∧ rest = rest' := by
  obtain ⟨item, lead, name, behind⟩ := member
  obtain ⟨item', lead', name', behind'⟩ := member'
  have hquote : ∀ body tail : Bytes, ∀ c ∈ (quoted body ++ tail).head?, isBlank c = false := by
    intro body tail c hc
    rw [← Option.some.inj hc]
    decide
  have hcolon : ∀ tail : Bytes, ∀ c ∈ (ascii ':' :: tail).head?, isBlank c = false := by
    intro tail c hc
    rw [← Option.some.inj hc]
    decide
  simp only [JsonMember.text, List.append_assoc, List.cons_append] at heq
  obtain ⟨hlead, hfirst⟩ := run_unique hspaced.lead hspaced'.lead (hquote _ _) (hquote _ _) heq
  obtain ⟨hname, hsecond⟩ := closed_unique (isClosed_quoted hspaced.name)
    (isClosed_quoted hspaced'.name) hfirst
  obtain ⟨hbehind, hthird⟩ := run_unique hspaced.behind hspaced'.behind (hcolon _) (hcolon _)
    hsecond
  obtain ⟨hitem, hend⟩ := item_unique hspaced.item hspaced'.item hvalue hvalue' hrest hrest'
    (List.cons.inj hthird).2
  have hbody : name = name' := List.append_cancel_right (List.cons.inj hname).2
  simp only at hlead hbehind hitem
  subst hlead hbody hbehind hitem
  exact ⟨rfl, hend⟩

theorem stops_cons (hc : isBlank c = false ∧ isScalarChar c = false) (rest : Bytes) :
    Stops (c :: rest) := by
  intro head hhead
  rw [← Option.some.inj hhead]
  exact hc

theorem stops_following (members : List JsonMember) (hrest : Stops rest) :
    Stops (following (members.map JsonMember.text) ++ rest) := by
  cases members with
  | nil => exact hrest
  | cons member members => exact stops_cons (by decide) _

theorem following_cons_append (part : Bytes) (parts : List Bytes) (rest : Bytes) :
    following (part :: parts) ++ rest = ascii ',' :: (part ++ (following parts ++ rest)) := by
  change (ascii ',' :: part ++ following parts) ++ rest = _
  rw [List.append_assoc, List.cons_append]

/-- Members behind commas, up to a character that is not one. -/
theorem following_unique {members' : List JsonMember} {c' : UInt8}
    (hmembers : ∀ member ∈ members, member.Spaced ∧ IsValue member.value)
    (hmembers' : ∀ member ∈ members', member.Spaced ∧ IsValue member.value)
    (hstops : Stops (c :: rest)) (hstops' : Stops (c' :: rest'))
    (hc : c ≠ ascii ',') (hc' : c' ≠ ascii ',')
    (heq : following (members.map JsonMember.text) ++ c :: rest =
      following (members'.map JsonMember.text) ++ c' :: rest') : members = members' ∧ c = c' := by
  induction members generalizing members' with
  | nil =>
      cases members' with
      | nil => exact ⟨rfl, (List.cons.inj heq).1⟩
      | cons member' members' => exact absurd (List.cons.inj heq).1 hc
  | cons member members ih =>
      cases members' with
      | nil => exact absurd (List.cons.inj heq).1.symm hc'
      | cons member' members' =>
          rw [List.map_cons, List.map_cons, following_cons_append, following_cons_append] at heq
          have htail := (List.cons.inj heq).2
          obtain ⟨hspaced, hvalue⟩ := hmembers member List.mem_cons_self
          obtain ⟨hspaced', hvalue'⟩ := hmembers' member' List.mem_cons_self
          obtain ⟨rfl, hrest⟩ := member_unique hspaced hspaced' hvalue hvalue'
            (stops_following members hstops) (stops_following members' hstops') htail
          obtain ⟨rfl, hchar⟩ := ih
            (fun other hother => hmembers other (List.mem_cons_of_mem _ hother))
            (fun other hother => hmembers' other (List.mem_cons_of_mem _ hother)) hrest
          exact ⟨rfl, hchar⟩

/-- An object up to behind its members. -/
def ObjectText.opened (object : ObjectText) (rest : Bytes) : Bytes :=
  object.lead ++ ascii '{' :: (object.blanks ++
    (commaJoined (object.members.map JsonMember.text) ++ rest))

theorem commaJoined_members_append (hne : members ≠ []) (rest : Bytes) :
    ascii ',' :: (commaJoined (members.map JsonMember.text) ++ rest) =
      following (members.map JsonMember.text) ++ rest := by
  rw [following_eq (List.map_eq_nil_iff.not.mpr hne), List.cons_append]

/-- The name that a member begins with behind its white space. -/
theorem member_ne_blanks (hne : members ≠ []) (hmembers : ∀ member ∈ members, member.Spaced)
    {blanks : Bytes} (hblanks : Blanks blanks) (hblank : isBlank c = false) (hquote : c ≠ quote) :
    blanks ++ c :: rest ≠ commaJoined (members.map JsonMember.text) ++ rest' := by
  intro heq
  cases members with
  | nil => exact hne rfl
  | cons member members =>
      have hstart : ∀ c' ∈ (c :: rest).head?, isBlank c' = false := by
        intro c' hc'
        rw [← Option.some.inj hc']
        exact hblank
      have hname : ∀ tail : Bytes, ∀ c' ∈ (quoted member.name ++ tail).head?,
          isBlank c' = false := by
        intro tail c' hc'
        rw [← Option.some.inj hc']
        decide
      simp only [List.map_cons, commaJoined, JsonMember.text, List.append_assoc] at heq
      obtain ⟨_, hrest⟩ := run_unique hblanks (hmembers member List.mem_cons_self).lead hstart
        (hname _) heq
      exact hquote (List.cons.inj hrest).1

/-- The members of an object are read off its text in one way, and no text goes on behind
them with another character. -/
theorem opened_unique {object object' : ObjectText} (hvalid : object.Valid)
    (hvalid' : object'.Valid) (hstops : Stops (c :: rest))
    (hcomma : c ≠ ascii ',') (hne : c = ascii '}' ∨ object.members ≠ [])
    (heq : object.opened (c :: rest) = object'.text) :
    object.members = object'.members ∧ c = ascii '}' := by
  have hbrace : ∀ tail : Bytes, ∀ c ∈ (ascii '{' :: tail).head?, isBlank c = false := by
    intro tail c hc
    rw [← Option.some.inj hc]
    decide
  obtain ⟨_, hopen⟩ := run_unique hvalid.lead hvalid'.lead (hbrace _) (hbrace _) heq
  have hinner := (List.cons.inj hopen).2
  have hclose : Stops (ascii '}' :: object'.trail) := stops_cons (by decide) _
  have hblank := (hstops c rfl).1
  by_cases hmembers : object.members = []
  · have hc := hne.resolve_right (not_not.mpr hmembers)
    by_cases hmembers' : object'.members = []
    · exact ⟨hmembers.trans hmembers'.symm, hc⟩
    · rw [hmembers, hvalid'.inner hmembers'] at hinner
      refine absurd hinner (member_ne_blanks hmembers' hvalid'.spaced hvalid.blanks hblank ?_)
      rw [hc]
      decide
  · by_cases hmembers' : object'.members = []
    · rw [hmembers', hvalid.inner hmembers] at hinner
      exact absurd hinner.symm (member_ne_blanks hmembers hvalid.spaced hvalid'.blanks
        (by decide) (by decide))
    · rw [hvalid.inner hmembers, hvalid'.inner hmembers', List.nil_append,
        List.nil_append] at hinner
      have hfollowing := congrArg (ascii ',' :: ·) hinner
      simp only [commaJoined_members_append hmembers, commaJoined_members_append hmembers']
        at hfollowing
      exact following_unique (fun member hmember => ⟨hvalid.spaced member hmember,
        hvalid.values member hmember⟩) (fun member hmember => ⟨hvalid'.spaced member hmember,
        hvalid'.values member hmember⟩) hstops hclose hcomma (by decide) hfollowing

end AudioStudio.Gui
