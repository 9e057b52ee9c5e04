import AudioStudio.Rpc.JsonRoundTrip
import Mathlib.Data.List.TakeWhile

/-!
# Accepted texts

What the parser returns is well formed, so printing it and parsing again gives the
same value.  The bound on the recursion of the model never ends a run.
-/

namespace AudioStudio.Rpc

open AudioStudio.LittleEndian

namespace Parser

variable {α β : Type} {reader : JsonReader α} {next : α → JsonReader β} {input rest : Bytes}

/-! ## Numbers -/

theorem of_consume_true {ch : UInt8} (hconsume : consume ch input = .ok (true, rest)) :
    input = ch :: rest := by
  cases input with
  | nil => cases hconsume
  | cons first tail =>
      by_cases hfirst : first = ch
      · subst hfirst
        rw [consume_cons] at hconsume
        cases hconsume
        rfl
      · rw [consume_cons_of_ne hfirst] at hconsume
        cases hconsume

theorem of_consume_false {ch : UInt8} (hconsume : consume ch input = .ok (false, rest)) :
    rest = input ∧ input.head? ≠ some ch := by
  cases input with
  | nil =>
      cases hconsume
      exact ⟨rfl, nofun⟩
  | cons first tail =>
      by_cases hfirst : first = ch
      · subst hfirst
        rw [consume_cons] at hconsume
        cases hconsume
      · rw [consume_cons_of_ne hfirst] at hconsume
        cases hconsume
        exact ⟨rfl, fun hhead => hfirst (Option.some.inj hhead)⟩

theorem of_consumeEither {first second : UInt8} {taken : Bool}
    (hconsume : consumeEither first second input = .ok (taken, rest)) :
    match taken with
    | true => input = first :: rest ∨ input = second :: rest
    | false => rest = input := by
  obtain ⟨consumed, middle, hfirst, hsecond⟩ := of_bind_ok hconsume
  cases consumed with
  | true =>
      cases hsecond
      exact Or.inl (of_consume_true hfirst)
  | false =>
      obtain ⟨rfl, _⟩ := of_consume_false hfirst
      cases taken with
      | true => exact Or.inr (of_consume_true hsecond)
      | false => exact (of_consume_false hsecond).1

theorem of_consumeDigits {message : String} (hdigits : consumeDigits message input = .ok ((), rest)) :
    ∃ digits, IsDigits digits ∧ input = digits ++ rest := by
  unfold consumeDigits at hdigits
  split at hdigits
  · cases hdigits
  · next hne =>
      cases hdigits
      exact ⟨_, ⟨hne, fun ch hch => List.mem_takeWhile_imp hch⟩, List.takeWhile_append_dropWhile.symm⟩

theorem of_skipExponent (hskip : skipExponent input = .ok ((), rest)) :
    ∃ exponent, IsExponent exponent ∧ input = exponent ++ rest := by
  obtain ⟨taken, behindMark, hmark, hskip⟩ := of_bind_ok hskip
  have hmark := of_consumeEither hmark
  cases taken with
  | false =>
      cases hskip
      exact ⟨[], Or.inl rfl, hmark.symm⟩
  | true =>
      obtain ⟨signed, behindSign, hsign, hdigits⟩ := of_bind_ok hskip
      obtain ⟨digits, hisDigits, rfl⟩ := of_consumeDigits hdigits
      have hsign := of_consumeEither hsign
      have hsplit : ∃ sign, (sign = [] ∨ sign = [ascii '+'] ∨ sign = [ascii '-']) ∧
          behindMark = sign ++ (digits ++ rest) := by
        cases signed with
        | false => exact ⟨[], Or.inl rfl, hsign.symm⟩
        | true =>
            rcases hsign with hplus | hminus
            · exact ⟨_, Or.inr (Or.inl rfl), hplus⟩
            · exact ⟨_, Or.inr (Or.inr rfl), hminus⟩
      obtain ⟨sign, hissign, rfl⟩ := hsplit
      have hmarked : ∃ mark, (mark = ascii 'e' ∨ mark = ascii 'E') ∧
          input = mark :: (sign ++ (digits ++ rest)) := by
        rcases hmark with hlower | hupper
        · exact ⟨_, Or.inl rfl, hlower⟩
        · exact ⟨_, Or.inr rfl, hupper⟩
      obtain ⟨mark, hismark, rfl⟩ := hmarked
      refine ⟨mark :: (sign ++ digits), Or.inr ⟨mark, sign, digits, hismark, hissign, hisDigits, rfl⟩, ?_⟩
      rw [List.cons_append, List.append_assoc]

theorem of_skipFraction (hskip : skipFraction input = .ok ((), rest)) :
    ∃ fraction exponent, IsFraction fraction ∧ IsExponent exponent ∧
      input = fraction ++ (exponent ++ rest) := by
  obtain ⟨dot, behindDot, hdot, hafter⟩ := of_bind_ok hskip
  cases dot with
  | false =>
      obtain ⟨rfl, _⟩ := of_consume_false hdot
      obtain ⟨exponent, hexponent, hinput⟩ := of_skipExponent hafter
      exact ⟨[], exponent, Or.inl rfl, hexponent, hinput⟩
  | true =>
      obtain ⟨_, behindDigits, hdigits, htail⟩ := of_bind_ok hafter
      obtain ⟨exponent, hexponent, rfl⟩ := of_skipExponent htail
      obtain ⟨digits, hisDigits, rfl⟩ := of_consumeDigits hdigits
      exact ⟨ascii '.' :: digits, exponent, Or.inr ⟨digits, hisDigits, rfl⟩, hexponent,
        of_consume_true hdot⟩

theorem of_skipInteger (hskip : skipInteger input = .ok ((), rest)) :
    ∃ integer, IsInteger integer ∧ input = integer ++ rest := by
  obtain ⟨zero, behindZero, hzero, hafter⟩ := of_bind_ok hskip
  cases zero with
  | false =>
      obtain ⟨rfl, hhead⟩ := of_consume_false hzero
      obtain ⟨digits, hdigits, rfl⟩ := of_consumeDigits hafter
      refine ⟨digits, Or.inr ⟨hdigits, fun hfirst => hhead ?_⟩, rfl⟩
      rw [List.head?_append, hfirst]
      rfl
  | true =>
      obtain ⟨next, same, hpeek, hdone⟩ := of_bind_ok hafter
      cases hpeek
      split at hdone
      · cases hdone
      · cases hdone
        exact ⟨[ascii '0'], Or.inl rfl, of_consume_true hzero⟩

theorem of_skipNumber (hskip : skipNumber input = .ok ((), rest)) :
    ∃ scalar, IsNumber scalar ∧ input = scalar ++ rest := by
  obtain ⟨minus, behindSign, hminus, hbody⟩ := of_bind_ok hskip
  obtain ⟨_, behindInteger, hinteger, htail⟩ := of_bind_ok hbody
  obtain ⟨fraction, exponent, hfraction, hexponent, rfl⟩ := of_skipFraction htail
  obtain ⟨integer, hisInteger, rfl⟩ := of_skipInteger hinteger
  have hsign : ∃ sign, IsSign sign ∧
      input = sign ++ (integer ++ (fraction ++ (exponent ++ rest))) := by
    cases minus with
    | false => exact ⟨[], Or.inl rfl, (of_consume_false hminus).1.symm⟩
    | true => exact ⟨_, Or.inr rfl, of_consume_true hminus⟩
  obtain ⟨sign, hissign, rfl⟩ := hsign
  refine ⟨_, ⟨sign, integer, fraction, exponent, hissign, hisInteger, hfraction, hexponent, rfl⟩, ?_⟩
  simp only [List.append_assoc]

theorem parseNumber_wellFormed {value : JsonValue}
    (hparse : parseNumber input = .ok (value, rest)) : value.WellFormed := by
  unfold parseNumber at hparse
  cases hskip : skipNumber input with
  | error fault =>
      rw [hskip] at hparse
      cases hparse
  | ok read =>
      rw [hskip] at hparse
      obtain ⟨scalar, hscalar, rfl⟩ := of_skipNumber hskip
      cases hparse
      rw [JsonValue.WellFormed, List.length_append, Nat.add_sub_cancel, List.take_left]
      exact hscalar

end Parser

/-! ## Objects -/

theorem mem_emplace {key : Bytes} {value : JsonValue} {members : JsonMembers}
    {member : Bytes × JsonValue} (hmember : member ∈ emplace key value members) :
    member = (key, value) ∨ member ∈ members := by
  induction members with
  | nil => exact Or.inl (List.mem_singleton.mp hmember)
  | cons first members ih =>
      obtain ⟨name, held⟩ := first
      unfold emplace at hmember
      split at hmember
      · exact List.mem_cons.mp hmember
      · split at hmember
        · exact Or.inr hmember
        · rcases List.mem_cons.mp hmember with rfl | htail
          · exact Or.inr List.mem_cons_self
          · exact (ih htail).imp_right (List.mem_cons_of_mem _)

/-- A map stays a map. -/
theorem ascending_emplace (key : Bytes) (value : JsonValue) {members : JsonMembers}
    (hascending : Ascending members) : Ascending (emplace key value members) := by
  induction members with
  | nil => exact List.pairwise_singleton _ _
  | cons first members ih =>
      obtain ⟨name, held⟩ := first
      obtain ⟨hfirst, hmembers⟩ := List.pairwise_cons.mp hascending
      unfold emplace
      split
      · next hlt =>
          refine List.pairwise_cons.mpr ⟨fun other hother => ?_, hascending⟩
          rcases List.mem_cons.mp hother with rfl | htail
          · exact hlt
          · exact List.lt_trans hlt (hfirst other htail)
      · next hnot =>
          split
          · exact hascending
          · next hne =>
              have hbehind : name < key :=
                (List.le_iff_lt_or_eq.mp (List.not_lt.mp hnot)).resolve_right (Ne.symm hne)
              refine List.pairwise_cons.mpr ⟨fun other hother => ?_, ih hmembers⟩
              rcases mem_emplace hother with rfl | htail
              · exact hbehind
              · exact hfirst other htail

/-! ## Values -/

namespace Parser

variable {input rest : Bytes}

theorem of_parseLiteral {literal : Bytes} {value result : JsonValue}
    (hparse : parseLiteral literal value input = .ok (result, rest)) : result = value := by
  unfold parseLiteral at hparse
  split at hparse
  · cases hparse
    rfl
  · cases hparse

/-- The parser returns well-formed values, its loops lists of them, and an object is
a map at every turn. -/
theorem parse_wellFormed (fuel : Nat) :
    (∀ input value rest, parseValue fuel input = .ok (value, rest) → value.WellFormed) ∧
    (∀ input items rest, parseElements fuel input = .ok (items, rest) → WellFormedItems items) ∧
    ∀ before, Ascending before → WellFormedMembers before → ∀ input members rest,
      parseMembers fuel before input = .ok (members, rest) →
        Ascending members ∧ WellFormedMembers members := by
  induction fuel with
  | zero => exact ⟨nofun, nofun, nofun⟩
  | succ fuel ih =>
      obtain ⟨ihValue, ihElements, ihMembers⟩ := ih
      refine ⟨?_, ?_, ?_⟩
      · intro input value rest hparse
        rw [parseValue] at hparse
        obtain ⟨_, start, _, hparse⟩ := of_bind_ok hparse
        obtain ⟨next, same, _, hparse⟩ := of_bind_ok hparse
        split at hparse
        · cases hparse
        split at hparse
        · rw [of_parseLiteral hparse]
          trivial
        split at hparse
        · rw [of_parseLiteral hparse]
          trivial
        split at hparse
        · rw [of_parseLiteral hparse]
          trivial
        split at hparse
        · obtain ⟨text, behindText, _, hparse⟩ := of_bind_ok hparse
          cases hparse
          trivial
        split at hparse
        · obtain ⟨_, behindOpen, _, hparse⟩ := of_bind_ok hparse
          obtain ⟨_, inside, _, hparse⟩ := of_bind_ok hparse
          obtain ⟨empty, behindClose, _, hparse⟩ := of_bind_ok hparse
          split at hparse
          · cases hparse
            trivial
          · obtain ⟨items, behindItems, hitems, hparse⟩ := of_bind_ok hparse
            cases hparse
            exact ihElements _ _ _ hitems
        split at hparse
        · obtain ⟨_, behindOpen, _, hparse⟩ := of_bind_ok hparse
          obtain ⟨_, inside, _, hparse⟩ := of_bind_ok hparse
          obtain ⟨empty, behindClose, _, hparse⟩ := of_bind_ok hparse
          split at hparse
          · cases hparse
            exact ⟨List.Pairwise.nil, trivial⟩
          · obtain ⟨members, behindMembers, hmembers, hparse⟩ := of_bind_ok hparse
            cases hparse
            exact ihMembers [] List.Pairwise.nil trivial _ _ _ hmembers
        split at hparse
        · exact parseNumber_wellFormed hparse
        · cases hparse
      · intro input items rest hparse
        rw [parseElements] at hparse
        obtain ⟨item, behindItem, hitem, hparse⟩ := of_bind_ok hparse
        obtain ⟨_, start, _, hparse⟩ := of_bind_ok hparse
        obtain ⟨close, behindClose, _, hparse⟩ := of_bind_ok hparse
        split at hparse
        · cases hparse
          exact ⟨ihValue _ _ _ hitem, trivial⟩
        · obtain ⟨_, behindComma, _, hparse⟩ := of_bind_ok hparse
          obtain ⟨tail, behindTail, htail, hparse⟩ := of_bind_ok hparse
          cases hparse
          exact ⟨ihValue _ _ _ hitem, ihElements _ _ _ htail⟩
      · intro before hascending hbefore input members rest hparse
        rw [parseMembers] at hparse
        obtain ⟨_, start, _, hparse⟩ := of_bind_ok hparse
        obtain ⟨next, same, _, hparse⟩ := of_bind_ok hparse
        split at hparse
        · cases hparse
        obtain ⟨key, behindKey, _, hparse⟩ := of_bind_ok hparse
        obtain ⟨_, beforeColon, _, hparse⟩ := of_bind_ok hparse
        obtain ⟨_, behindColon, _, hparse⟩ := of_bind_ok hparse
        obtain ⟨value, behindValue, hvalue, hparse⟩ := of_bind_ok hparse
        obtain ⟨_, beforeClose, _, hparse⟩ := of_bind_ok hparse
        obtain ⟨close, behindClose, _, hparse⟩ := of_bind_ok hparse
        have hadded : WellFormedMembers (emplace key value before) := by
          rw [wellFormedMembers_iff] at hbefore ⊢
          intro member hmember
          rcases mem_emplace hmember with rfl | hold
          · exact ihValue _ _ _ hvalue
          · exact hbefore member hold
        split at hparse
        · cases hparse
          exact ⟨ascending_emplace key value hascending, hadded⟩
        · obtain ⟨_, behindComma, _, hparse⟩ := of_bind_ok hparse
          exact ihMembers _ (ascending_emplace key value hascending) hadded _ _ _ hparse

/-! ## The bound -/

/-- At this input the reader takes at least `count` bytes or fails for a reason of
the parser, never for the bound. -/
def Takes {α : Type} (count : Nat) (reader : JsonReader α) (input : Bytes) : Prop :=
  match reader input with
  | .ok (_, rest) => rest.length + count ≤ input.length
  | .error fault => fault ≠ .spent

theorem takes_fail {α : Type} (count : Nat) (message : String) (input : Bytes) :
    Takes count (fail message : JsonReader α) input :=
  nofun

theorem takes_pure {α : Type} (value : α) (input : Bytes) :
    Takes 0 (pure value : JsonReader α) input :=
  Nat.le_refl _

theorem Takes.mono {α : Type} {reader : JsonReader α} {count less : Nat}
    (htakes : Takes count reader input) (hless : less ≤ count) : Takes less reader input := by
  unfold Takes at htakes ⊢
  cases hreader : reader input with
  | error fault =>
      rw [hreader] at htakes
      exact htakes
  | ok read =>
      rw [hreader] at htakes
      dsimp only at htakes ⊢
      omega

theorem Takes.bind {α β : Type} {reader : JsonReader α} {next : α → JsonReader β}
    {count more : Nat} (hreader : Takes count reader input)
    (hnext : ∀ value rest, rest.length + count ≤ input.length → Takes more (next value) rest) :
    Takes (count + more) (reader >>= next) input := by
  unfold Takes at hreader
  cases hread : reader input with
  | error fault =>
      rw [hread] at hreader
      have hbind : (reader >>= next) input = .error fault := by
        change (reader input >>= fun read => next read.1 read.2) = _
        rw [hread]
        rfl
      unfold Takes
      rw [hbind]
      exact hreader
  | ok read =>
      rw [hread] at hreader
      have htail := hnext read.1 read.2 hreader
      unfold Takes at htail ⊢
      rw [bind_ok hread]
      cases hresult : next read.1 read.2 with
      | error fault =>
          rw [hresult] at htail
          exact htail
      | ok result =>
          rw [hresult] at htail
          dsimp only at htail hreader ⊢
          omega

/-- A sequence takes what its second part takes. -/
theorem Takes.andThen {α β : Type} {reader : JsonReader α} {next : α → JsonReader β}
    {count more : Nat} (hreader : Takes count reader input)
    (hnext : ∀ value rest, rest.length + count ≤ input.length → Takes more (next value) rest) :
    Takes more (reader >>= next) input :=
  (hreader.bind hnext).mono (Nat.le_add_left _ _)

theorem takes_skipSpace (input : Bytes) : Takes 0 skipSpace input :=
  (List.dropWhile_sublist _).length_le

theorem takes_current (input : Bytes) : Takes 0 current input :=
  Nat.le_refl _

theorem takes_peek (input : Bytes) : Takes 0 peek input :=
  Nat.le_refl _

theorem takes_consume (ch : UInt8) (input : Bytes) : Takes 0 (consume ch) input := by
  cases input with
  | nil => exact Nat.le_refl _
  | cons first tail =>
      unfold Takes
      by_cases hfirst : first = ch
      · subst hfirst
        rw [consume_cons]
        exact Nat.le_succ _
      · rw [consume_cons_of_ne hfirst]
        exact Nat.le_refl _

theorem takes_expect (expected : Char) (input : Bytes) : Takes 1 (expect expected) input := by
  cases input with
  | nil => exact nofun
  | cons first tail =>
      by_cases hfirst : first = ascii expected
      · subst hfirst
        unfold Takes
        rw [expect_cons]
        exact Nat.le_refl _
      · unfold Takes expect
        rw [bind_ok (consume_cons_of_ne hfirst)]
        exact nofun

theorem takes_parseLiteral (literal : Bytes) (value : JsonValue) (input : Bytes) :
    Takes 0 (parseLiteral literal value) input := by
  unfold Takes parseLiteral
  by_cases hprefix : literal.isPrefixOf input = true
  · rw [if_pos hprefix]
    exact (List.drop_sublist _ _).length_le
  · rw [if_neg hprefix]
    exact nofun

/-- The result leaves at most `bound` bytes or is a failure of the parser. -/
def Leaves {α : Type} (bound : Nat) : Except JsonFault (α × Bytes) → Prop
  | .ok (_, rest) => rest.length ≤ bound
  | .error fault => fault ≠ .spent

theorem Leaves.mono {α : Type} {result : Except JsonFault (α × Bytes)} {bound more : Nat}
    (hleaves : Leaves bound result) (hmore : bound ≤ more) : Leaves more result := by
  cases result with
  | error fault => exact hleaves
  | ok read => exact Nat.le_trans hleaves hmore

theorem leaves_parseStringLoop (out input : Bytes) :
    Leaves input.length (parseStringLoop out input) := by
  fun_induction parseStringLoop out input with
  | case1 | case3 | case5 | case7 | case9 | case10 => exact nofun
  | case2 out rest => exact Nat.le_succ _
  | case4 out ch rest _ _ _ ih => exact ih.mono (Nat.le_succ _)
  | case6 out ch _ _ _ escaped rest byte _ ih =>
      exact ih.mono (Nat.le_add_right _ 2)
  | case8 out ch _ _ _ escaped _ _ d₀ d₁ d₂ d₃ rest codepoint _ ih =>
      exact ih.mono (Nat.le_add_right _ 6)

theorem takes_parseStringLoop (out input : Bytes) : Takes 0 (parseStringLoop out) input :=
  leaves_parseStringLoop out input

theorem takes_parseString (input : Bytes) : Takes 1 parseString input :=
  (takes_expect '"' input).bind fun _ rest _ => takes_parseStringLoop [] rest

theorem takes_consumeDigits (message : String) (input : Bytes) :
    Takes 0 (consumeDigits message) input := by
  unfold Takes consumeDigits
  by_cases hdigits : input.takeWhile (isDigit ·) = []
  · rw [if_pos hdigits]
    exact nofun
  · rw [if_neg hdigits]
    exact (List.dropWhile_sublist _).length_le

theorem takes_ite {α : Type} {count : Nat} {condition : Prop} [Decidable condition]
    {first second : JsonReader α} (hfirst : condition → Takes count first input)
    (hsecond : ¬ condition → Takes count second input) :
    Takes count (if condition then first else second) input := by
  split
  · next hcondition => exact hfirst hcondition
  · next hcondition => exact hsecond hcondition

theorem takes_consumeEither (first second : UInt8) (input : Bytes) :
    Takes 0 (consumeEither first second) input :=
  (takes_consume first input).bind fun _ rest _ =>
    takes_ite (fun _ => takes_pure true rest) fun _ => takes_consume second rest

theorem takes_skipExponent (input : Bytes) : Takes 0 skipExponent input :=
  (takes_consumeEither _ _ input).bind fun _ rest _ =>
    takes_ite (fun _ => (takes_consumeEither _ _ rest).bind fun _ _ _ => takes_consumeDigits _ _)
      fun _ => takes_pure () rest

theorem takes_skipFraction (input : Bytes) : Takes 0 skipFraction input :=
  (takes_consume _ input).bind fun _ rest _ =>
    takes_ite (fun _ => (takes_consumeDigits _ rest).bind fun _ _ _ => takes_skipExponent _)
      fun _ => takes_skipExponent rest

theorem takes_skipInteger (input : Bytes) : Takes 0 skipInteger input :=
  (takes_consume _ input).bind fun _ rest _ =>
    takes_ite
      (fun _ => (takes_peek rest).bind fun _ tail _ =>
        takes_ite (fun _ => takes_fail 0 _ tail) fun _ => takes_pure () tail)
      fun _ => takes_consumeDigits _ rest

theorem takes_skipNumber (input : Bytes) : Takes 0 skipNumber input :=
  (takes_consume _ input).bind fun _ rest _ =>
    (takes_skipInteger rest).bind fun _ tail _ => takes_skipFraction tail

theorem takes_parseNumber (input : Bytes) : Takes 0 parseNumber input := by
  have hskip := takes_skipNumber input
  unfold Takes at hskip
  unfold Takes parseNumber
  cases hread : skipNumber input with
  | error fault =>
      rw [hread] at hskip
      exact hskip
  | ok read =>
      rw [hread] at hskip
      exact hskip

/-- A call takes its bytes and two nested calls take one at least: the bound that
`parseJson` sets is enough for every text. -/
theorem takes_parse (fuel : Nat) :
    (∀ input : Bytes, 2 * input.length < fuel → Takes 0 (parseValue fuel) input) ∧
    (∀ input : Bytes, 2 * input.length + 1 < fuel → Takes 0 (parseElements fuel) input) ∧
    ∀ (before : JsonMembers) (input : Bytes), 2 * input.length + 1 < fuel →
      Takes 0 (parseMembers fuel before) input := by
  induction fuel with
  | zero => exact ⟨nofun, nofun, fun _ => nofun⟩
  | succ fuel ih =>
      obtain ⟨ihValue, ihElements, ihMembers⟩ := ih
      refine ⟨?_, ?_, ?_⟩
      · intro input hfuel
        rw [parseValue]
        refine (takes_skipSpace input).andThen fun _ start hstart => ?_
        refine (takes_current start).andThen fun next rest hrest => ?_
        cases next with
        | none => exact takes_fail 0 _ rest
        | some ch =>
            refine takes_ite (fun _ => takes_parseLiteral _ _ rest) fun _ => ?_
            refine takes_ite (fun _ => takes_parseLiteral _ _ rest) fun _ => ?_
            refine takes_ite (fun _ => takes_parseLiteral _ _ rest) fun _ => ?_
            refine takes_ite (fun _ => (takes_parseString rest).andThen fun _ tail _ =>
              takes_pure _ tail) fun _ => ?_
            refine takes_ite (fun _ => ?_) fun _ => ?_
            · refine (takes_expect '[' rest).andThen fun _ inside hinside => ?_
              refine (takes_skipSpace inside).andThen fun _ first hfirst => ?_
              refine (takes_consume _ first).andThen fun _ tail htail => ?_
              refine takes_ite (fun _ => takes_pure _ tail) fun _ => ?_
              exact (ihElements tail (by omega)).andThen fun _ behind _ => takes_pure _ behind
            refine takes_ite (fun _ => ?_) fun _ => ?_
            · refine (takes_expect '\x7b' rest).andThen fun _ inside hinside => ?_
              refine (takes_skipSpace inside).andThen fun _ first hfirst => ?_
              refine (takes_consume _ first).andThen fun _ tail htail => ?_
              refine takes_ite (fun _ => takes_pure _ tail) fun _ => ?_
              exact (ihMembers [] tail (by omega)).andThen fun _ behind _ => takes_pure _ behind
            exact takes_ite (fun _ => takes_parseNumber rest) fun _ => takes_fail 0 _ rest
      · intro input hfuel
        rw [parseElements]
        refine (ihValue input (by omega)).andThen fun item behind hbehind => ?_
        refine (takes_skipSpace behind).andThen fun _ start hstart => ?_
        refine (takes_consume _ start).andThen fun _ rest hrest => ?_
        refine takes_ite (fun _ => takes_pure _ rest) fun _ => ?_
        refine (takes_expect ',' rest).andThen fun _ next hnext => ?_
        exact (ihElements next (by omega)).andThen fun _ tail _ => takes_pure _ tail
      · intro before input hfuel
        rw [parseMembers]
        refine (takes_skipSpace input).andThen fun _ start hstart => ?_
        refine (takes_peek start).andThen fun _ same hsame => ?_
        refine takes_ite (fun _ => takes_fail 0 _ same) fun _ => ?_
        refine (takes_parseString same).andThen fun key behindKey hkey => ?_
        refine (takes_skipSpace behindKey).andThen fun _ colon hcolon => ?_
        refine (takes_expect ':' colon).andThen fun _ behindColon hbehindColon => ?_
        refine (ihValue behindColon (by omega)).andThen fun value behindValue hvalue => ?_
        refine (takes_skipSpace behindValue).andThen fun _ close hclose => ?_
        refine (takes_consume _ close).andThen fun _ rest hrest => ?_
        refine takes_ite (fun _ => takes_pure _ rest) fun _ => ?_
        refine (takes_expect ',' rest).andThen fun _ next hnext => ?_
        exact ihMembers _ next (by omega)

end Parser

theorem parseJson_wellFormed {text : Bytes} {value : JsonValue}
    (hparse : parseJson text = .ok value) : value.WellFormed := by
  unfold parseJson at hparse
  cases hread : Parser.parse (2 * text.length + 1) text with
  | error fault =>
      rw [hread] at hparse
      cases hparse
  | ok read =>
      rw [hread] at hparse
      cases hparse
      obtain ⟨value, rest, hvalue, htail⟩ := Parser.of_bind_ok hread
      obtain ⟨_, behind, _, htail⟩ := Parser.of_bind_ok htail
      obtain ⟨next, same, _, htail⟩ := Parser.of_bind_ok htail
      split at htail
      · cases htail
      · cases htail
        exact (Parser.parse_wellFormed _).1 _ _ _ hvalue

/-- Every text is accepted or rejected with a parse error. -/
theorem parseJson_ne_spent (text : Bytes) : parseJson text ≠ .error .spent := by
  have htakes : Parser.Takes 0 (Parser.parse (2 * text.length + 1)) text :=
    ((Parser.takes_parse _).1 text (Nat.lt_succ_self _)).andThen fun value rest _ =>
      (Parser.takes_skipSpace rest).andThen fun _ behind _ =>
        (Parser.takes_current behind).andThen fun next same _ =>
          Parser.takes_ite (fun _ => Parser.takes_fail 0 _ same) fun _ =>
            Parser.takes_pure value same
  intro hspent
  unfold parseJson at hspent
  unfold Parser.Takes at htakes
  cases hread : Parser.parse (2 * text.length + 1) text with
  | error fault =>
      rw [hread] at hspent htakes
      cases hspent
      exact htakes rfl
  | ok read =>
      rw [hread] at hspent
      cases hspent

/-- The parser inverts the printer on every well-formed value.  So an accepted text
and the print of its value have one value, and the print is a normal form: it is
its own print, and two accepted texts have one value exactly when their prints are
the same. -/
theorem json_round_trip :
    (∀ value : JsonValue, value.WellFormed → parseJson value.dump = .ok value) ∧
    (∀ text value, parseJson text = .ok value → parseJson value.dump = .ok value) ∧
    ∀ text value text' value', parseJson text = .ok value → parseJson text' = .ok value' →
      (value.dump = value'.dump ↔ value = value') := by
  refine ⟨fun value hwf => parseJson_dump hwf,
    fun text value htext => parseJson_dump (parseJson_wellFormed htext), ?_⟩
  intro text value text' value' htext htext'
  refine ⟨fun hdump => ?_, congrArg JsonValue.dump⟩
  have hvalue := parseJson_dump (parseJson_wellFormed htext)
  rw [hdump, parseJson_dump (parseJson_wellFormed htext')] at hvalue
  exact (Except.ok.inj hvalue).symm

/-- A digit other than zero is a number. -/
theorem isNumber_digit {digit : UInt8} (hdigit : isDigit digit = true) (hzero : digit ≠ ascii '0') :
    Parser.IsNumber [digit] :=
  ⟨[], [digit], [], [], Or.inl rfl,
    Or.inr ⟨⟨List.cons_ne_nil _ _, List.forall_mem_singleton.mpr hdigit⟩,
      fun hhead => hzero (Option.some.inj hhead)⟩, Or.inl rfl, Or.inl rfl, rfl⟩

theorem json_round_trip_example :
    parseJson (JsonValue.array [.number [ascii '7'], .string [0x0a, 0xff]]).dump =
      .ok (.array [.number [ascii '7'], .string [0x0a, 0xff]]) ∧
    parseJson (JsonValue.array []).dump = .ok (.array []) := by
  have hnumber : Parser.IsNumber [ascii '7'] := isNumber_digit (by decide) (by decide)
  exact ⟨json_round_trip.1 _ ⟨hnumber, trivial, trivial⟩,
    json_round_trip.2.1 (asciiBytes "[ ]") _ rfl⟩

end AudioStudio.Rpc
