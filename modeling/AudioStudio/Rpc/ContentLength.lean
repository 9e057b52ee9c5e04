import AudioStudio.Rpc.FrameStream

/-!
# Reading a Content-Length frame

What `readContentLengthFrameWithPrefix` reads, returns and throws on any stream,
against the header lines of the stream.
-/

namespace AudioStudio.Rpc

open AudioStudio.LittleEndian ByteReader

/-! ## The header block of a stream -/

/-- The header of a stream: its bytes up to the first blank line. -/
def headerBlock (stream : Bytes) : Option Bytes :=
  (findText kHeaderEnd stream).map fun headerEnd => stream.take (headerEnd + 4)

theorem headerBlock_of_found {header : Bytes} {headerEnd : Nat} (rest : Bytes)
    (hfound : findText kHeaderEnd header = some headerEnd) :
    headerBlock (header ++ rest) = some (header.take (headerEnd + 4)) := by
  have hfits : headerEnd + 4 ≤ header.length := findText_fits hfound
  rw [headerBlock, findText_grows rest hfound, Option.map_some,
    List.take_append_of_le_length hfits]

theorem headerBlock_eq_none {stream : Bytes} (habsent : ¬ kHeaderEnd <:+: stream) :
    headerBlock stream = none := by
  rw [headerBlock, findText_eq_none habsent]
  rfl

/-- A header block ends inside every beginning of the stream that is as long. -/
theorem headerBlock_inside {text more block : Bytes}
    (hblock : headerBlock (text ++ more) = some block) (hlength : block.length ≤ text.length) :
    kHeaderEnd <:+: text := by
  obtain ⟨headerEnd, hfound, rfl⟩ := Option.map_eq_some_iff.mp hblock
  have hfits : headerEnd + 4 ≤ (text ++ more).length := findText_fits hfound
  have hinside : headerEnd + 4 ≤ text.length := by
    rw [List.length_take_of_le hfits] at hlength
    exact hlength
  have hprefix := findText_stands hfound
  rw [List.drop_append_of_le_length (by omega)] at hprefix
  refine ((List.prefix_of_prefix_length_le hprefix (List.prefix_append _ more) ?_).isInfix).trans
    (List.drop_suffix headerEnd text).isInfix
  rw [List.length_drop]
  change 4 ≤ _
  omega

/-! ## What the loops read -/

theorem readBytes_eq (count : Nat) (input : Bytes) :
    readBytes count input =
      if count ≤ input.length then .ok (input.take count, input.drop count) else .error .stream := by
  unfold readBytes
  induction count generalizing input with
  | zero => rfl
  | succ count ih =>
      cases input with
      | nil => rfl
      | cons byte rest =>
          change (times readByte count rest >>= fun read => .ok (byte :: read.1, read.2)) = _
          rw [ih rest]
          simp only [List.length_cons, Nat.add_le_add_iff_right]
          split
          · rfl
          · rfl

/-- The loop over header bytes stops with the end of the header, with a header that
is too large, or with the stream; it looks for one more byte only while the header
is not too large. -/
theorem readHeader_cases (front input : Bytes) :
    (∃ taken rest, input = taken ++ rest ∧ readHeader front input = .ok (front ++ taken, rest) ∧
      kHeaderEnd <:+: front ++ taken ∧ (taken = [] ∨ (front ++ taken).length ≤ 4096)) ∨
    (∃ taken rest, input = taken ++ rest ∧ ¬ kHeaderEnd <:+: front ++ taken ∧ rest ≠ [] ∧
      4096 ≤ (front ++ taken).length ∧
      readHeader front input = .error (.frame "RPC frame header is too large")) ∨
    (readHeader front input = .error .stream ∧ ¬ kHeaderEnd <:+: front ++ input ∧
      (input = [] ∨ (front ++ input).length ≤ 4096)) := by
  induction input generalizing front with
  | nil =>
      unfold readHeader
      split
      · next hfound =>
          refine .inl ⟨[], [], rfl, ?_, ?_, .inl rfl⟩
          · rw [List.append_nil]
          · rw [List.append_nil]
            exact findText_isSome_iff.mp hfound
      · next hfound =>
          refine .inr (.inr ⟨rfl, ?_, .inl rfl⟩)
          rw [List.append_nil]
          exact fun hinside => hfound (findText_isSome_iff.mpr hinside)
  | cons byte input ih =>
      unfold readHeader
      split
      · next hfound =>
          refine .inl ⟨[], byte :: input, rfl, ?_, ?_, .inl rfl⟩
          · rw [List.append_nil]
          · rw [List.append_nil]
            exact findText_isSome_iff.mp hfound
      next hfound =>
      have habsent : ¬ kHeaderEnd <:+: front :=
        fun hinside => hfound (findText_isSome_iff.mpr hinside)
      dsimp only
      split
      · next hlarge =>
          rw [List.length_append, List.length_singleton] at hlarge
          refine .inr (.inl ⟨[], byte :: input, rfl, ?_, List.cons_ne_nil _ _, ?_, rfl⟩)
          · rw [List.append_nil]
            exact habsent
          · rw [List.append_nil]
            omega
      next hsmall =>
      have happend : ∀ taken, front ++ [byte] ++ taken = front ++ (byte :: taken) := fun taken => by
        rw [List.append_assoc]
        rfl
      rcases ih (front ++ [byte]) with ⟨taken, rest, rfl, hread, hend, hlength⟩ |
        ⟨taken, rest, rfl, hnone, hrest, hlength, hread⟩ | ⟨hread, hnone, hlength⟩
      · rw [happend] at hread hend hlength
        refine .inl ⟨byte :: taken, rest, rfl, hread, hend, .inr ?_⟩
        rcases hlength with rfl | hlength
        · omega
        · exact hlength
      · rw [happend] at hnone hlength
        exact .inr (.inl ⟨byte :: taken, rest, rfl, hnone, hrest, hlength, hread⟩)
      · rw [happend] at hnone hlength
        refine .inr (.inr ⟨hread, hnone, .inr ?_⟩)
        rcases hlength with rfl | hlength
        · omega
        · exact hlength

/-! ## Reserving the payload -/

/-- What leaves the function: the exception of a reader, or the `std::length_error`
of `payload.reserve`. -/
inductive FrameThrow where
  | read (error : RpcReadError)
  | lengthError
  deriving DecidableEq, Repr

def tooLarge : FrameThrow := .read (.frame "RPC frame payload is too large")

/-- `readContentLengthFrameWithPrefix` with its `reserve`; no string is longer than
`stringMaxSize`, the `max_size()` of the library. -/
def readReservedFrame (stringMaxSize : Nat) (front : Bytes) (maxPayloadSize : Nat)
    (input : Bytes) : Except FrameThrow (Bytes × Bytes) :=
  match readHeader front input with
  | .error error => .error (.read error)
  | .ok (header, rest) =>
      let headerEnd := (findText kHeaderEnd header).getD 0
      let payloadPrefix := header.drop (headerEnd + 4)
      match parseContentLength (header.take (headerEnd + 4)) with
      | .error error => .error (.read error)
      | .ok contentLength =>
          if contentLength > maxPayloadSize then .error tooLarge
          else if contentLength > stringMaxSize then .error .lengthError
          else match readBytes (contentLength - payloadPrefix.length) rest with
            | .error error => .error (.read error)
            | .ok (payload, rest) => .ok ((payloadPrefix ++ payload).take contentLength, rest)

/-- Below a limit that every string can have, `reserve` never throws. -/
theorem readReservedFrame_eq {stringMaxSize maxPayloadSize : Nat}
    (hlimit : maxPayloadSize ≤ stringMaxSize) (front input : Bytes) :
    readReservedFrame stringMaxSize front maxPayloadSize input =
      (readContentLengthFrameWithPrefix front maxPayloadSize input).mapError FrameThrow.read := by
  unfold readReservedFrame readContentLengthFrameWithPrefix
  change _ = ((readHeader front input >>= fun read => _) : Except _ _).mapError _
  cases hheader : readHeader front input with
  | error error => rfl
  | ok read =>
      obtain ⟨header, rest⟩ := read
      change _ = ((((StateT.lift _ : RpcReader Nat) rest) >>= fun read => _) :
        Except _ _).mapError _
      dsimp only
      cases hparse : parseContentLength (header.take ((findText kHeaderEnd header).getD 0 + 4)) with
      | error error => rfl
      | ok contentLength =>
          change _ = Except.mapError _ ((if _ then _ else _ : RpcReader Bytes) rest)
          dsimp only
          by_cases hlarge : contentLength > maxPayloadSize
          · rw [if_pos hlarge, if_pos hlarge]
            rfl
          · rw [if_neg hlarge, if_neg hlarge, if_neg (by omega)]
            change _ = Except.mapError _ ((readBytes _ rest >>= fun read => _ : Except _ _))
            cases readBytes (contentLength - (header.drop _).length) rest with
            | error error => rfl
            | ok read => rfl

/-- The payload behind a header block. -/
def payloadOf (stringMaxSize maxPayloadSize : Nat) (block body : Bytes) : Except FrameThrow Bytes :=
  match parseContentLength block with
  | .error error => .error (.read error)
  | .ok contentLength =>
      if contentLength > maxPayloadSize then .error tooLarge
      else if contentLength > stringMaxSize then .error .lengthError
      else if contentLength ≤ body.length then .ok (body.take contentLength)
      else .error (.read .stream)

/-- The header ends before it is too large, or in the bytes that were read before. -/
def InTime (front block : Bytes) : Prop :=
  block.length ≤ 4096 ∨ block.length ≤ front.length

section Reading

variable {stringMaxSize maxPayloadSize : Nat} {front input block : Bytes}

theorem headerBlock_absent {taken rest : Bytes} (habsent : ¬ kHeaderEnd <:+: front ++ taken)
    (hlength : 4096 ≤ (front ++ taken).length)
    (hblock : headerBlock (front ++ (taken ++ rest)) = some block) : ¬ InTime front block := by
  rw [← List.append_assoc] at hblock
  intro htime
  refine habsent (headerBlock_inside hblock ?_)
  rcases htime with hshort | hfront
  · omega
  · rw [List.length_append]
    omega

/-- A header that ends in time is read, and the payload is what stands behind it. -/
theorem readReservedFrame_inTime (hblock : headerBlock (front ++ input) = some block)
    (htime : InTime front block) :
    (readReservedFrame stringMaxSize front maxPayloadSize input).map Prod.fst =
      payloadOf stringMaxSize maxPayloadSize block ((front ++ input).drop block.length) := by
  rcases readHeader_cases front input with ⟨taken, rest, rfl, hread, hend, -⟩ |
    ⟨taken, rest, rfl, habsent, -, hlength, -⟩ | ⟨-, habsent, -⟩
  · obtain ⟨headerEnd, hfound⟩ := Option.isSome_iff_exists.mp (findText_isSome_iff.mpr hend)
    have hfits : headerEnd + 4 ≤ (front ++ taken).length := findText_fits hfound
    rw [← List.append_assoc] at hblock ⊢
    rw [headerBlock_of_found rest hfound] at hblock
    cases hblock
    rw [List.length_take_of_le hfits, List.drop_append_of_le_length hfits]
    unfold readReservedFrame payloadOf
    rw [hread]
    dsimp only
    rw [hfound, Option.getD_some]
    cases parseContentLength ((front ++ taken).take (headerEnd + 4)) with
    | error error => rfl
    | ok contentLength =>
        dsimp only
        split
        · rfl
        split
        · rfl
        rw [readBytes_eq, List.length_append]
        by_cases hbody : contentLength ≤ ((front ++ taken).drop (headerEnd + 4)).length + rest.length
        · rw [if_pos (by omega), if_pos hbody]
          change Except.ok _ = Except.ok _
          rw [List.take_append, List.take_append, List.take_take, Nat.min_self]
        · rw [if_neg (by omega), if_neg hbody]
          rfl
  · exact absurd htime (headerBlock_absent habsent hlength hblock)
  · rw [headerBlock_eq_none habsent] at hblock
    cases hblock

/-- Without a header that ends in time the reader throws a frame error, or the
exception of a stream that has no end of a header. -/
theorem readReservedFrame_late (stringMaxSize maxPayloadSize : Nat)
    (hlate : ∀ block, headerBlock (front ++ input) = some block → ¬ InTime front block) :
    (∃ message, readReservedFrame stringMaxSize front maxPayloadSize input =
      .error (.read (.frame message))) ∨
    (readReservedFrame stringMaxSize front maxPayloadSize input = .error (.read .stream) ∧
      headerBlock (front ++ input) = none) := by
  unfold readReservedFrame
  rcases readHeader_cases front input with ⟨taken, rest, rfl, hread, hend, hlength⟩ |
    ⟨taken, rest, rfl, -, -, -, hread⟩ | ⟨hread, habsent, -⟩
  · obtain ⟨headerEnd, hfound⟩ := Option.isSome_iff_exists.mp (findText_isSome_iff.mpr hend)
    have hblock := headerBlock_of_found rest hfound
    rw [List.append_assoc] at hblock
    refine absurd ?_ (hlate _ hblock)
    unfold InTime
    rcases hlength with rfl | hlength
    · right
      rw [List.append_nil, List.length_take]
      exact Nat.min_le_right _ _
    · left
      exact (List.length_take_le' _ _).trans hlength
  · rw [hread]
    exact .inl ⟨_, rfl⟩
  · rw [hread]
    exact .inr ⟨rfl, headerBlock_eq_none habsent⟩

/-- The reader asks for a byte behind the end of `input` only when `input` is shorter
than the bound: it never reads more. -/
theorem readReservedFrame_bounded
    (hstream : readReservedFrame stringMaxSize front maxPayloadSize input =
      .error (.read .stream)) : input.length < 4097 + maxPayloadSize := by
  unfold readReservedFrame at hstream
  rcases readHeader_cases front input with ⟨taken, rest, rfl, hread, -, hlength⟩ |
    ⟨taken, rest, rfl, -, -, -, hread⟩ | ⟨-, -, hlength⟩
  · rw [hread] at hstream
    dsimp only at hstream
    have htaken : taken.length ≤ 4096 := by
      rcases hlength with rfl | hlength
      · exact Nat.zero_le _
      · rw [List.length_append] at hlength
        omega
    split at hstream
    · next error hparse =>
        unfold parseContentLength at hparse
        dsimp only at hparse
        split at hparse
        · cases hparse
          cases hstream
        split at hparse
        · cases hparse
          cases hstream
        split at hparse
        · cases hparse
        · cases hparse
          cases hstream
    split at hstream
    · cases hstream
    split at hstream
    · cases hstream
    rw [readBytes_eq] at hstream
    split at hstream
    · next error hbytes =>
        split at hbytes
        · cases hbytes
        · rw [List.length_append]
          omega
    · cases hstream
  · rw [hread] at hstream
    cases hstream
  · rcases hlength with rfl | hlength
    · rw [List.length_nil]
      omega
    · rw [List.length_append] at hlength
      omega

end Reading

/-! ## Header lines -/

def kContentLength : Bytes := asciiBytes "Content-Length:"

/-- The lines of a header. -/
def headerLines : Bytes → List Bytes
  | 0x0d :: 0x0a :: rest => [] :: headerLines rest
  | byte :: rest =>
      match headerLines rest with
      | [] => [[byte]]
      | line :: lines => (byte :: line) :: lines
  | [] => [[]]

/-- A text that is a decimal number between blanks. -/
def decimalNumber (text : Bytes) : Option Nat :=
  let behind := text.dropWhile (isSpace ·)
  let digits := behind.takeWhile (isDigit ·)
  if digits ≠ [] ∧ (behind.dropWhile (isDigit ·)).all (isSpace ·) then some (decimalValue digits)
  else none

/-- The number that the header line named Content-Length carries. -/
def declaredLength (block : Bytes) : Option Nat :=
  if block.length > 4096 then none
  else
    match (headerLines block).find? (kContentLength.isPrefixOf ·) with
    | none => none
    | some line => decimalNumber (line.drop kContentLength.length)

/-- The number behind the first place of the header that shows the name, be it a
line's name or not. -/
def firstNumber (block : Bytes) : Option Nat :=
  match findText kContentLength block with
  | none => none
  | some pos =>
      let digits :=
        ((block.drop (pos + kContentLength.length)).dropWhile (isSpace ·)).takeWhile (isDigit ·)
      if digits = [] then none else some (decimalValue digits)

theorem parseContentLength_eq (block : Bytes) :
    (firstNumber block = none ∧ ∃ message, parseContentLength block = .error (.frame message)) ∨
    ∃ number, firstNumber block = some number ∧
      parseContentLength block = if number < 2 ^ 64 then .ok number else .error .outOfRange := by
  unfold firstNumber parseContentLength kContentLength
  dsimp only
  cases findText (asciiBytes "Content-Length:") block with
  | none => exact .inl ⟨rfl, _, rfl⟩
  | some pos =>
      dsimp only
      split
      · exact .inl ⟨rfl, _, rfl⟩
      · exact .inr ⟨_, rfl, rfl⟩

/-! ## The contract -/

/-- What is to come out of a stream with the header `block` and `body` behind it. -/
def Contract (maxPayloadSize : Nat) (block body : Bytes) (result : Except FrameThrow Bytes) : Prop :=
  match (declaredLength block).filter (· ≤ maxPayloadSize) with
  | some number =>
      result = if number ≤ body.length then .ok (body.take number) else .error (.read .stream)
  | none => ∃ message, result = .error (.read (.frame message))

/-- Reading is bounded, returns the declared bytes behind the blank line, and else
throws a `RpcFrameError` or the exception of the byte source. -/
structure ReadsCleanly (stringMaxSize : Nat) (front : Bytes) (maxPayloadSize : Nat)
    (input : Bytes) : Prop where
  bounded : ∀ count, readReservedFrame stringMaxSize front maxPayloadSize (input.take count) =
    .error (.read .stream) → (input.take count).length < 4097 + maxPayloadSize
  contract : ∀ block, headerBlock (front ++ input) = some block →
    Contract maxPayloadSize block ((front ++ input).drop block.length)
      ((readReservedFrame stringMaxSize front maxPayloadSize input).map Prod.fst)
  endless : headerBlock (front ++ input) = none →
    readReservedFrame stringMaxSize front maxPayloadSize input = .error (.read .stream) ∨
      ∃ message, readReservedFrame stringMaxSize front maxPayloadSize input =
        .error (.read (.frame message))

/-- The first number after the name is one of 64 bits that a string can have as its
length, and it is the declared length, unless neither is within the limit or the
stream ends before both. -/
structure Agrees (stringMaxSize maxPayloadSize : Nat) (block body : Bytes) : Prop where
  small : ∀ number, firstNumber block = some number → number < 2 ^ 64
  fits : ∀ number, firstNumber block = some number → number ≤ maxPayloadSize →
    number ≤ stringMaxSize
  same : (firstNumber block).filter (· ≤ maxPayloadSize) =
      (declaredLength block).filter (· ≤ maxPayloadSize) ∨
    ∃ first ∈ (firstNumber block).filter (· ≤ maxPayloadSize),
      ∃ declared ∈ (declaredLength block).filter (· ≤ maxPayloadSize),
        body.length < first ∧ body.length < declared

section Contract

variable {stringMaxSize maxPayloadSize : Nat} {block body : Bytes}

/-- A payload of `number` bytes is the one of the contract. -/
theorem contract_returns_iff (number : Nat) :
    Contract maxPayloadSize block body
        (if number ≤ body.length then .ok (body.take number) else .error (.read .stream)) ↔
      ∃ declared, (declaredLength block).filter (· ≤ maxPayloadSize) = some declared ∧
        (number = declared ∨ (body.length < number ∧ body.length < declared)) := by
  unfold Contract
  cases (declaredLength block).filter (· ≤ maxPayloadSize) with
  | none =>
      constructor
      · rintro ⟨message, hmessage⟩
        split at hmessage <;> cases hmessage
      · rintro ⟨declared, hdeclared, -⟩
        cases hdeclared
  | some declared =>
      constructor
      · intro heq
        dsimp only at heq
        refine ⟨declared, rfl, ?_⟩
        by_cases hnumber : number ≤ body.length
        · rw [if_pos hnumber] at heq
          split at heq
          · next hdeclared =>
              have hlength := congrArg List.length (Except.ok.inj heq)
              rw [List.length_take_of_le hnumber, List.length_take_of_le hdeclared] at hlength
              exact .inl hlength
          · cases heq
        · rw [if_neg hnumber] at heq
          split at heq
          · cases heq
          · next hdeclared => exact .inr ⟨by omega, by omega⟩
      · rintro ⟨other, hother, rfl | ⟨hnumber, hdeclared⟩⟩
        · cases hother
          rfl
        · cases hother
          dsimp only
          rw [if_neg (by omega), if_neg (by omega)]

theorem contract_frame_iff (message : String) :
    Contract maxPayloadSize block body (.error (.read (.frame message))) ↔
      (declaredLength block).filter (· ≤ maxPayloadSize) = none := by
  unfold Contract
  cases (declaredLength block).filter (· ≤ maxPayloadSize) with
  | none => exact ⟨fun _ => rfl, fun _ => ⟨message, rfl⟩⟩
  | some declared =>
      refine ⟨fun heq => ?_, nofun⟩
      dsimp only at heq
      split at heq <;> cases heq

/-- No other exception is in the contract. -/
theorem not_contract_of_other {thrown : FrameThrow} (hframe : ∀ message, thrown ≠ .read (.frame message))
    (hstream : thrown ≠ .read .stream) : ¬ Contract maxPayloadSize block body (.error thrown) := by
  unfold Contract
  split
  · intro heq
    split at heq
    · cases heq
    · exact hstream (Except.error.inj heq)
  · rintro ⟨message, heq⟩
    exact hframe message (Except.error.inj heq)

/-- The payload that the code reads is that of the contract exactly when the numbers
agree. -/
theorem payloadOf_contract_iff :
    Contract maxPayloadSize block body (payloadOf stringMaxSize maxPayloadSize block body) ↔
      Agrees stringMaxSize maxPayloadSize block body := by
  unfold payloadOf
  rcases parseContentLength_eq block with ⟨hfirst, message, hparse⟩ | ⟨number, hfirst, hparse⟩
  · rw [hparse, contract_frame_iff]
    constructor
    · intro hnone
      exact
        { small := by rw [hfirst]; exact nofun
          fits := by rw [hfirst]; exact nofun
          same := .inl (by rw [hfirst, hnone]; rfl) }
    · intro hagrees
      rcases hagrees.same with hsame | ⟨first, hmem, -⟩
      · rw [← hsame, hfirst]
        rfl
      · rw [hfirst] at hmem
        cases hmem
  rw [hparse]
  by_cases hsmall : number < 2 ^ 64
  swap
  · rw [if_neg hsmall]
    exact iff_of_false (not_contract_of_other (fun _ heq => by cases heq) (by exact nofun))
      fun hagrees => hsmall (hagrees.small number hfirst)
  rw [if_pos hsmall]
  dsimp only
  by_cases hlarge : number > maxPayloadSize
  · have hnone : (firstNumber block).filter (· ≤ maxPayloadSize) = none := by
      rw [hfirst, Option.filter_some, if_neg]
      simpa using hlarge
    rw [if_pos hlarge, tooLarge, contract_frame_iff]
    constructor
    · intro hdeclared
      refine
        { small := fun other hother => ?_
          fits := fun other hother hle => ?_
          same := .inl (by rw [hnone, hdeclared]) }
      · rw [hfirst] at hother
        cases hother
        exact hsmall
      · rw [hfirst] at hother
        cases hother
        omega
    · intro hagrees
      rcases hagrees.same with hsame | ⟨first, hmem, -⟩
      · rw [← hsame, hnone]
      · rw [hnone] at hmem
        cases hmem
  have hwithin : (firstNumber block).filter (· ≤ maxPayloadSize) = some number := by
    rw [hfirst, Option.filter_some, if_pos]
    simpa using hlarge
  rw [if_neg hlarge]
  by_cases hfits : number > stringMaxSize
  · rw [if_pos hfits]
    refine iff_of_false (not_contract_of_other (fun _ heq => by cases heq) (by exact nofun)) ?_
    intro hagrees
    have hle := hagrees.fits number hfirst (by omega)
    omega
  rw [if_neg hfits, contract_returns_iff]
  constructor
  · rintro ⟨declared, hdeclared, hsame⟩
    refine
      { small := fun other hother => ?_
        fits := fun other hother _ => ?_
        same := ?_ }
    · rw [hfirst] at hother
      cases hother
      exact hsmall
    · rw [hfirst] at hother
      cases hother
      omega
    · rcases hsame with rfl | hends
      · exact .inl (hwithin.trans hdeclared.symm)
      · exact .inr ⟨number, hwithin, declared, hdeclared, hends⟩
  · intro hagrees
    rcases hagrees.same with hsame | ⟨first, hmem, declared, hdeclared, hends⟩
    · exact ⟨number, hsame.symm.trans hwithin, .inl rfl⟩
    · rw [Option.mem_def, hwithin] at hmem
      cases hmem
      exact ⟨declared, hdeclared, .inr hends⟩

end Contract

/-- For every stream, limit and bytes read before: the frame is read cleanly exactly
when its header is too late, or the number after the first place that shows the name
agrees with the header line. -/
theorem reads_cleanly_iff (stringMaxSize : Nat) (front : Bytes) (maxPayloadSize : Nat)
    (input : Bytes) :
    ReadsCleanly stringMaxSize front maxPayloadSize input ↔
      ∀ block, headerBlock (front ++ input) = some block → InTime front block →
        Agrees stringMaxSize maxPayloadSize block ((front ++ input).drop block.length) := by
  constructor
  · intro hclean block hblock htime
    have hcontract := hclean.contract block hblock
    rw [readReservedFrame_inTime hblock htime] at hcontract
    exact payloadOf_contract_iff.mp hcontract
  · intro hagrees
    refine ⟨fun count => readReservedFrame_bounded, fun block hblock => ?_, fun hnone => ?_⟩
    · by_cases htime : InTime front block
      · rw [readReservedFrame_inTime hblock htime]
        exact payloadOf_contract_iff.mpr (hagrees block hblock htime)
      · have hlate : ∀ other, headerBlock (front ++ input) = some other → ¬ InTime front other := by
          intro other hother
          rw [hblock] at hother
          cases hother
          exact htime
        rcases readReservedFrame_late stringMaxSize maxPayloadSize hlate with
          ⟨message, hread⟩ | ⟨-, hnone⟩
        · have hlong : block.length > 4096 := Nat.lt_of_not_le fun hle => htime (.inl hle)
          rw [hread]
          refine (contract_frame_iff message).mpr ?_
          rw [declaredLength, if_pos hlong]
          rfl
        · rw [hblock] at hnone
          cases hnone
    · have hlate : ∀ block, headerBlock (front ++ input) = some block → ¬ InTime front block := by
        intro block hblock
        rw [hnone] at hblock
        cases hblock
      rcases readReservedFrame_late stringMaxSize maxPayloadSize hlate with hframe | ⟨hstream, -⟩
      · exact .inr hframe
      · exact .inl hstream

/-- A number of more than 64 bits leaves as `std::out_of_range`, and the name inside
another header's name is taken for the header. -/
theorem large_number_escapes :
    ¬ ReadsCleanly (2 ^ 62) [] maxJsonPayload
        (asciiBytes "Content-Length: 18446744073709551616\r\n\r\n") ∧
      ¬ ReadsCleanly (2 ^ 62) [] maxJsonPayload (asciiBytes "X-Content-Length: 2\r\n\r\nok") := by
  refine ⟨fun hclean => ?_, fun hclean => ?_⟩
  · have hblock : headerBlock
        ([] ++ asciiBytes "Content-Length: 18446744073709551616\r\n\r\n") =
          some (asciiBytes "Content-Length: 18446744073709551616\r\n\r\n") := by decide +kernel
    have hthrown : readReservedFrame (2 ^ 62) [] maxJsonPayload
        (asciiBytes "Content-Length: 18446744073709551616\r\n\r\n") =
          .error (.read .outOfRange) := by decide +kernel
    have hcontract := hclean.contract _ hblock
    rw [hthrown] at hcontract
    exact not_contract_of_other (fun _ heq => by cases heq) (by exact nofun) hcontract
  · have hblock : headerBlock ([] ++ asciiBytes "X-Content-Length: 2\r\n\r\nok") =
        some (asciiBytes "X-Content-Length: 2\r\n\r\n") := by decide +kernel
    have hdeclared : declaredLength (asciiBytes "X-Content-Length: 2\r\n\r\n") = none := by
      decide +kernel
    have hread : readReservedFrame (2 ^ 62) [] maxJsonPayload
        (asciiBytes "X-Content-Length: 2\r\n\r\nok") = .ok (asciiBytes "ok", []) := by
      decide +kernel
    have hcontract := hclean.contract _ hblock
    rw [hread] at hcontract
    unfold Contract at hcontract
    rw [hdeclared] at hcontract
    obtain ⟨message, hmessage⟩ := hcontract
    cases hmessage

end AudioStudio.Rpc
