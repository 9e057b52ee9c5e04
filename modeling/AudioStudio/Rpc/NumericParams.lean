import AudioStudio.Rpc.ServerMethods
import AudioStudio.Rpc.JsonRoundTrip
import Mathlib.Data.Rat.Cast.CharZero
import Mathlib.Data.List.TakeWhile

/-!
# Numeric parameters

A number in a request is read as a 64-bit value and cast to the type of its field.  The cast is
not checked: a value that does not fit is reduced, and the request goes on with what is left.
-/

namespace AudioStudio.Rpc

open AudioStudio.LittleEndian
open AudioStudio.Common
open AudioStudio.Rpc.Parser (IsDigits IsNumber)

/-! ## The value of a number -/

/-- The exponent behind the mark `e` or `E`. -/
def exponentValue : Bytes → Int
  | [] => 0
  | sign :: digits =>
      if sign = ascii '-' then -(decimalValue digits : Int)
      else if sign = ascii '+' then decimalValue digits
      else decimalValue (sign :: digits)

/-- The mathematical value of a JSON number. -/
def numberValue (scalar : Bytes) : ℚ :=
  let negative := scalar.head? = some (ascii '-')
  let unsigned := if negative then scalar.tail else scalar
  let integer := unsigned.takeWhile (isDigit ·)
  let rest := unsigned.dropWhile (isDigit ·)
  let fraction := if rest.head? = some (ascii '.') then rest.tail.takeWhile (isDigit ·) else []
  let tail := if rest.head? = some (ascii '.') then rest.tail.dropWhile (isDigit ·) else rest
  let magnitude : ℚ := decimalValue (integer ++ fraction) *
    (10 : ℚ) ^ (exponentValue tail.tail - fraction.length)
  if negative then -magnitude else magnitude

example : numberValue (asciiBytes "-12.5e1") = -125 := by
  simp [numberValue, asciiBytes, ascii, isDigit, exponentValue, decimalValue]

/-- Digits alone are the number they write. -/
theorem numberValue_of_digits {scalar : Bytes} (hdigits : ∀ ch ∈ scalar, isDigit ch = true) :
    numberValue scalar = decimalValue scalar := by
  have hsign : scalar.head? ≠ some (ascii '-') := by
    intro hhead
    have hdash := hdigits _ (List.mem_of_mem_head? hhead)
    revert hdash
    decide
  have htake : scalar.takeWhile (isDigit ·) = scalar := by
    rw [List.takeWhile_eq_self_iff]
    exact hdigits
  have hdrop : scalar.dropWhile (isDigit ·) = [] := by
    rw [List.dropWhile_eq_nil_iff]
    exact hdigits
  simp only [numberValue]
  rw [if_neg hsign, if_neg hsign, htake, hdrop]
  simp [exponentValue]

/-- The number is written in digits alone and fits 64 bits. -/
structure IsUnsigned (scalar : Bytes) (value : Nat) : Prop where
  digits : IsDigits scalar
  written : decimalValue scalar = value
  fits : value < 2 ^ 64

/-- Only such a number is read, and as its value. -/
theorem asUInt64_eq_ok {scalar : Bytes} {value : Nat} :
    JsonValue.asUInt64 (.number scalar) = .ok value ↔ IsUnsigned scalar value := by
  simp only [JsonValue.asUInt64]
  constructor
  · intro hread
    split at hread
    · cases hread
    · split at hread
      · cases hread
      · next hrange =>
          split at hread
          · cases hread
          · next hall =>
              have hself : scalar.takeWhile (isDigit ·) = scalar :=
                (List.takeWhile_prefix _).eq_of_length (not_not.mp hall)
              rw [hself] at hread hrange
              obtain ⟨hnonempty, hfits⟩ := not_or.mp hrange
              injection hread with hread
              exact ⟨⟨hnonempty, List.takeWhile_eq_self_iff.mp hself⟩, hread,
                hread ▸ not_le.mp hfits⟩
  · rintro ⟨⟨hnonempty, hdigits⟩, rfl, hfits⟩
    have hsign : scalar.head? ≠ some (ascii '-') := by
      intro hhead
      have hdash := hdigits _ (List.mem_of_mem_head? hhead)
      revert hdash
      decide
    have hself : scalar.takeWhile (isDigit ·) = scalar := List.takeWhile_eq_self_iff.mpr hdigits
    rw [hself, if_neg hsign, if_neg (not_or.mpr ⟨hnonempty, not_le.mpr hfits⟩),
      if_neg (not_not.mpr rfl)]

/-- A natural number is the value of an unsigned number exactly when it is that number. -/
theorem IsUnsigned.cast_eq_iff {scalar : Bytes} {value number : Nat}
    (hvalue : IsUnsigned scalar value) : (number : ℚ) = numberValue scalar ↔ number = value := by
  rw [numberValue_of_digits hvalue.digits.2, hvalue.written]
  exact Nat.cast_inj

/-! ## Where the numbers are used -/

inductive StreamParam where
  | sampleRate
  | channels
  | bytesPerSample
  deriving DecidableEq, Repr

namespace StreamParam

def name : StreamParam → String
  | sampleRate => "sample_rate"
  | channels => "channels"
  | bytesPerSample => "bytes_per_sample"

/-- The value that a device is prepared with. -/
def of (param : StreamParam) (params : AudioStudio.Simulator.AudioStreamParams) : Nat :=
  match param with
  | sampleRate => params.sampleRate.toNat
  | channels => params.channels.toNat
  | bytesPerSample => params.bytesPerSample.toNat

end StreamParam

/-- The parameters of requests and the readers of the project configuration. -/
inductive NumericUse where
  | stream (param : StreamParam)
  | maxEntries
  | maxChunks
  | maxBytes
  | datalinkMtu
  | uintValue
  | uintValueAny
  | firstNumericArrayItem
  deriving DecidableEq, Repr

/-- A session is created, if at all, with the number as it was given. -/
def StreamExact (param : StreamParam) (scalar : Bytes) : ServerCmd → Prop
  | .createDevice stream => (param.of stream.streamParams : ℚ) = numberValue scalar
  | .emplaceSession stream => (param.of stream.streamParams : ℚ) = numberValue scalar
  | _ => True

/-- A read is made, if at all, with the number as it was given. -/
def CountExact (scalar : Bytes) : ServerCmd → Prop
  | .readDevice _ maxBytes _ => (maxBytes : ℚ) = numberValue scalar
  | .readEntries _ maxEntries => (maxEntries : ℚ) = numberValue scalar
  | .readChunks _ maxChunks => (maxChunks : ℚ) = numberValue scalar
  | _ => True

/-- The free options of a request name the MTU themselves. -/
def MtuOverridden (params : JsonValue) : Prop :=
  ∃ members, params.member (asciiBytes "options") = some (.object members) ∧
    asciiBytes "mtu" ∈ members.map Prod.fst

def MtuOption (params : JsonValue) (scalar : Bytes) (config : LogSessionConfig) : Prop :=
  MtuOverridden params ∨ ∃ mtu : Nat,
    config.options (asciiBytes "mtu") = some (decimalText mtu) ∧ (mtu : ℚ) = numberValue scalar

def MtuExact (params : JsonValue) (scalar : Bytes) : ServerCmd → Prop
  | .createLogSession config => MtuOption params scalar config
  | .configureLogSession _ config => MtuOption params scalar config
  | _ => True

/-- In every request and every configuration that gives the number there, what is used is the
value of the number, or an error ends the request before it has an effect. -/
def UsedExactly (scalar : Bytes) : NumericUse → Prop
  | .stream param => ∀ config direction params,
      params.member (asciiBytes param.name) = some (.number scalar) →
      (createAudioSession config direction params).Issues (StreamExact param scalar)
  | .maxEntries => ∀ hasLogService params,
      params.member (asciiBytes "max_entries") = some (.number scalar) →
      (readLogEntries hasLogService params).Issues (CountExact scalar)
  | .maxChunks => ∀ hasLogService params,
      params.member (asciiBytes "max_chunks") = some (.number scalar) →
      (readLogRaw hasLogService params).Issues (CountExact scalar)
  | .maxBytes => ∀ sessionId payload timeoutMs params, parseJson payload = .ok params →
      params.member (asciiBytes "max_bytes") = some (.number scalar) →
      (readAudioFrames sessionId payload timeoutMs).Issues (CountExact scalar)
  | .datalinkMtu => ∀ hasLogService params,
      params.member (asciiBytes "datalink_mtu") = some (.number scalar) →
      (createLogSession hasLogService params).Issues (MtuExact params scalar) ∧
        (configureLogSession hasLogService params).Issues (MtuExact params scalar)
  | .uintValue => ∀ object key fallback value, object.member key = some (.number scalar) →
      Rpc.uintValue object key fallback = .ok value → (value.toNat : ℚ) = numberValue scalar
  | .uintValueAny => ∀ object before key after fallback value,
      (∀ other ∈ before, presentMember object other = none) →
      object.member key = some (.number scalar) →
      Rpc.uintValueAny object (before ++ key :: after) fallback = .ok value →
      (value.toNat : ℚ) = numberValue scalar
  | .firstNumericArrayItem => ∀ object key fallback value items,
      object.member key = some (.number scalar) ∨
        object.member key = some (.array (.number scalar :: items)) →
      Rpc.firstNumericArrayItem object key fallback = .ok value →
      (value.toNat : ℚ) = numberValue scalar

namespace NumericUse

/-- One more than the largest value that the field holds. -/
def width : NumericUse → Nat
  | stream .channels => 2 ^ 16
  | stream .bytesPerSample => 2 ^ 16
  | _ => 2 ^ 32

/-- The values that a later check refuses. -/
def Refuses : NumericUse → Nat → Prop
  | stream .sampleRate, value => value = 0 ∨ 2 ^ 31 ≤ value
  | stream _, value => value = 0
  | maxEntries, value => value = 0
  | maxChunks, value => value = 0
  | maxBytes, value => value = 0
  | _, _ => False

/-- The number fits its field, or what is left of it is refused. -/
def Guarded (use : NumericUse) (scalar : Bytes) : Prop :=
  ∀ value, IsUnsigned scalar value → value < use.width ∨ use.Refuses (value % use.width)

end NumericUse

section Uses

variable {scalar : Bytes} {params object : JsonValue} {name : String} {value : Nat}

/-! ### The casts -/

theorem toNat_toUInt32 (value : Nat) : value.toUInt32.toNat = value % 2 ^ 32 := by
  rw [Nat.toUInt32_eq, UInt32.toNat_ofNat']

theorem toNat_toUInt16 (value : Nat) : value.toUInt16.toNat = value % 2 ^ 16 := by
  rw [Nat.toUInt16_eq, UInt16.toNat_ofNat']

variable {α : Type}

/-- A cast behind the reader leaves only its errors as they are. -/
theorem map_asUInt64_eq_ok {cast : Nat → α} {number : α} :
    (JsonValue.asUInt64 (.number scalar)).map cast = .ok number ↔
      ∃ value, IsUnsigned scalar value ∧ cast value = number := by
  simp only [← asUInt64_eq_ok]
  cases JsonValue.asUInt64 (.number scalar) <;> simp [Except.map]

variable {number fallback : UInt32}

theorem optionalUInt32Param_number
    (hmember : params.member (asciiBytes name) = some (.number scalar)) :
    optionalUInt32Param params name fallback = .ok number ↔
      ∃ value, IsUnsigned scalar value ∧ value.toUInt32 = number := by
  rw [optionalUInt32Param, optionalNumberParam, hmember]
  exact map_asUInt64_eq_ok

theorem optionalUInt16Param_number {fallback number : UInt16}
    (hmember : params.member (asciiBytes name) = some (.number scalar)) :
    optionalUInt16Param params name fallback = .ok number ↔
      ∃ value, IsUnsigned scalar value ∧ value.toUInt16 = number := by
  rw [optionalUInt16Param, optionalNumberParam, hmember]
  exact map_asUInt64_eq_ok

/-- A cast to 32 bits keeps exactly the values that fit. -/
theorem IsUnsigned.cast32_iff (hvalue : IsUnsigned scalar value) :
    (value.toUInt32.toNat : ℚ) = numberValue scalar ↔ value < 2 ^ 32 := by
  rw [hvalue.cast_eq_iff, toNat_toUInt32]
  constructor
  · intro heq
    exact heq ▸ Nat.mod_lt _ (by decide)
  · exact Nat.mod_eq_of_lt

variable {β : Type} {step : Except Thrown α}

/-- A step that throws issues nothing. -/
theorem orThrow_issues {allowed : ServerCmd → Prop} {rest : α → ServerProc (Except Thrown β)}
    (hrest : ∀ value, step = .ok value → (rest value).Issues allowed) :
    (orThrow step rest).Issues allowed := by
  cases step with
  | error thrown => exact Proc.issues_pure _
  | ok value => exact hrest value rfl

theorem member_cons (key : Bytes) (held : JsonValue) (members : JsonMembers) :
    (JsonValue.object ((key, held) :: members)).member key = some held :=
  if_pos rfl

variable {key : Bytes}

theorem member_cons_of_ne {first : Bytes} (hne : key ≠ first) (held : JsonValue)
    (members : JsonMembers) : (JsonValue.object ((first, held) :: members)).member key =
      (JsonValue.object members).member key :=
  if_neg hne

variable {members : JsonMembers}

theorem requireStringParam_of_member {text : Bytes}
    (hmember : (JsonValue.object members).member (asciiBytes name) = some (.string text)) :
    requireStringParam (.object members) name = .ok text := by
  have hobject : requireObjectParams (.object members) name = .ok (.object members) := rfl
  simp only [requireStringParam, hobject, bind, Except.bind, hmember]

/-- A request with a number, and a session to go with it. -/
def countRequest (name : String) (scalar : Bytes) : JsonValue :=
  .object [(asciiBytes name, .number scalar), (asciiBytes "session_id", .string [])]

theorem countRequest_session (hne : asciiBytes "session_id" ≠ asciiBytes name) :
    requireStringParam (countRequest name scalar) "session_id" = .ok [] := by
  apply requireStringParam_of_member
  rw [member_cons_of_ne hne]
  exact member_cons _ _ _

/-! ### Requests of one member -/

/-- A request with nothing but a number. -/
def numberRequest (name : String) (scalar : Bytes) : JsonValue :=
  .object [(asciiBytes name, .number scalar)]

section

variable {only : String}

theorem numberRequest_member :
    (numberRequest only scalar).member (asciiBytes only) = some (.number scalar) :=
  member_cons _ _ _

theorem numberRequest_absent (hne : asciiBytes name ≠ asciiBytes only) :
    (numberRequest only scalar).member (asciiBytes name) = none :=
  member_cons_of_ne hne _ _

theorem numberRequest_string (hne : asciiBytes name ≠ asciiBytes only) (fallback : Bytes) :
    optionalStringParam (numberRequest only scalar) name fallback = .ok fallback := by
  rw [optionalStringParam, numberRequest_absent hne]

theorem numberRequest_bool (hne : asciiBytes name ≠ asciiBytes only) (fallback : Bool) :
    optionalBoolParam (numberRequest only scalar) name fallback = .ok fallback := by
  rw [optionalBoolParam, numberRequest_absent hne]

theorem numberRequest_option {key : String} (hne : asciiBytes name ≠ asciiBytes only)
    (options : Bytes → Option Bytes) :
    textOption (numberRequest only scalar) name key options = .ok options := by
  rw [textOption, setOption, numberRequest_absent hne]
  rfl

theorem numberRequest_uint32 (hne : asciiBytes name ≠ asciiBytes only) (fallback : UInt32) :
    optionalUInt32Param (numberRequest only scalar) name fallback = .ok fallback := by
  rw [optionalUInt32Param, optionalNumberParam, numberRequest_absent hne]
  exact congrArg Except.ok (UInt32.ofNat_toNat)

theorem numberRequest_uint16 (hne : asciiBytes name ≠ asciiBytes only) (fallback : UInt16) :
    optionalUInt16Param (numberRequest only scalar) name fallback = .ok fallback := by
  rw [optionalUInt16Param, optionalNumberParam, numberRequest_absent hne]
  exact congrArg Except.ok (UInt16.ofNat_toNat)

theorem ok_step (value : α) (rest : α → Except Thrown β) :
    (Except.ok value >>= rest : Except Thrown β) = rest value :=
  rfl

end

/-! ### Counts -/

/-- A number that comes out as another one than it was given: it does not fit, and what is left of
it is not zero. -/
theorem toUInt32_ne_zero (hleft : value % 2 ^ 32 ≠ 0) : value.toUInt32 ≠ 0 := by
  intro hzero
  have hnat := congrArg UInt32.toNat hzero
  rw [toNat_toUInt32] at hnat
  exact hleft hnat

variable {use : NumericUse}

/-- A count is guarded when every value that is not zero after the cast is exact. -/
theorem guarded_of_counts (hwidth : use.width = 2 ^ 32)
    (hrefuses : ∀ value, use.Refuses value ↔ value = 0)
    (hexact : ∀ value, IsUnsigned scalar value → value.toUInt32 ≠ 0 →
      (value.toUInt32.toNat : ℚ) = numberValue scalar) : use.Guarded scalar := by
  intro value hvalue
  rw [hwidth, hrefuses]
  by_cases hleft : value % 2 ^ 32 = 0
  · exact .inr hleft
  · exact .inl (hvalue.cast32_iff.mp (hexact value hvalue (toUInt32_ne_zero hleft)))

theorem counts_of_guarded (hguarded : use.Guarded scalar) (hwidth : use.width = 2 ^ 32)
    (hrefuses : ∀ value, use.Refuses value ↔ value = 0) (hvalue : IsUnsigned scalar value)
    (hnonzero : value.toUInt32 ≠ 0) : (value.toUInt32.toNat : ℚ) = numberValue scalar := by
  rw [hvalue.cast32_iff]
  have hor := hguarded value hvalue
  rw [hwidth, hrefuses] at hor
  refine hor.resolve_right fun hleft => hnonzero (UInt32.toNat_inj.mp ?_)
  rw [toNat_toUInt32, hleft]
  rfl

theorem maxEntries_iff : UsedExactly scalar .maxEntries ↔ NumericUse.maxEntries.Guarded scalar := by
  constructor
  · intro hexact
    refine guarded_of_counts rfl (fun _ => Iff.rfl) fun value hvalue hnonzero => ?_
    have hmember : (countRequest "max_entries" scalar).member (asciiBytes "max_entries") =
        some (.number scalar) := member_cons _ _ _
    have hissues := hexact true (countRequest "max_entries" scalar) hmember
    have hcount : optionalUInt32Param (countRequest "max_entries" scalar) "max_entries" 32 =
        .ok value.toUInt32 := (optionalUInt32Param_number hmember).mpr ⟨value, hvalue, rfl⟩
    rw [readLogEntries, countRequest_session (by decide), hcount] at hissues
    simp only [orThrow, if_neg hnonzero] at hissues
    exact hissues.1
  · intro hguarded hasLogService params hmember
    unfold readLogEntries
    split
    · exact Proc.issues_pure _
    · refine orThrow_issues fun id _ => orThrow_issues fun maxEntries hcount => ?_
      obtain ⟨value, hvalue, rfl⟩ := (optionalUInt32Param_number hmember).mp hcount
      split
      · exact Proc.issues_pure _
      · next hnonzero =>
          refine (Proc.issues_request ?_).bind fun status => Proc.issues_pure _
          exact counts_of_guarded hguarded rfl (fun _ => Iff.rfl) hvalue hnonzero

theorem maxChunks_iff : UsedExactly scalar .maxChunks ↔ NumericUse.maxChunks.Guarded scalar := by
  constructor
  · intro hexact
    refine guarded_of_counts rfl (fun _ => Iff.rfl) fun value hvalue hnonzero => ?_
    have hmember : (countRequest "max_chunks" scalar).member (asciiBytes "max_chunks") =
        some (.number scalar) := member_cons _ _ _
    have hissues := hexact true (countRequest "max_chunks" scalar) hmember
    have hcount : optionalUInt32Param (countRequest "max_chunks" scalar) "max_chunks" 1 =
        .ok value.toUInt32 := (optionalUInt32Param_number hmember).mpr ⟨value, hvalue, rfl⟩
    rw [readLogRaw, countRequest_session (by decide), hcount] at hissues
    have hready := hissues.2 (.ok ())
    simp only [statusResult, orThrow, if_neg hnonzero] at hready
    exact hready.1
  · intro hguarded hasLogService params hmember
    unfold readLogRaw
    split
    · exact Proc.issues_pure _
    · refine orThrow_issues fun id _ => orThrow_issues fun maxChunks hcount => ?_
      obtain ⟨value, hvalue, rfl⟩ := (optionalUInt32Param_number hmember).mp hcount
      refine (Proc.issues_request trivial).bind fun ready => orThrow_issues fun _ _ => ?_
      split
      · exact Proc.issues_pure _
      · next hnonzero =>
          refine (Proc.issues_request ?_).bind fun status => Proc.issues_pure _
          exact counts_of_guarded hguarded rfl (fun _ => Iff.rfl) hvalue hnonzero

theorem parseJson_numberRequest (hnumber : IsNumber scalar) :
    parseJson (numberRequest "max_bytes" scalar).dump = .ok (numberRequest "max_bytes" scalar) := by
  apply parseJson_dump
  rw [numberRequest, JsonValue.WellFormed, WellFormedMembers, JsonValue.WellFormed, WellFormedMembers]
  exact ⟨List.pairwise_singleton _ _, hnumber, trivial⟩

/-- An empty text is no JSON. -/
theorem parseJson_nil (params : JsonValue) : parseJson [] ≠ .ok params := by
  unfold parseJson Parser.parse
  rw [Parser.parseValue]
  rintro ⟨⟩

variable {payload : Bytes}

/-- The frame goes on with the count in its payload. -/
theorem readAudioFrames_eq {sessionId : Bytes} {timeoutMs : UInt32}
    (hparse : parseJson payload = .ok params) :
    readAudioFrames sessionId payload timeoutMs =
      orThrow (optionalUInt32Param params "max_bytes" 65536) fun maxBytes =>
        ask (.captureReady sessionId) >>= fun ready => orThrow (statusResult ready) fun _ =>
          if maxBytes = 0 then
            pure (.error (.standard (asciiBytes "audio read max_bytes is zero")))
          else
            ask (.readDevice sessionId maxBytes.toNat timeoutMs) >>= fun data =>
              pure (statusResult data) := by
  have hpayload : payload ≠ [] := by
    rintro rfl
    exact parseJson_nil params hparse
  simp only [readAudioFrames]
  rw [if_neg hpayload, hparse]

/-- What a READ frame with the number comes to. -/
theorem maxBytes_exact (hexact : UsedExactly scalar .maxBytes)
    (hparse : parseJson payload = .ok (numberRequest "max_bytes" scalar))
    (hvalue : IsUnsigned scalar value) (hnonzero : value.toUInt32 ≠ 0) :
    (value.toUInt32.toNat : ℚ) = numberValue scalar := by
  have hmember : (numberRequest "max_bytes" scalar).member (asciiBytes "max_bytes") =
      some (.number scalar) := member_cons _ _ _
  have hissues := hexact [] payload 0 (numberRequest "max_bytes" scalar) hparse hmember
  have hcount : optionalUInt32Param (numberRequest "max_bytes" scalar) "max_bytes" 65536 =
      .ok value.toUInt32 := (optionalUInt32Param_number hmember).mpr ⟨value, hvalue, rfl⟩
  rw [readAudioFrames_eq hparse, hcount] at hissues
  have hready := hissues.2 (.ok ())
  simp only [statusResult, orThrow, if_neg hnonzero] at hready
  exact hready.1

theorem maxBytes_iff (hnumber : IsNumber scalar) :
    UsedExactly scalar .maxBytes ↔ NumericUse.maxBytes.Guarded scalar := by
  constructor
  · intro hexact
    refine guarded_of_counts rfl (fun _ => Iff.rfl) fun value hvalue hnonzero => ?_
    exact maxBytes_exact hexact (parseJson_numberRequest hnumber) hvalue hnonzero
  · intro hguarded sessionId payload timeoutMs params hparse hmember
    rw [readAudioFrames_eq hparse]
    refine orThrow_issues fun maxBytes hcount => ?_
    obtain ⟨value, hvalue, rfl⟩ := (optionalUInt32Param_number hmember).mp hcount
    refine (Proc.issues_request trivial).bind fun ready => orThrow_issues fun _ _ => ?_
    split
    · exact Proc.issues_pure _
    · next hnonzero =>
        refine (Proc.issues_request ?_).bind fun status => Proc.issues_pure _
        exact counts_of_guarded hguarded rfl (fun _ => Iff.rfl) hvalue hnonzero

/-! ### The readers of the configuration -/

theorem presentMember_number (hmember : object.member key = some (.number scalar)) :
    presentMember object key = some (.number scalar) := by
  rw [presentMember, hmember]

theorem uintValue_number (hmember : object.member key = some (.number scalar)) :
    uintValue object key fallback = .ok number ↔
      ∃ value, IsUnsigned scalar value ∧ value.toUInt32 = number := by
  rw [uintValue, presentMember_number hmember]
  exact map_asUInt64_eq_ok

/-- Keys that are absent are passed over. -/
theorem uintValueAny_number {before after : List Bytes}
    (habsent : ∀ other ∈ before, presentMember object other = none)
    (hmember : object.member key = some (.number scalar)) :
    uintValueAny object (before ++ key :: after) fallback = uintValue object key fallback := by
  induction before with
  | nil => rw [List.nil_append, uintValueAny, presentMember_number hmember]
  | cons other before ih =>
      obtain ⟨hother, htail⟩ := List.forall_mem_cons.mp habsent
      rw [List.cons_append, uintValueAny, hother]
      exact ih htail

/-- The first item of an array is read as the number alone would be. -/
theorem firstNumericArrayItem_number (items : List JsonValue)
    (hmember : object.member key = some (.number scalar) ∨
      object.member key = some (.array (.number scalar :: items))) :
    firstNumericArrayItem object key fallback = .ok number ↔
      ∃ value, IsUnsigned scalar value ∧ value.toUInt32 = number := by
  obtain hnumber | harray := hmember
  · rw [firstNumericArrayItem, presentMember_number hnumber]
    exact map_asUInt64_eq_ok
  · rw [firstNumericArrayItem, presentMember, harray]
    exact map_asUInt64_eq_ok

/-- A field that is cast without a check of what is left. -/
theorem guarded_iff_fits (use : NumericUse) (hwidth : use.width = 2 ^ 32)
    (hrefuses : ∀ value, ¬use.Refuses value) : use.Guarded scalar ↔
      ∀ value, IsUnsigned scalar value → (value.toUInt32.toNat : ℚ) = numberValue scalar := by
  constructor
  · intro hguarded value hvalue
    have hor := hguarded value hvalue
    rw [hwidth] at hor
    exact hvalue.cast32_iff.mpr (hor.resolve_right (hrefuses _))
  · intro hexact value hvalue
    rw [hwidth]
    exact .inl (hvalue.cast32_iff.mp (hexact value hvalue))

theorem uintValue_iff : UsedExactly scalar .uintValue ↔ NumericUse.uintValue.Guarded scalar := by
  rw [guarded_iff_fits .uintValue rfl fun _ => not_false]
  constructor
  · intro hexact value hvalue
    have hmember := member_cons [] (.number scalar) []
    exact hexact _ [] 0 _ hmember ((uintValue_number hmember).mpr ⟨value, hvalue, rfl⟩)
  · intro hfits object key fallback number hmember hread
    obtain ⟨value, hvalue, rfl⟩ := (uintValue_number hmember).mp hread
    exact hfits value hvalue

theorem uintValueAny_iff :
    UsedExactly scalar .uintValueAny ↔ NumericUse.uintValueAny.Guarded scalar := by
  rw [guarded_iff_fits .uintValueAny rfl fun _ => not_false]
  constructor
  · intro hexact value hvalue
    have hmember := member_cons [] (.number scalar) []
    refine hexact _ [] [] [] 0 _ (List.forall_mem_nil _) hmember ?_
    rw [uintValueAny_number (List.forall_mem_nil _) hmember]
    exact (uintValue_number hmember).mpr ⟨value, hvalue, rfl⟩
  · intro hfits object before key after fallback number habsent hmember hread
    rw [uintValueAny_number habsent hmember] at hread
    obtain ⟨value, hvalue, rfl⟩ := (uintValue_number hmember).mp hread
    exact hfits value hvalue

theorem firstNumericArrayItem_iff :
    UsedExactly scalar .firstNumericArrayItem ↔
      NumericUse.firstNumericArrayItem.Guarded scalar := by
  rw [guarded_iff_fits .firstNumericArrayItem rfl fun _ => not_false]
  constructor
  · intro hexact value hvalue
    have hmember := member_cons [] (.number scalar) []
    exact hexact _ [] 0 _ [] (.inl hmember)
      ((firstNumericArrayItem_number [] (.inl hmember)).mpr ⟨value, hvalue, rfl⟩)
  · intro hfits object key fallback number items hmember hread
    obtain ⟨value, hvalue, rfl⟩ := (firstNumericArrayItem_number items hmember).mp hread
    exact hfits value hvalue

/-! ### The MTU -/

variable {result : β}

/-- A step that did not throw. -/
theorem of_step_ok {rest : α → Except Thrown β} (hok : step >>= rest = .ok result) :
    ∃ value, step = .ok value ∧ rest value = .ok result := by
  cases step with
  | error thrown => cases hok
  | ok value => exact ⟨value, rfl, hok⟩

theorem of_map_ok {f : α → β} (hok : step.map f = .ok result) :
    ∃ value, step = .ok value ∧ f value = result := by
  cases step with
  | error thrown => cases hok
  | ok value => exact ⟨value, rfl, Except.ok.inj hok⟩

variable {options options' : Bytes → Option Bytes}

variable {read : Except Thrown Bytes} {other : Bytes}

/-- An option that is set leaves the others alone. -/
theorem setOption_other {key : String} (hother : other ≠ asciiBytes key)
    (hset : setOption object name key read options = .ok options') :
    options' other = options other := by
  unfold setOption at hset
  by_cases habsent : (object.member (asciiBytes name)).isNone = true
  · rw [if_pos habsent] at hset
    rw [Except.ok.inj hset]
  · rw [if_neg habsent] at hset
    cases read with
    | error thrown => cases hset
    | ok text =>
        rw [← Except.ok.inj hset]
        exact Function.update_of_ne hother _ _

theorem mergeOptions_other (hother : other ∉ members.map Prod.fst)
    (hmerge : mergeOptions members options = .ok options') : options' other = options other := by
  induction members generalizing options with
  | nil => rw [← Except.ok.inj hmerge]
  | cons member members ih =>
      obtain ⟨key, value⟩ := member
      have hkey : other ≠ key := fun heq => hother (by rw [heq]; exact List.mem_cons_self)
      have htail : other ∉ members.map Prod.fst := fun hmem =>
        hother (List.mem_cons_of_mem _ hmem)
      cases value with
      | string text =>
          rw [ih htail hmerge]
          exact Function.update_of_ne hkey _ _
      | null => cases hmerge
      | bool held => cases hmerge
      | number held => cases hmerge
      | array items => cases hmerge
      | object held => cases hmerge

theorem extraOptions_mtu (hextra : extraOptions params options = .ok options') :
    MtuOverridden params ∨ options' (asciiBytes "mtu") = options (asciiBytes "mtu") := by
  unfold extraOptions at hextra
  split at hextra
  · rw [Except.ok.inj hextra]
    exact .inr rfl
  · next members hmember =>
      by_cases hkey : asciiBytes "mtu" ∈ members.map Prod.fst
      · exact .inl ⟨members, hmember, hkey⟩
      · exact .inr (mergeOptions_other hkey hextra)
  · cases hextra

/-- An option whose parameter is there is set to what was read. -/
theorem setOption_self {key : String} (hpresent : (object.member (asciiBytes name)).isNone = false)
    (hset : setOption object name key read options = .ok options') :
    ∃ text, read = .ok text ∧ options' (asciiBytes key) = some text := by
  unfold setOption at hset
  rw [hpresent, if_neg Bool.false_ne_true] at hset
  cases read with
  | error thrown => cases hset
  | ok text =>
      rw [← Except.ok.inj hset]
      exact ⟨text, rfl, Function.update_self _ _ _⟩

theorem mtuOption_number
    (hmember : params.member (asciiBytes "datalink_mtu") = some (.number scalar))
    (hset : mtuOption params options = .ok options') :
    ∃ value, IsUnsigned scalar value ∧
      options' (asciiBytes "mtu") = some (decimalText value.toUInt32.toNat) := by
  have hpresent : (params.member (asciiBytes "datalink_mtu")).isNone = false := by
    rw [hmember]
    rfl
  obtain ⟨text, hread, htext⟩ := setOption_self hpresent hset
  obtain ⟨mtu, hmtu, hwritten⟩ := of_map_ok hread
  obtain ⟨value, hvalue, rfl⟩ := (optionalUInt32Param_number hmember).mp hmtu
  exact ⟨value, hvalue, by rw [htext, ← hwritten]⟩

theorem of_requireObjectParams {method : String}
    (hrequire : requireObjectParams params method = .ok object) : object = params := by
  unfold requireObjectParams at hrequire
  split at hrequire
  · exact (Except.ok.inj hrequire).symm
  · cases hrequire

variable {config : LogSessionConfig}

/-- The MTU of a session, unless the free options name one. -/
theorem logSessionConfig_mtu
    (hmember : params.member (asciiBytes "datalink_mtu") = some (.number scalar))
    (hconfig : logSessionConfigFromParams params = .ok config) :
    MtuOverridden params ∨ ∃ value, IsUnsigned scalar value ∧
      config.options (asciiBytes "mtu") = some (decimalText value.toUInt32.toNat) := by
  unfold logSessionConfigFromParams at hconfig
  obtain ⟨object, hobject, hconfig⟩ := of_step_ok hconfig
  rw [of_requireObjectParams hobject] at hconfig
  obtain ⟨sessionId, _, hconfig⟩ := of_step_ok hconfig
  obtain ⟨driverFactory, _, hconfig⟩ := of_step_ok hconfig
  obtain ⟨source, _, hconfig⟩ := of_step_ok hconfig
  obtain ⟨level, _, hconfig⟩ := of_step_ok hconfig
  obtain ⟨minLevel, _, hconfig⟩ := of_step_ok hconfig
  obtain ⟨raw, _, hconfig⟩ := of_step_ok hconfig
  obtain ⟨withEndpoint, _, hconfig⟩ := of_step_ok hconfig
  obtain ⟨withRx, _, hconfig⟩ := of_step_ok hconfig
  obtain ⟨withTx, _, hconfig⟩ := of_step_ok hconfig
  obtain ⟨withMtu, hmtu, hconfig⟩ := of_step_ok hconfig
  obtain ⟨withLdc, hldc, hconfig⟩ := of_step_ok hconfig
  obtain ⟨withRaw, hraw, hconfig⟩ := of_step_ok hconfig
  obtain ⟨withDecoded, hdecoded, hconfig⟩ := of_step_ok hconfig
  obtain ⟨options, hextra, hconfig⟩ := of_step_ok hconfig
  rw [← Except.ok.inj hconfig]
  obtain ⟨value, hvalue, hoption⟩ := mtuOption_number hmember hmtu
  obtain hoverridden | hkept := extraOptions_mtu hextra
  · exact .inl hoverridden
  · refine .inr ⟨value, hvalue, ?_⟩
    calc options (asciiBytes "mtu") = withDecoded (asciiBytes "mtu") := hkept
      _ = withRaw (asciiBytes "mtu") := setOption_other (by decide) hdecoded
      _ = withLdc (asciiBytes "mtu") := setOption_other (by decide) hraw
      _ = withMtu (asciiBytes "mtu") := setOption_other (by decide) hldc
      _ = some (decimalText value.toUInt32.toNat) := hoption

theorem logSessionConfig_exact (hguarded : NumericUse.datalinkMtu.Guarded scalar)
    (hmember : params.member (asciiBytes "datalink_mtu") = some (.number scalar))
    (hconfig : logSessionConfigFromParams params = .ok config) :
    MtuOption params scalar config := by
  refine (logSessionConfig_mtu hmember hconfig).imp_right ?_
  rintro ⟨value, hvalue, hoption⟩
  exact ⟨_, hoption, (guarded_iff_fits .datalinkMtu rfl fun _ => not_false).mp hguarded value hvalue⟩

/-- The request is accepted when its number is read. -/
theorem numberRequest_config (hvalue : IsUnsigned scalar value) :
    ∃ config, logSessionConfigFromParams (numberRequest "datalink_mtu" scalar) = .ok config := by
  have hobject : requireObjectParams (numberRequest "datalink_mtu" scalar) "log.createSession" =
      .ok (numberRequest "datalink_mtu" scalar) := if_pos rfl
  have hmember : (numberRequest "datalink_mtu" scalar).member (asciiBytes "datalink_mtu") = some (.number scalar) :=
    member_cons _ _ _
  have hread : optionalUInt32Param (numberRequest "datalink_mtu" scalar) "datalink_mtu" 512 =
      .ok value.toUInt32 := (optionalUInt32Param_number hmember).mpr ⟨value, hvalue, rfl⟩
  have hmtu : ∀ options, ∃ options', mtuOption (numberRequest "datalink_mtu" scalar) options = .ok options' := by
    intro options
    rw [mtuOption, setOption, hmember, hread, if_neg (by simp)]
    exact ⟨_, rfl⟩
  have hextra : ∀ options, extraOptions (numberRequest "datalink_mtu" scalar) options = .ok options := by
    intro options
    rw [extraOptions, numberRequest_absent (by decide)]
  obtain ⟨withMtu, hmtu⟩ := hmtu fun _ => none
  unfold logSessionConfigFromParams
  rw [hobject, ok_step, numberRequest_string (by decide), ok_step, numberRequest_string (by decide),
    ok_step, numberRequest_string (by decide), ok_step, numberRequest_string (by decide), ok_step,
    numberRequest_string (by decide), ok_step, numberRequest_bool (by decide), ok_step,
    numberRequest_option (by decide), ok_step, numberRequest_option (by decide), ok_step,
    numberRequest_option (by decide), ok_step, hmtu, ok_step, numberRequest_option (by decide), ok_step,
    numberRequest_option (by decide), ok_step, numberRequest_option (by decide), ok_step, hextra, ok_step]
  exact ⟨_, rfl⟩

theorem datalinkMtu_iff :
    UsedExactly scalar .datalinkMtu ↔ NumericUse.datalinkMtu.Guarded scalar := by
  constructor
  · intro hexact
    rw [guarded_iff_fits .datalinkMtu rfl fun _ => not_false]
    intro value hvalue
    have hmember : (numberRequest "datalink_mtu" scalar).member (asciiBytes "datalink_mtu") =
        some (.number scalar) := member_cons _ _ _
    obtain ⟨config, hconfig⟩ := numberRequest_config hvalue
    have hissues := (hexact true (numberRequest "datalink_mtu" scalar) hmember).1
    rw [createLogSession, hconfig] at hissues
    have hplain : ¬MtuOverridden (numberRequest "datalink_mtu" scalar) := by
      rintro ⟨members, hoptions, _⟩
      rw [numberRequest_absent (by decide)] at hoptions
      cases hoptions
    obtain ⟨mtu, hoption, hmtu⟩ := hissues.1.resolve_left hplain
    obtain ⟨value', hvalue', hoption'⟩ :=
      (logSessionConfig_mtu hmember hconfig).resolve_left hplain
    have hsame : value' = value := hvalue'.written.symm.trans hvalue.written
    have htext := congrArg decimalValue (Option.some.inj (hoption.symm.trans hoption'))
    rw [decimalValue_decimalText, decimalValue_decimalText, hsame] at htext
    rw [← htext]
    exact hmtu
  · intro hguarded hasLogService params hmember
    constructor
    · unfold createLogSession
      split
      · exact Proc.issues_pure _
      · refine orThrow_issues fun config hconfig => ?_
        refine (Proc.issues_request ?_).bind fun status => Proc.issues_pure _
        exact logSessionConfig_exact hguarded hmember hconfig
    · unfold configureLogSession
      split
      · exact Proc.issues_pure _
      · refine orThrow_issues fun id _ => orThrow_issues fun config hconfig => ?_
        refine (Proc.issues_request ?_).bind fun status => Proc.issues_pure _
        exact logSessionConfig_exact hguarded hmember hconfig

/-! ### The format of a stream -/

/-- The conversion to `int` is positive for the lower half of the values. -/
theorem toInt32_le_zero (rate : UInt32) :
    rate.toInt32 ≤ 0 ↔ rate.toNat = 0 ∨ 2 ^ 31 ≤ rate.toNat := by
  have hword := rate.toNat_lt
  have hint : rate.toInt32.toInt = (rate.toNat : Int).bmod (2 ^ 32) :=
    BitVec.toInt_eq_toNat_bmod rate.toBitVec
  rw [Int32.le_iff_toInt_le, hint, Int.bmod_def]
  have hzero : (0 : Int32).toInt = 0 := rfl
  rw [hzero]
  split <;> omega

theorem toInt32_le_zero_of_uint16 (channels : UInt16) :
    channels.toUInt32.toInt32 ≤ 0 ↔ channels.toNat = 0 := by
  have hword := channels.toNat_lt
  rw [toInt32_le_zero, UInt16.toNat_toUInt32]
  omega

variable {freshId : Bytes} {direction : StreamDirection} {stream : AudioStream}

/-- The format of a stream is what the readers return. -/
theorem audioStreamFromParams_format
    (hstream : audioStreamFromParams freshId object direction = .ok stream) :
    ∃ sampleRate channels bytesPerSample,
      optionalUInt32Param object "sample_rate" 48000 = .ok sampleRate ∧
      optionalUInt16Param object "channels" 2 = .ok channels ∧
      optionalUInt16Param object "bytes_per_sample" 2 = .ok bytesPerSample ∧
      stream.sampleRate = sampleRate.toInt32 ∧ stream.channels = channels.toUInt32.toInt32 ∧
      stream.bytesPerSample = bytesPerSample.toUInt32.toInt32 := by
  unfold audioStreamFromParams at hstream
  obtain ⟨id, _, hstream⟩ := of_step_ok hstream
  obtain ⟨driverFactory, _, hstream⟩ := of_step_ok hstream
  obtain ⟨device, _, hstream⟩ := of_step_ok hstream
  obtain ⟨deviceName, _, hstream⟩ := of_step_ok hstream
  obtain ⟨sampleRate, hrate, hstream⟩ := of_step_ok hstream
  obtain ⟨channels, hchannels, hstream⟩ := of_step_ok hstream
  obtain ⟨bytesPerSample, hbytes, hstream⟩ := of_step_ok hstream
  obtain ⟨blockingWrite, _, hstream⟩ := of_step_ok hstream
  rw [← Except.ok.inj hstream]
  exact ⟨sampleRate, channels, bytesPerSample, hrate, hchannels, hbytes, rfl, rfl, rfl⟩

/-- What is left of a number that gives a parameter of a stream. -/
theorem streamParam_left {param : StreamParam}
    (hmember : object.member (asciiBytes param.name) = some (.number scalar))
    (hstream : audioStreamFromParams freshId object direction = .ok stream) :
    ∃ value, IsUnsigned scalar value ∧
      param.of stream.streamParams = value % (NumericUse.stream param).width := by
  obtain ⟨sampleRate, channels, bytesPerSample, hrate, hchannels, hbytes, hrate', hchannels',
    hbytes'⟩ := audioStreamFromParams_format hstream
  cases param with
  | sampleRate =>
      obtain ⟨value, hvalue, rfl⟩ := (optionalUInt32Param_number hmember).mp hrate
      refine ⟨value, hvalue, ?_⟩
      show stream.sampleRate.toUInt32.toNat = _
      rw [hrate', UInt32.toUInt32_toInt32, toNat_toUInt32]
      rfl
  | channels =>
      obtain ⟨value, hvalue, rfl⟩ := (optionalUInt16Param_number hmember).mp hchannels
      refine ⟨value, hvalue, ?_⟩
      show stream.channels.toUInt32.toUInt16.toNat = _
      rw [hchannels', UInt32.toUInt32_toInt32, UInt16.toUInt16_toUInt32, toNat_toUInt16]
      rfl
  | bytesPerSample =>
      obtain ⟨value, hvalue, rfl⟩ := (optionalUInt16Param_number hmember).mp hbytes
      refine ⟨value, hvalue, ?_⟩
      show stream.bytesPerSample.toUInt32.toUInt16.toNat = _
      rw [hbytes', UInt32.toUInt32_toInt32, UInt16.toUInt16_toUInt32, toNat_toUInt16]
      rfl

/-- The service refuses exactly these values of the parameters. -/
theorem validateStream_iff (hstream : audioStreamFromParams freshId object direction = .ok stream) :
    validateStream stream = .ok () ↔ stream.id ≠ [] ∧
      ∀ param : StreamParam, ¬(NumericUse.stream param).Refuses (param.of stream.streamParams) := by
  obtain ⟨sampleRate, channels, bytesPerSample, -, -, -, hrate, hchannels, hbytes⟩ :=
    audioStreamFromParams_format hstream
  have hrate' : stream.sampleRate ≤ 0 ↔
      (NumericUse.stream .sampleRate).Refuses (StreamParam.sampleRate.of stream.streamParams) := by
    show _ ↔ stream.sampleRate.toUInt32.toNat = 0 ∨ 2 ^ 31 ≤ stream.sampleRate.toUInt32.toNat
    rw [hrate, UInt32.toUInt32_toInt32, toInt32_le_zero]
  have hchannels' : stream.channels ≤ 0 ↔
      (NumericUse.stream .channels).Refuses (StreamParam.channels.of stream.streamParams) := by
    show _ ↔ stream.channels.toUInt32.toUInt16.toNat = 0
    rw [hchannels, UInt32.toUInt32_toInt32, UInt16.toUInt16_toUInt32, toInt32_le_zero_of_uint16]
  have hbytes' : stream.bytesPerSample ≤ 0 ↔ (NumericUse.stream .bytesPerSample).Refuses
      (StreamParam.bytesPerSample.of stream.streamParams) := by
    show _ ↔ stream.bytesPerSample.toUInt32.toUInt16.toNat = 0
    rw [hbytes, UInt32.toUInt32_toInt32, UInt16.toUInt16_toUInt32, toInt32_le_zero_of_uint16]
  unfold validateStream
  constructor
  · intro hvalid
    split at hvalid
    · cases hvalid
    · next hid =>
        split at hvalid
        · cases hvalid
        · next hrateOk =>
            split at hvalid
            · cases hvalid
            · next hchannelsOk =>
                split at hvalid
                · cases hvalid
                · next hbytesOk =>
                    refine ⟨hid, fun param => ?_⟩
                    cases param with
                    | sampleRate => exact fun hrefused => hrateOk (hrate'.mpr hrefused)
                    | channels => exact fun hrefused => hchannelsOk (hchannels'.mpr hrefused)
                    | bytesPerSample => exact fun hrefused => hbytesOk (hbytes'.mpr hrefused)
  · rintro ⟨hid, haccepted⟩
    rw [if_neg hid, if_neg (hrate'.not.mpr (haccepted .sampleRate)),
      if_neg (hchannels'.not.mpr (haccepted .channels)),
      if_neg (hbytes'.not.mpr (haccepted .bytesPerSample))]

/-- A request with one number makes a stream of it and the defaults. -/
theorem numberRequest_stream (param : StreamParam) (hvalue : IsUnsigned scalar value) :
    ∃ stream, audioStreamFromParams [1] (numberRequest param.name scalar) .playback = .ok stream ∧
      stream.id = [1] ∧ ∀ other, other ≠ param →
        ¬(NumericUse.stream other).Refuses (other.of stream.streamParams) := by
  have hmember : (numberRequest param.name scalar).member (asciiBytes param.name) =
      some (.number scalar) := numberRequest_member
  unfold audioStreamFromParams
  cases param with
  | sampleRate =>
      have hread : optionalUInt32Param (numberRequest "sample_rate" scalar) "sample_rate" 48000 =
          .ok value.toUInt32 := (optionalUInt32Param_number hmember).mpr ⟨value, hvalue, rfl⟩
      simp only [StreamParam.name]
      rw [numberRequest_string (by decide), ok_step, numberRequest_string (by decide), ok_step,
        numberRequest_string (by decide), ok_step, numberRequest_string (by decide), ok_step,
        hread, ok_step, numberRequest_uint16 (by decide), ok_step,
        numberRequest_uint16 (by decide), ok_step, numberRequest_bool (by decide), ok_step]
      refine ⟨_, rfl, rfl, fun other hother => ?_⟩
      cases other with
      | sampleRate => exact absurd rfl hother
      | channels => exact (by decide : ¬(2 : UInt16).toNat = 0)
      | bytesPerSample => exact (by decide : ¬(2 : UInt16).toNat = 0)
  | channels =>
      have hread : optionalUInt16Param (numberRequest "channels" scalar) "channels" 2 =
          .ok value.toUInt16 := (optionalUInt16Param_number hmember).mpr ⟨value, hvalue, rfl⟩
      simp only [StreamParam.name]
      rw [numberRequest_string (by decide), ok_step, numberRequest_string (by decide), ok_step,
        numberRequest_string (by decide), ok_step, numberRequest_string (by decide), ok_step,
        numberRequest_uint32 (by decide), ok_step, hread, ok_step,
        numberRequest_uint16 (by decide), ok_step, numberRequest_bool (by decide), ok_step]
      refine ⟨_, rfl, rfl, fun other hother => ?_⟩
      cases other with
      | sampleRate => exact (by decide : ¬((48000 : UInt32).toNat = 0 ∨ 2 ^ 31 ≤ (48000 : UInt32).toNat))
      | channels => exact absurd rfl hother
      | bytesPerSample => exact (by decide : ¬(2 : UInt16).toNat = 0)
  | bytesPerSample =>
      have hread : optionalUInt16Param (numberRequest "bytes_per_sample" scalar)
          "bytes_per_sample" 2 = .ok value.toUInt16 :=
        (optionalUInt16Param_number hmember).mpr ⟨value, hvalue, rfl⟩
      simp only [StreamParam.name]
      rw [numberRequest_string (by decide), ok_step, numberRequest_string (by decide), ok_step,
        numberRequest_string (by decide), ok_step, numberRequest_string (by decide), ok_step,
        numberRequest_uint32 (by decide), ok_step, numberRequest_uint16 (by decide), ok_step,
        hread, ok_step, numberRequest_bool (by decide), ok_step]
      refine ⟨_, rfl, rfl, fun other hother => ?_⟩
      cases other with
      | sampleRate => exact (by decide : ¬((48000 : UInt32).toNat = 0 ∨ 2 ^ 31 ≤ (48000 : UInt32).toNat))
      | channels => exact (by decide : ¬(2 : UInt16).toNat = 0)
      | bytesPerSample => exact absurd rfl hother

theorem stream_iff (param : StreamParam) :
    UsedExactly scalar (.stream param) ↔ (NumericUse.stream param).Guarded scalar := by
  constructor
  · intro hexact value hvalue
    obtain ⟨stream, hstream, hid, hothers⟩ := numberRequest_stream param hvalue
    obtain ⟨value', hvalue', hleft⟩ := streamParam_left numberRequest_member hstream
    obtain rfl : value' = value := hvalue'.written.symm.trans hvalue.written
    by_cases hrefused : (NumericUse.stream param).Refuses (value' % (NumericUse.stream param).width)
    · exact .inr hrefused
    · have hvalid : validateStream stream = .ok () := by
        refine (validateStream_iff hstream).mpr ⟨by rw [hid]; exact List.cons_ne_nil _ _, ?_⟩
        intro other
        by_cases hother : other = param
        · rw [hother, hleft]
          exact hrefused
        · exact hothers other hother
      have hissues := hexact ⟨false, [], [], []⟩ .playback (numberRequest param.name scalar)
        numberRequest_member
      have hobject : requireObjectParams (numberRequest param.name scalar) "audio.createSession" =
          .ok (numberRequest param.name scalar) := if_pos rfl
      rw [createAudioSession, hobject] at hissues
      have hfresh : (orThrow (audioStreamFromParams [1] (numberRequest param.name scalar) .playback)
          (createStreamSession ⟨false, [], [], []⟩)).Issues (StreamExact param scalar) :=
        hissues.2 [1]
      rw [hstream] at hfresh
      simp only [orThrow, createStreamSession, hvalid] at hfresh
      have hexists := (hfresh.2 false).2 false
      have hused : (param.of stream.streamParams : ℚ) = numberValue scalar := hexists.1
      rw [hleft, hvalue.cast_eq_iff] at hused
      refine .inl (hused ▸ Nat.mod_lt _ ?_)
      cases param <;> decide
  · intro hguarded config direction params hmember
    unfold createAudioSession
    refine orThrow_issues fun object hobject => ?_
    rw [of_requireObjectParams hobject]
    refine (Proc.issues_request trivial).bind fun freshId => orThrow_issues fun stream hstream => ?_
    obtain ⟨value, hvalue, hleft⟩ := streamParam_left hmember hstream
    unfold createStreamSession
    refine orThrow_issues fun _ hvalid => ?_
    have hexact : (param.of (config.effective stream).streamParams : ℚ) = numberValue scalar := by
      have haccepted := ((validateStream_iff hstream).mp hvalid).2 param
      rw [hleft] at haccepted
      have hfits := (hguarded value hvalue).resolve_right haccepted
      show (param.of stream.streamParams : ℚ) = numberValue scalar
      rw [hleft, hvalue.cast_eq_iff]
      exact Nat.mod_eq_of_lt hfits
    have hcreate : StreamExact param scalar (.createDevice (config.effective stream)) := hexact
    have hemplace : StreamExact param scalar (.emplaceSession (config.effective stream)) := hexact
    refine (Proc.issues_request trivial).bind fun known => ?_
    split
    · exact Proc.issues_pure _
    · refine Proc.Issues.bind ?_ fun device => orThrow_issues fun _ _ => ?_
      · unfold createSessionDevice
        split
        · refine (Proc.issues_request hcreate).bind fun status => ?_
          cases status <;> exact Proc.issues_pure _
        · exact Proc.issues_pure _
      · refine (Proc.issues_request trivial).bind fun known => ?_
        split
        · exact Proc.issues_pure _
        · exact (Proc.issues_request hemplace).bind fun _ => Proc.issues_pure _

end Uses

/-- Where a number is used exactly or refused, in every request that gives it. -/
theorem used_exactly_iff (use : NumericUse) {scalar : Bytes} (hnumber : IsNumber scalar) :
    UsedExactly scalar use ↔ use.Guarded scalar := by
  cases use with
  | stream param => exact stream_iff param
  | maxEntries => exact maxEntries_iff
  | maxChunks => exact maxChunks_iff
  | maxBytes => exact maxBytes_iff hnumber
  | datalinkMtu => exact datalinkMtu_iff
  | uintValue => exact uintValue_iff
  | uintValueAny => exact uintValueAny_iff
  | firstNumericArrayItem => exact firstNumericArrayItem_iff

/-- A usual rate. -/
theorem used_exactly_rate : UsedExactly (decimalText 48000) (.stream .sampleRate) := by
  refine (used_exactly_iff _ (Parser.isNumber_decimalText 48000)).mpr fun value hvalue => .inl ?_
  rw [← hvalue.written, decimalValue_decimalText]
  decide

/-- A request for 65538 channels gets a session with two. -/
theorem channels_reduced : ¬UsedExactly (decimalText 65538) (.stream .channels) := by
  have hvalue : IsUnsigned (decimalText 65538) 65538 :=
    ⟨⟨decimalText_ne_nil _, fun _ hch => isDigit_of_mem_decimalText hch⟩,
      decimalValue_decimalText _, by decide⟩
  rw [stream_iff]
  intro hguarded
  obtain hfits | hzero := hguarded 65538 hvalue
  · exact absurd hfits (by decide)
  · exact absurd (show 65538 % 2 ^ 16 = 0 from hzero) (by decide)

end AudioStudio.Rpc
