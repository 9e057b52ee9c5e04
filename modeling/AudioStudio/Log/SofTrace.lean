import AudioStudio.Common.Status
import AudioStudio.Core.Cutting
import AudioStudio.Core.LittleEndian

/-!
# SOF trace records

`LogService::appendRawTrace`, `decodeSofTrace` and
`audio_studio_sof_logger_decoder_record_size`: the raw trace of a device is cut into
records whose length the dictionary gives, and the complete records are handed to
the SOF logger decoder.
-/

namespace AudioStudio.Log

open AudioStudio.Common
open LittleEndian
open Cutting

/-! ## The length of a record -/

/-- `sizeof(log_entry_header)` and where its `log_entry_address` stands. -/
structure TraceLayout where
  headerSize : Nat
  addressOffset : Nat
  inside : addressOffset + 4 ≤ headerSize

/-- The fields of `snd_sof_logs_header` that locate an entry of the dictionary. -/
structure LogsHeader where
  baseAddress : UInt32
  dataLength : UInt32
  dataOffset : UInt32
  deriving DecidableEq, Repr

/-- An open dictionary: the bytes of the `.ldc` file and its header. -/
structure SofDecoder where
  ldcFile : Bytes
  logsHeader : LogsHeader
  deriving DecidableEq, Repr

def EINVAL : Int := 22
def ERANGE : Int := 34

/-- `AUDIO_STUDIO_TRACE_MAX_PARAMS_COUNT` -/
def traceMaxParamsCount : Nat := 4

/-- `sizeof(audio_studio_ldc_entry_header)`: six words. -/
def ldcEntryHeaderSize : Nat := 24

/-- The offset of `params_num` in an entry header. -/
def paramsNumOffset : Nat := 8

namespace SofDecoder

/-- The size of a record by its dictionary entry, or the error code. -/
def entryRecordSize (layout : TraceLayout) (decoder : SofDecoder) (logEntryAddress : UInt32) :
    Except Int Nat :=
  let header := decoder.logsHeader
  if logEntryAddress < header.baseAddress ∨
      logEntryAddress > header.baseAddress + header.dataLength then
    .error ERANGE
  else
    let entryOffset := (logEntryAddress - header.baseAddress + header.dataOffset).toNat
    -- A short `fread` of the entry header.
    if decoder.ldcFile.length < entryOffset + ldcEntryHeaderSize then .error EINVAL
    else
      let paramsNum := (word32 decoder.ldcFile (entryOffset + paramsNumOffset)).toNat
      if paramsNum > traceMaxParamsCount then .error EINVAL
      else .ok (layout.headerSize + paramsNum * 4)

/-- The return code and the record size. -/
def recordSize (layout : TraceLayout) (decoder : SofDecoder) (data : Bytes) : Int × Nat :=
  if data.length < layout.headerSize then (1, 0)
  else match decoder.entryRecordSize layout (word32 data layout.addressOffset) with
    | .error code => (-code, 0)
    | .ok size => if data.length < size then (1, size) else (0, size)

end SofDecoder

/-! ## The pending trace of a session -/

/-- The part of a session with `trace_ldc` that the raw trace goes through. -/
structure SofSession where
  rawTracePath : String
  decodedTracePath : String
  traceLdc : String
  sofDecoder : Option SofDecoder := none
  sofRawPending : Bytes := []
  deriving DecidableEq, Repr

def kSofTraceResyncBytes : Nat := 4

/-- What the file operations and the decoder library do in one call. -/
structure TraceOutcome where
  ldcOpens : Bool := true
  rawOpens : Bool := true
  rawWrites : Bool := true
  decodeBuffer : Except Int Bytes := .ok []
  decodedOpens : Bool := true
  decodedWrites : Bool := true

namespace SofSession

def ensureSofDecoder (dictionary : SofDecoder) (outcome : TraceOutcome) (session : SofSession) :
    Result Unit × SofSession :=
  if session.sofDecoder.isSome then (.ok (), session)
  else if outcome.ldcOpens then (.ok (), { session with sofDecoder := some dictionary })
  else
    (.error (.unavailable ("failed to open SOF logger dictionary: " ++ session.traceLdc)), session)

def appendRawTrace (chunks : List Bytes) (outcome : TraceOutcome) (session : SofSession) :
    Result Unit × SofSession :=
  let rawOpen := session.rawTracePath ≠ ""
  if rawOpen ∧ !outcome.rawOpens then
    (.error (.unavailable ("failed to open SOF raw trace file: " ++ session.rawTracePath)), session)
  else
    let session := { session with sofRawPending := session.sofRawPending ++ chunks.flatten }
    -- Nothing is written for an empty chunk.
    if rawOpen ∧ chunks.flatten ≠ [] ∧ !outcome.rawWrites then
      (.error (.unavailable ("failed to append SOF raw trace file: " ++ session.rawTracePath)),
        session)
    else (.ok (), session)

/-- One round of the loop of `decodeSofTrace`: the bytes that it takes off the pending
trace and whether they are a complete record; none when the loop stops. -/
def extractRound (layout : TraceLayout) (decoder : SofDecoder) (pending : Bytes) :
    Option (Fate × Nat) :=
  if pending = [] then none
  else
    let (rc, recordSize) := decoder.recordSize layout pending
    if rc > 0 then none
    else if rc < 0 ∨ recordSize = 0 then
      some (.skipped, if kSofTraceResyncBytes < pending.length then kSofTraceResyncBytes
        else pending.length)
    else some (.kept, recordSize)

end SofSession

/-! ## Rounds of the loop -/

namespace SofDecoder

variable {layout : TraceLayout} {decoder : SofDecoder} {data : Bytes}

variable {address : UInt32} {code : Int}

theorem entryRecordSize_error (hentry : decoder.entryRecordSize layout address = .error code) :
    0 < code := by
  unfold entryRecordSize at hentry
  dsimp only at hentry
  split at hentry
  · cases hentry
    decide
  split at hentry
  · cases hentry
    decide
  split at hentry
  · cases hentry
    decide
  · cases hentry

variable {size : Nat}

theorem entryRecordSize_ok (hentry : decoder.entryRecordSize layout address = .ok size) :
    layout.headerSize ≤ size := by
  unfold entryRecordSize at hentry
  dsimp only at hentry
  split at hentry
  · cases hentry
  split at hentry
  · cases hentry
  split at hentry
  · cases hentry
  · cases hentry
    omega

/-- The data ends before the record does, the entry is invalid, or the record is complete. -/
theorem recordSize_cases (layout : TraceLayout) (decoder : SofDecoder) (data : Bytes) :
    (∃ size, decoder.recordSize layout data = (1, size)) ∨
      (layout.headerSize ≤ data.length ∧ ∃ code,
        decoder.entryRecordSize layout (word32 data layout.addressOffset) = .error code ∧
        decoder.recordSize layout data = (-code, 0)) ∨
      ∃ size, layout.headerSize ≤ size ∧ size ≤ data.length ∧
        decoder.entryRecordSize layout (word32 data layout.addressOffset) = .ok size ∧
        decoder.recordSize layout data = (0, size) := by
  unfold recordSize
  split
  · exact .inl ⟨0, rfl⟩
  next hheader =>
  split
  · next code hentry => exact .inr (.inl ⟨by omega, code, hentry, rfl⟩)
  next size hentry =>
  split
  · exact .inl ⟨size, rfl⟩
  · exact .inr (.inr ⟨size, entryRecordSize_ok hentry, by omega, hentry, rfl⟩)

theorem recordSize_of_error (hheader : layout.headerSize ≤ data.length)
    (hentry : decoder.entryRecordSize layout (word32 data layout.addressOffset) = .error code) :
    decoder.recordSize layout data = (-code, 0) := by
  rw [recordSize, if_neg (by omega), hentry]

theorem recordSize_of_ok (hsize : size ≤ data.length)
    (hentry : decoder.entryRecordSize layout (word32 data layout.addressOffset) = .ok size) :
    decoder.recordSize layout data = (0, size) := by
  have hheader := entryRecordSize_ok hentry
  rw [recordSize, if_neg (by omega), hentry]
  dsimp only
  rw [if_neg (by omega)]

theorem address_append (later : Bytes) (hheader : layout.headerSize ≤ data.length) :
    word32 (data ++ later) layout.addressOffset = word32 data layout.addressOffset := by
  have hinside := layout.inside
  exact word32_append_left (by omega)

end SofDecoder

namespace SofSession

variable {layout : TraceLayout} {decoder : SofDecoder} {pending : Bytes}

theorem not_nil_of_header (hheader : layout.headerSize ≤ pending.length) : pending ≠ [] := by
  intro hnil
  have hinside := layout.inside
  rw [hnil, List.length_nil] at hheader
  omega

/-- An invalid entry is skipped by four bytes. -/
theorem extractRound_of_error {code : Int} (hheader : layout.headerSize ≤ pending.length)
    (hentry : decoder.entryRecordSize layout (word32 pending layout.addressOffset) =
      .error code) :
    extractRound layout decoder pending = some (.skipped, kSofTraceResyncBytes) := by
  have hinside := layout.inside
  have hcode := SofDecoder.entryRecordSize_error hentry
  rw [extractRound, if_neg (not_nil_of_header hheader), SofDecoder.recordSize_of_error hheader hentry]
  dsimp only
  rw [if_neg (by omega), if_pos (.inr rfl)]
  unfold kSofTraceResyncBytes
  split
  · rfl
  · simp only [Option.some.injEq, Prod.mk.injEq, true_and]
    omega

/-- A complete record is taken. -/
theorem extractRound_of_ok {size : Nat} (hsize : size ≤ pending.length)
    (hentry : decoder.entryRecordSize layout (word32 pending layout.addressOffset) = .ok size) :
    extractRound layout decoder pending = some (.kept, size) := by
  have hinside := layout.inside
  have hheader := SofDecoder.entryRecordSize_ok hentry
  rw [extractRound, if_neg (not_nil_of_header (hheader.trans hsize)),
    SofDecoder.recordSize_of_ok hsize hentry]
  dsimp only
  rw [if_neg (by omega), if_neg (by omega)]

variable {fate : Fate} {count : Nat}

/-- What a round can do. -/
theorem extractRound_cases (hround : extractRound layout decoder pending = some (fate, count)) :
    layout.headerSize ≤ pending.length ∧
      ((fate = .skipped ∧ count = kSofTraceResyncBytes ∧ ∃ code,
          decoder.entryRecordSize layout (word32 pending layout.addressOffset) = .error code) ∨
        (fate = .kept ∧ layout.headerSize ≤ count ∧ count ≤ pending.length ∧
          decoder.entryRecordSize layout (word32 pending layout.addressOffset) = .ok count)) := by
  rcases SofDecoder.recordSize_cases layout decoder pending with
    ⟨size, hwait⟩ | ⟨hheader, code, hentry, -⟩ | ⟨size, hheader, hsize, hentry, -⟩
  · rw [extractRound] at hround
    split at hround
    · cases hround
    · rw [hwait] at hround
      cases hround
  · rw [extractRound_of_error hheader hentry] at hround
    cases hround
    exact ⟨hheader, .inl ⟨rfl, rfl, code, hentry⟩⟩
  · rw [extractRound_of_ok hsize hentry] at hround
    cases hround
    exact ⟨by omega, .inr ⟨rfl, hheader, hsize, hentry⟩⟩

theorem extractRound_takes (hround : extractRound layout decoder pending = some (fate, count)) :
    0 < count ∧ count ≤ pending.length := by
  have hinside := layout.inside
  obtain ⟨hheader, ⟨-, rfl, -⟩ | ⟨-, hcount, hsize, -⟩⟩ := extractRound_cases hround
  · unfold kSofTraceResyncBytes
    omega
  · omega

/-- What a round takes does not change when more of the trace is there. -/
theorem extractRound_append {cut : Fate × Nat} (later : Bytes)
    (hround : extractRound layout decoder pending = some cut) :
    extractRound layout decoder (pending ++ later) = some cut := by
  obtain ⟨fate, count⟩ := cut
  have hlength : (pending ++ later).length = pending.length + later.length :=
    List.length_append
  obtain ⟨hheader, ⟨rfl, rfl, code, hentry⟩ | ⟨rfl, -, hsize, hentry⟩⟩ :=
    extractRound_cases hround
  · rw [← SofDecoder.address_append later hheader] at hentry
    exact extractRound_of_error (by omega) hentry
  · rw [← SofDecoder.address_append later hheader] at hentry
    exact extractRound_of_ok (by omega) hentry

/-! ## Extracting records -/

/-- The loop of `decodeSofTrace`: the complete records and the trace still pending. -/
def extractRecords (layout : TraceLayout) (decoder : SofDecoder) (pending complete : Bytes) :
    Bytes × Bytes :=
  match _hround : extractRound layout decoder pending with
  | none => (complete, pending)
  | some (.skipped, count) => extractRecords layout decoder (pending.drop count) complete
  | some (.kept, count) =>
      extractRecords layout decoder (pending.drop count) (complete ++ pending.take count)
termination_by pending.length
decreasing_by
  all_goals
    have htakes := extractRound_takes _hround
    rw [List.length_drop]
    omega

/-- The second result is what is handed to the decoder. -/
def decodeSofTrace (layout : TraceLayout) (dictionary : SofDecoder) (outcome : TraceOutcome)
    (session : SofSession) : Result Unit × Bytes × SofSession :=
  match session.ensureSofDecoder dictionary outcome with
  | (.error status, session) => (.error status, [], session)
  | (.ok (), session) =>
      let decoder := session.sofDecoder.getD dictionary
      let (complete, pending) := extractRecords layout decoder session.sofRawPending []
      let session := { session with sofRawPending := pending }
      if complete = [] then (.ok (), [], session)
      else match outcome.decodeBuffer with
        | .error _ =>
            (.error (.unavailable "SOF logger decoder failed to decode trace"), complete, session)
        | .ok _ =>
            if session.decodedTracePath ≠ "" ∧ !outcome.decodedOpens then
              (.error (.unavailable
                ("failed to open SOF decoded trace file: " ++ session.decodedTracePath)),
                complete, session)
            else if session.decodedTracePath ≠ "" ∧ !outcome.decodedWrites then
              (.error (.unavailable
                ("failed to append SOF decoded trace file: " ++ session.decodedTracePath)),
                complete, session)
            else (.ok (), complete, session)

end SofSession

end AudioStudio.Log
