import AudioStudio.Log.SofTrace

/-!
# Cutting the raw trace

What all `decodeSofTrace` calls of a session hand to the decoder, against the bytes
that the device has delivered.
-/

namespace AudioStudio.Log

open AudioStudio.Common
open LittleEndian
open Cutting

/-- The rounds of the extraction loop as a cutter of the trace. -/
def recordCutter (layout : TraceLayout) (decoder : SofDecoder) : Cutter UInt8 where
  next := SofSession.extractRound layout decoder
  takes := SofSession.extractRound_takes
  settled later hround := SofSession.extractRound_append later hround

/-- The complete records of a trace, one after the other. -/
def records (layout : TraceLayout) (decoder : SofDecoder) (trace : Bytes) : Bytes :=
  (recordCutter layout decoder).keeps trace

/-- The end of a trace that is not yet judged. -/
def remainder (layout : TraceLayout) (decoder : SofDecoder) (trace : Bytes) : Bytes :=
  (recordCutter layout decoder).waits trace

variable {layout : TraceLayout} {decoder dictionary : SofDecoder}

/-- The loop computes what the cutter says. -/
theorem SofSession.extractRecords_eq (pending complete : Bytes) :
    extractRecords layout decoder pending complete =
      (complete ++ records layout decoder pending, remainder layout decoder pending) := by
  unfold records remainder Cutter.keeps Cutter.waits
  induction pending using (recordCutter layout decoder).cut_induction generalizing complete with
  | rest pending hnext =>
      have hround : extractRound layout decoder pending = none := hnext
      rw [Cutter.cut_of_none hnext, extractRecords]
      split
      · simp
      · next heq => rw [hround] at heq; cases heq
      · next heq => rw [hround] at heq; cases heq
  | piece pending fate count hnext ih =>
      have hround : extractRound layout decoder pending = some (fate, count) := hnext
      rw [Cutter.cut_of_some hnext, extractRecords]
      split
      · next heq => rw [hround] at heq; cases heq
      · next heq =>
          rw [hround] at heq
          cases heq
          rw [ih, Piece.keptOf_skipped]
      · next heq =>
          rw [hround] at heq
          cases heq
          rw [ih, Piece.keptOf_kept, List.append_assoc]

/-! ## Runs -/

/-- The calls of a session that work on its raw trace. -/
inductive TraceCall where
  | start (outcome : TraceOutcome)
  | append (chunks : List Bytes) (outcome : TraceOutcome)
  | decode (outcome : TraceOutcome)

/-- A session, what the device has delivered to it and what it handed to the decoder. -/
structure TraceRun where
  session : SofSession
  consumed : Bytes := []
  handed : Bytes := []

namespace TraceRun

def opened (rawTracePath decodedTracePath traceLdc : String) : TraceRun :=
  { session := { rawTracePath, decodedTracePath, traceLdc } }

/-- The chunks of a call that cannot open its file never enter the session. -/
def entered (chunks : List Bytes) (outcome : TraceOutcome) (session : SofSession) : Bytes :=
  if session.rawTracePath ≠ "" ∧ !outcome.rawOpens then [] else chunks.flatten

def call (layout : TraceLayout) (dictionary : SofDecoder) (run : TraceRun) : TraceCall → TraceRun
  | .start outcome =>
      { run with session := (run.session.ensureSofDecoder dictionary outcome).2 }
  | .append chunks outcome =>
      { run with
        session := (run.session.appendRawTrace chunks outcome).2
        consumed := run.consumed ++ entered chunks outcome run.session }
  | .decode outcome =>
      let decoded := run.session.decodeSofTrace layout dictionary outcome
      { run with session := decoded.2.2, handed := run.handed ++ decoded.2.1 }

def calls (layout : TraceLayout) (dictionary : SofDecoder) (run : TraceRun)
    (made : List TraceCall) : TraceRun :=
  made.foldl (call layout dictionary) run

end TraceRun

namespace SofSession

variable {session : SofSession}

theorem ensureSofDecoder_keeps (dictionary : SofDecoder) (outcome : TraceOutcome)
    (session : SofSession) :
    (session.ensureSofDecoder dictionary outcome).2.sofRawPending = session.sofRawPending ∧
      ((session.sofDecoder = none ∨ session.sofDecoder = some dictionary) →
        (session.ensureSofDecoder dictionary outcome).2.sofDecoder = none ∨
          (session.ensureSofDecoder dictionary outcome).2.sofDecoder = some dictionary) := by
  unfold ensureSofDecoder
  split
  · exact ⟨rfl, id⟩
  · split
    · exact ⟨rfl, fun _ => .inr rfl⟩
    · exact ⟨rfl, id⟩

/-- A call gets its decoder, or leaves the session without one. -/
theorem ensureSofDecoder_ok (outcome : TraceOutcome)
    (hdecoder : session.sofDecoder = none ∨ session.sofDecoder = some dictionary) :
    ((session.ensureSofDecoder dictionary outcome).1 = .ok () ∧
        (session.ensureSofDecoder dictionary outcome).2.sofDecoder = some dictionary) ∨
      ((session.ensureSofDecoder dictionary outcome).1 ≠ .ok () ∧
        (session.ensureSofDecoder dictionary outcome).2 = session ∧ session.sofDecoder = none) := by
  unfold ensureSofDecoder
  split
  · next hsome =>
      rcases hdecoder with hnone | hdictionary
      · rw [hnone] at hsome
        cases hsome
      · exact .inl ⟨rfl, hdictionary⟩
  · next hnone =>
      rw [Bool.not_eq_true, Option.isSome_eq_false_iff, Option.isNone_iff_eq_none] at hnone
      split
      · exact .inl ⟨rfl, rfl⟩
      · refine .inr ⟨?_, rfl, hnone⟩
        intro hok
        cases hok

theorem appendRawTrace_pending (chunks : List Bytes) (outcome : TraceOutcome) :
    (session.appendRawTrace chunks outcome).2 =
      { session with
        sofRawPending := session.sofRawPending ++ TraceRun.entered chunks outcome session } := by
  unfold appendRawTrace TraceRun.entered
  dsimp only
  split
  · rw [List.append_nil]
  · split <;> rfl

/-- What a call with a decoder hands over and leaves pending. -/
theorem decodeSofTrace_ready (layout : TraceLayout) (outcome : TraceOutcome) {ready : SofSession}
    (hensure : session.ensureSofDecoder dictionary outcome = (.ok (), ready))
    (hdecoder : ready.sofDecoder = some dictionary) :
    (session.decodeSofTrace layout dictionary outcome).2 =
      (records layout dictionary ready.sofRawPending,
        { ready with sofRawPending := remainder layout dictionary ready.sofRawPending }) := by
  unfold decodeSofTrace
  rw [hensure]
  dsimp only
  rw [hdecoder, Option.getD_some, extractRecords_eq, List.nil_append]
  dsimp only
  split
  · next hempty => rw [hempty]
  · split
    · rfl
    · split
      · rfl
      · split <;> rfl

theorem decodeSofTrace_unready (layout : TraceLayout) (outcome : TraceOutcome) {status : Status}
    (hensure : session.ensureSofDecoder dictionary outcome = (.error status, session)) :
    (session.decodeSofTrace layout dictionary outcome).2 = ([], session) := by
  unfold decodeSofTrace
  rw [hensure]

end SofSession

/-- What a run has done with the delivered bytes: some of them are judged, and those
behind them are pending. -/
structure Judged (layout : TraceLayout) (dictionary : SofDecoder) (run : TraceRun)
    (judged waiting : Bytes) : Prop where
  decoder : run.session.sofDecoder = none ∨ run.session.sofDecoder = some dictionary
  consumed : run.consumed = judged ++ waiting
  handed : run.handed = records layout dictionary judged
  pending : run.session.sofRawPending = remainder layout dictionary judged ++ waiting

namespace Judged

variable {run : TraceRun} {judged waiting : Bytes}

theorem opened (layout : TraceLayout) (dictionary : SofDecoder)
    (rawTracePath decodedTracePath traceLdc : String) :
    Judged layout dictionary (TraceRun.opened rawTracePath decodedTracePath traceLdc) [] [] where
  decoder := .inl rfl
  consumed := rfl
  handed := by
    have hnone : (recordCutter layout dictionary).next [] = none := rfl
    rw [records, Cutter.keeps, Cutter.cut_of_none hnone]
    rfl
  pending := by
    have hnone : (recordCutter layout dictionary).next [] = none := rfl
    rw [remainder, Cutter.waits, Cutter.cut_of_none hnone]
    rfl

theorem start (hrun : Judged layout dictionary run judged waiting) (outcome : TraceOutcome) :
    Judged layout dictionary (run.call layout dictionary (.start outcome)) judged waiting where
  decoder := (SofSession.ensureSofDecoder_keeps dictionary outcome run.session).2 hrun.decoder
  consumed := hrun.consumed
  handed := hrun.handed
  pending := by
    rw [← hrun.pending]
    exact (SofSession.ensureSofDecoder_keeps dictionary outcome run.session).1

theorem append (hrun : Judged layout dictionary run judged waiting) (chunks : List Bytes)
    (outcome : TraceOutcome) :
    Judged layout dictionary (run.call layout dictionary (.append chunks outcome)) judged
      (waiting ++ TraceRun.entered chunks outcome run.session) where
  decoder := by
    rw [TraceRun.call, SofSession.appendRawTrace_pending]
    exact hrun.decoder
  consumed := by
    rw [TraceRun.call, hrun.consumed, List.append_assoc]
  handed := hrun.handed
  pending := by
    rw [TraceRun.call, SofSession.appendRawTrace_pending, hrun.pending, List.append_assoc]

/-- A decoding call judges everything that was delivered, or it has no decoder. -/
theorem decode (hrun : Judged layout dictionary run judged waiting) (outcome : TraceOutcome) :
    Judged layout dictionary (run.call layout dictionary (.decode outcome)) run.consumed [] ∨
      ((run.call layout dictionary (.decode outcome)).session.sofDecoder = none ∧
        Judged layout dictionary (run.call layout dictionary (.decode outcome)) judged
          waiting) := by
  cases hensure : run.session.ensureSofDecoder dictionary outcome with
  | mk status ready =>
      have hready := SofSession.ensureSofDecoder_ok outcome hrun.decoder
      have hpending := (SofSession.ensureSofDecoder_keeps dictionary outcome run.session).1
      rw [hensure] at hready hpending
      dsimp only at hready hpending
      rcases hready with ⟨rfl, hdecoder⟩ | ⟨hfailed, rfl, hnone⟩
      · left
        have hdecoded := SofSession.decodeSofTrace_ready layout outcome hensure hdecoder
        rw [hpending, hrun.pending] at hdecoded
        exact
          { decoder := by
              rw [TraceRun.call, hdecoded]
              exact .inr hdecoder
            consumed := (List.append_nil _).symm
            handed := by
              rw [TraceRun.call, hdecoded, hrun.handed, hrun.consumed]
              exact (Cutter.keeps_append judged waiting).symm
            pending := by
              rw [TraceRun.call, hdecoded, hrun.consumed, List.append_nil]
              exact (Cutter.waits_append judged waiting).symm }
      · right
        cases status with
        | ok value => exact absurd rfl hfailed
        | error status =>
            have hdecoded := SofSession.decodeSofTrace_unready layout outcome hensure
            have hcall : run.call layout dictionary (.decode outcome) = run := by
              rw [TraceRun.call, hdecoded, List.append_nil]
            rw [hcall]
            exact ⟨hnone, hrun⟩

/-- Whatever a call does, the bytes of the run are judged as before or more of them. -/
theorem call (hrun : Judged layout dictionary run judged waiting) (made : TraceCall) :
    ∃ judged waiting,
      Judged layout dictionary (run.call layout dictionary made) judged waiting := by
  cases made with
  | start outcome => exact ⟨judged, waiting, hrun.start outcome⟩
  | append chunks outcome => exact ⟨judged, _, hrun.append chunks outcome⟩
  | decode outcome =>
      rcases hrun.decode outcome with hdecoded | ⟨-, hsame⟩
      · exact ⟨run.consumed, [], hdecoded⟩
      · exact ⟨judged, waiting, hsame⟩

theorem calls (hrun : Judged layout dictionary run judged waiting) (made : List TraceCall) :
    ∃ judged waiting,
      Judged layout dictionary (run.calls layout dictionary made) judged waiting := by
  induction made generalizing run judged waiting with
  | nil => exact ⟨judged, waiting, hrun⟩
  | cons first later ih =>
      obtain ⟨judged, waiting, hfirst⟩ := hrun.call first
      exact ih hfirst

end Judged

/-! ## Pieces of a trace -/

/-- A kept piece is one complete record, a skipped piece the four bytes of a
resynchronisation. -/
def WellCut (layout : TraceLayout) (dictionary : SofDecoder) (piece : Piece UInt8) : Prop :=
  match piece.fate with
  | .kept => dictionary.recordSize layout piece.items = (0, piece.items.length)
  | .skipped => piece.items.length = kSofTraceResyncBytes

theorem wellCut_of_mem {trace : Bytes} {piece : Piece UInt8}
    (hpiece : piece ∈ ((recordCutter layout dictionary).cut trace).1) :
    WellCut layout dictionary piece := by
  obtain ⟨later, hnext⟩ := Cutter.next_of_mem_cut hpiece
  obtain ⟨-, ⟨hfate, hcount, -⟩ | ⟨hfate, hheader, -, hentry⟩⟩ :=
    SofSession.extractRound_cases hnext
  · rw [WellCut, hfate]
    exact hcount
  · rw [WellCut, hfate]
    rw [SofDecoder.address_append later hheader] at hentry
    exact SofDecoder.recordSize_of_ok (Nat.le_refl _) hentry

/-- However the raw trace of a session arrives and whatever its files do: every
delivered byte is part of a complete record that was handed to the decoder, was
dropped by resynchronisation, or is pending; what was handed over is the beginning of
the records of the delivered stream, and all of them once a call has decoded; the
records grow with the stream; and every round of the loop shortens the pending trace. -/
theorem trace_cut_by_stream (layout : TraceLayout) (dictionary : SofDecoder)
    (rawTracePath decodedTracePath traceLdc : String) (made : List TraceCall) :
    let run := (TraceRun.opened rawTracePath decodedTracePath traceLdc).calls layout dictionary made
    (∃ pieces : List (Piece UInt8), (∀ piece ∈ pieces, WellCut layout dictionary piece) ∧
      run.consumed = Piece.itemsOf pieces ++ run.session.sofRawPending ∧
      run.handed = Piece.keptOf pieces) ∧
    run.handed <+: records layout dictionary run.consumed ∧
    (∀ outcome, let decoded := run.call layout dictionary (.decode outcome)
      decoded.session.sofDecoder ≠ none →
        decoded.handed = records layout dictionary decoded.consumed ∧
        decoded.session.sofRawPending = remainder layout dictionary decoded.consumed) ∧
    (∀ trace later, records layout dictionary trace <+:
      records layout dictionary (trace ++ later)) ∧
    ∀ pending fate count, SofSession.extractRound layout dictionary pending = some (fate, count) →
      (pending.drop count).length < pending.length := by
  intro run
  obtain ⟨judged, waiting, hrun⟩ :=
    (Judged.opened layout dictionary rawTracePath decodedTracePath traceLdc).calls made
  refine ⟨⟨((recordCutter layout dictionary).cut judged).1, fun piece => wellCut_of_mem, ?_,
    hrun.handed⟩, ?_, ?_, ?_, ?_⟩
  · have hitems := (recordCutter layout dictionary).cut_items judged
    rw [hrun.consumed, hrun.pending, ← List.append_assoc]
    exact congrArg (· ++ waiting) hitems.symm
  · rw [hrun.handed, hrun.consumed]
    exact Cutter.keeps_prefix judged waiting
  · intro outcome decoded hdecoder
    rcases hrun.decode outcome with hdecoded | ⟨hnone, -⟩
    · have hconsumed := hdecoded.consumed
      rw [List.append_nil] at hconsumed
      have hpending := hdecoded.pending
      rw [List.append_nil] at hpending
      exact ⟨hdecoded.handed.trans (by rw [hconsumed]), hpending.trans (by rw [hconsumed])⟩
    · exact absurd hnone hdecoder
  · exact Cutter.keeps_prefix
  · intro pending fate count hround
    have htakes := SofSession.extractRound_takes hround
    rw [List.length_drop]
    omega

end AudioStudio.Log
