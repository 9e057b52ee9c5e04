import AudioStudio.Playback.Stream
import AudioStudio.Rpc.JsonRoundTrip

/-!
# Acknowledgements of playback data

What the client reads in the answers of the stream handler.
-/

namespace AudioStudio.Playback

open AudioStudio.Rpc
open LittleEndian

/-- The members of an acknowledgement, in the order of the map. -/
theorem ackPayload_eq (request : RpcBinaryFrame) (acceptedBytes : Nat) :
    ackPayload request acceptedBytes = .object
      [(asciiBytes "accepted", .bool true),
        (asciiBytes "accepted_bytes", .number (decimalText acceptedBytes.toUInt32.toNat)),
        (asciiBytes "credit_bytes", .number (decimalText (1024 * 1024))),
        (asciiBytes "queued_bytes", .number (decimalText 0)),
        (asciiBytes "request_id", .number (decimalText request.header.requestId.toNat))] := by
  rfl

theorem ackKeys_ascending :
    [asciiBytes "accepted", asciiBytes "accepted_bytes", asciiBytes "credit_bytes",
      asciiBytes "queued_bytes", asciiBytes "request_id"].Pairwise (· < ·) := by
  decide +kernel

theorem ackPayload_wellFormed (request : RpcBinaryFrame) (acceptedBytes : Nat) :
    (ackPayload request acceptedBytes).WellFormed := by
  rw [ackPayload_eq]
  refine ⟨?_, trivial, Parser.isNumber_decimalText _, Parser.isNumber_decimalText _,
    Parser.isNumber_decimalText _, Parser.isNumber_decimalText _, trivial⟩
  have hkeys := ackKeys_ascending
  unfold Ascending
  simp only [List.pairwise_cons, List.mem_cons, forall_eq_or_imp] at hkeys ⊢
  simpa using hkeys

theorem asUInt64_decimalText {number : Nat} (hnumber : number < 2 ^ 64) :
    asUInt64 (.number (decimalText number)) = some number := by
  have hdigits : (decimalText number).all (isDigit ·) :=
    List.all_eq_true.mpr fun digit hdigit => isDigit_of_mem_decimalText hdigit
  unfold asUInt64
  dsimp only
  rw [decimalValue_decimalText, if_pos ⟨decimalText_ne_nil number, hdigits, hnumber⟩]

/-- A field that holds the text of a 32-bit number. -/
theorem optionalU32Field_of_member {object : JsonValue} {field : String} {fallback : UInt32}
    {number : Nat} (hmember : object.member (asciiBytes field) = some (.number (decimalText number)))
    (hnumber : number < 2 ^ 32) :
    optionalU32Field object field fallback = .ok number.toUInt32 := by
  unfold optionalU32Field
  rw [hmember]
  dsimp only
  rw [asUInt64_decimalText (hnumber.trans (by decide))]

section Answers

variable {request : RpcBinaryFrame}

/-- The client reads the acknowledgement that the handler wrote. -/
theorem parseWriteAck_answer {acceptedBytes : Nat} (haccepted : acceptedBytes < 2 ^ 32) :
    parseWriteAck (answerFrame request .kStreamAck (ackPayload request acceptedBytes)).sealed =
      .ok { accepted := true, bytes := acceptedBytes, queuedBytes := 0, creditBytes := 1048576 } := by
  have hparsed : parseJson (ackPayload request acceptedBytes).dump =
      .ok (ackPayload request acceptedBytes) :=
    parseJson_dump (ackPayload_wellFormed request acceptedBytes)
  have hbytes : acceptedBytes.toUInt32.toNat = acceptedBytes := UInt32.toNat_ofNat_of_lt' haccepted
  have haccept : optionalBoolField (ackPayload request acceptedBytes) "accepted" false = true := rfl
  have hcount : optionalU32Field (ackPayload request acceptedBytes) "accepted_bytes" 0 =
      .ok acceptedBytes.toUInt32 :=
    (@optionalU32Field_of_member _ _ _ acceptedBytes.toUInt32.toNat rfl
      (UInt32.toNat_lt _)).trans (by rw [hbytes])
  have hqueued : optionalU32Field (ackPayload request acceptedBytes) "queued_bytes" 0 = .ok 0 :=
    optionalU32Field_of_member rfl (by decide)
  have hcredit : optionalU32Field (ackPayload request acceptedBytes) "credit_bytes" 0 =
      .ok (1024 * 1024) := optionalU32Field_of_member rfl (by decide)
  let frame := (answerFrame request .kStreamAck (ackPayload request acceptedBytes)).sealed
  have hthrow : throwIfErrorFrame frame = .ok () := if_pos (by decide : RpcMessageType.kStreamAck ≠ .kError)
  have hpayload : frame.payload = (ackPayload request acceptedBytes).dump := rfl
  have htype : ¬ frame.header.messageType ≠ .kStreamAck := not_not.mpr rfl
  change parseWriteAck frame = _
  unfold parseWriteAck
  simp only [hthrow, if_neg htype, hpayload, hparsed, hcount, hqueued, hcredit, haccept]
  change Except.ok (AudioWriteResult.mk true acceptedBytes.toUInt32.toNat 0 (1024 * 1024)) = _
  rw [hbytes]

/-- An error answer is no acknowledgement. -/
theorem parseWriteAck_error (message : String) :
    ∃ error, parseWriteAck (errorFrame request message).sealed = .error error := by
  have hthrow : ∃ error, throwIfErrorFrame (errorFrame request message).sealed = .error error := by
    have htype : ¬ (errorFrame request message).sealed.header.messageType ≠ .kError := not_not.mpr rfl
    unfold throwIfErrorFrame
    rw [if_neg htype]
    cases parseJson (errorFrame request message).sealed.payload with
    | error fault => exact ⟨_, rfl⟩
    | ok error => exact ⟨_, rfl⟩
  obtain ⟨error, herror⟩ := hthrow
  refine ⟨error, ?_⟩
  unfold parseWriteAck
  rw [herror]
  rfl

end Answers

end AudioStudio.Playback
