import AudioStudio.Rpc.Client
import AudioStudio.Simulator.Session

/-!
# Playback over RPC

`AudioPlayback::writeFrames` from the client down to the device session: the client's
chunks, the stream handler of `as_server` and the audio service.
-/

namespace AudioStudio.Playback

open AudioStudio.Common
open AudioStudio.Rpc
open AudioStudio.Simulator
open LittleEndian

/-! ## The audio service -/

structure AudioPlaybackSession where
  id : String
  running : Bool := false
  closed : Bool := false
  device : Option SimulatorAudioSession := none
  deriving DecidableEq, Repr

/-- The result holds `accepted_bytes`. -/
def AudioPlaybackSession.writeFrames (session : AudioPlaybackSession) (data : Bytes)
    (timeoutMs : UInt32) : HostProc (Result Nat × AudioPlaybackSession) := do
  if session.closed then
    pure (.error (.unavailable ("audio playback session is closed: " ++ session.id)), session)
  else if !session.running then
    pure (.error (.unavailable ("audio playback stream is not running: " ++ session.id)), session)
  else if data = [] then pure (.ok 0, session)
  else match session.device with
    | none => pure (.ok data.length, session)
    | some device => do
        let (status, device) ← device.writeFrame data timeoutMs
        let session := { session with device := some device }
        match status with
        | .error status => pure (.error status, session)
        | .ok () => pure (.ok data.length, session)

abbrev AudioService := List AudioPlaybackSession

namespace AudioService

def playbackSession (service : AudioService) (id : String) : Option AudioPlaybackSession :=
  service.find? (·.id = id)

def store (service : AudioService) (session : AudioPlaybackSession) : AudioService :=
  service.map fun other => if other.id = session.id then session else other

def writeFrames (service : AudioService) (id : String) (data : Bytes) (timeoutMs : UInt32) :
    HostProc (Result Nat × AudioService) := do
  match service.playbackSession id with
  | none => pure (.error (.unavailable ("audio playback stream not found: " ++ id)), service)
  | some session => do
      let (accepted, session) ← session.writeFrames data timeoutMs
      pure (accepted, service.store session)

end AudioService

/-! ## The stream handler -/

structure RpcRuntimeContext where
  numericSessions : List (UInt32 × String)
  audio : AudioService
  deriving DecidableEq, Repr

def RpcRuntimeContext.sessionIdForNumeric (context : RpcRuntimeContext) (numeric : UInt32) :
    Option String :=
  (context.numericSessions.find? (·.1 = numeric)).map (·.2)

/-- A frame with JSON in it that answers a request. -/
def answerFrame (request : RpcBinaryFrame) (messageType : RpcMessageType) (payload : JsonValue) :
    RpcBinaryFrame where
  header :=
    { messageType := messageType
      serviceId := request.header.serviceId
      methodId := request.header.methodId
      payloadType := .kJson
      requestId := request.header.requestId
      sessionId := request.header.sessionId
      streamId := request.header.streamId }
  payload := payload.dump

def errorFrame (request : RpcBinaryFrame) (message : String) : RpcBinaryFrame :=
  answerFrame request .kError (.object
    (assign (asciiBytes "message") (.ofText message)
      (assign (asciiBytes "ok") (.bool false) [])))

/-- What a write of `acceptedBytes` bytes is acknowledged with. -/
def ackPayload (request : RpcBinaryFrame) (acceptedBytes : Nat) : JsonValue :=
  .object
    (assign (asciiBytes "request_id") (.number (decimalText request.header.requestId.toNat))
    (assign (asciiBytes "credit_bytes") (.number (decimalText (1024 * 1024)))
    (assign (asciiBytes "queued_bytes") (.number (decimalText 0))
    (assign (asciiBytes "accepted_bytes") (.number (decimalText acceptedBytes.toUInt32.toNat))
    (assign (asciiBytes "accepted") (.bool true) [])))))

/-- `audioStreamResponse` for a request to write frames. -/
def audioStreamWriteResponse (context : RpcRuntimeContext) (request : RpcBinaryFrame) :
    HostProc (RpcBinaryFrame × RpcRuntimeContext) := do
  match context.sessionIdForNumeric request.header.sessionId with
  | none =>
      pure (errorFrame request ("audio stream session not found for numeric session: " ++
        toString request.header.sessionId.toNat), context)
  | some sessionId => do
      let timeoutMs := if request.header.flags = 0 then 5000 else request.header.flags
      let (accepted, audio) ← context.audio.writeFrames sessionId request.payload timeoutMs
      let context := { context with audio := audio }
      match accepted with
      | .error status => pure (errorFrame request status.message, context)
      | .ok acceptedBytes =>
          pure (answerFrame request .kStreamAck (ackPayload request acceptedBytes), context)

/-! ## The client -/

structure AudioStreamDescriptor where
  numericStreamId : UInt32 := 0
  maxChunkBytes : UInt32 := 65536
  deriving DecidableEq, Repr

/-- The arguments of `writePlaybackFrames` that all its frames share. -/
structure PlaybackStream where
  numericSessionId : UInt32
  stream : AudioStreamDescriptor
  timeoutMs : UInt32 := 5000
  deriving DecidableEq, Repr

/-- A client asks its stream transport to exchange frames. -/
abbrev StreamProc (α : Type) :=
  Proc (fun _ : RpcBinaryFrame => Except RpcReadError RpcBinaryFrame) α

namespace PlaybackStream

def writeRequest (playback : PlaybackStream) (sequence : UInt32) (chunk : Bytes) :
    RpcBinaryFrame where
  header :=
    { messageType := .kStreamData
      serviceId := kRpcServiceAudio
      methodId := kRpcAudioMethodWriteFrames
      payloadType := .kBinary
      requestId := sequence
      sessionId := playback.numericSessionId
      streamId := playback.stream.numericStreamId
      flags := playback.timeoutMs }
  payload := chunk

/-- `max_chunk`. -/
def maxChunk (playback : PlaybackStream) : Nat :=
  max 1 playback.stream.maxChunkBytes.toNat

/-- The loop over what is left of the data. -/
def writeFrom (playback : PlaybackStream) (sequence : UInt32) (total : AudioWriteResult)
    (data : Bytes) : StreamProc (Except ClientError AudioWriteResult × UInt32) :=
  if _hdata : data = [] then pure (.ok total, sequence)
  else do
    let request := playback.writeRequest sequence (data.take playback.maxChunk)
    let frame : Except RpcReadError RpcBinaryFrame ← Proc.request request
    match frame with
    | .error error => pure (.error (.transport error), sequence + 1)
    | .ok frame =>
        match parseWriteAck frame with
        | .error error => pure (.error error, sequence + 1)
        | .ok ack =>
            if !ack.accepted then
              pure (.error (internalError "stream write was not accepted"), sequence + 1)
            else
              playback.writeFrom (sequence + 1)
                { ack with accepted := true, bytes := total.bytes + ack.bytes }
                (data.drop playback.maxChunk)
termination_by data.length
decreasing_by
  have hpos : 0 < data.length := List.length_pos_iff.mpr _hdata
  have hmax : 1 ≤ playback.maxChunk := Nat.le_max_left 1 _
  rw [List.length_drop]
  omega

def writePlaybackFrames (playback : PlaybackStream) (hasStreamTransport : Bool)
    (sequence : UInt32) (data : Bytes) :
    StreamProc (Except ClientError AudioWriteResult × UInt32) :=
  if data = [] then pure (.ok {}, sequence)
  else if !hasStreamTransport then
    pure (.error (.rpc JsonRpcErrorCode.kInvalidParams.numeric
      (asciiBytes "AudioPlayback::writeFrames requires a binary stream transport")), sequence)
  else playback.writeFrom sequence {} data

end PlaybackStream

end AudioStudio.Playback
