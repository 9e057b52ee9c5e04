import AudioStudio.Common.Status
import AudioStudio.Controller.Audio

/-!
# The simulator's audio session

`SimulatorAudioSession`: the host's side of one stream.  What it asks of the
transport manager, and of the control channel that all sessions share, is one
command each.
-/

namespace AudioStudio.Simulator

open AudioStudio.Common
open AudioStudio.Controller
open LittleEndian
open Wire

def kAudioControlTimeoutMs : UInt32 := 1000
def kAudioDataTimeoutMs : UInt32 := 5000

def kTransportFrameError : UInt32 := 0x80

/-! ## Commands -/

inductive HostCmd where
  | isDataLinkConfigured
  | acquireAudioControlChannel
  | releaseAudioControlChannel
  | sendSync (channelId commandId : UInt16) (payload : Bytes) (timeoutMs : UInt32)
  | openChannel (id : UInt16) (service : String)
  | closeChannel (id : UInt16)
  deriving DecidableEq, Repr

@[reducible] def HostReply : HostCmd → Type
  | .isDataLinkConfigured => Bool
  | .acquireAudioControlChannel => Result Unit
  | .releaseAudioControlChannel => Unit
  | .sendSync _ _ _ _ => Result TransportFrame
  | .openChannel _ _ => Result Unit
  | .closeChannel _ => Unit

abbrev HostProc (α : Type) := Proc HostReply α

def host (cmd : HostCmd) : HostProc (HostReply cmd) :=
  Proc.request cmd

/-! ## The link -/

/-- What becomes of one exchange; a late response is lost to it. -/
inductive LinkOutcome where
  | delivered
  | requestLost
  | responseLost
  deriving DecidableEq, Repr

/-! ## The session -/

structure AudioStreamParams where
  sampleRate : UInt32 := 48000
  channels : UInt16 := 2
  bytesPerSample : UInt16 := 2
  deriving DecidableEq, Repr

/-- `hasManager` says whether `manager_` is set. -/
structure SimulatorAudioSession where
  direction : UInt32
  params : AudioStreamParams := {}
  streamName : Bytes := []
  streamId : UInt32 := 0
  dataChannelId : UInt16 := 0
  frameBytes : Nat := 0
  framesWritten : Nat := 0
  framesRead : Nat := 0
  isOpen : Bool := false
  prepared : Bool := false
  running : Bool := false
  controlChannelAcquired : Bool := false
  hasManager : Bool := false
  deriving DecidableEq, Repr

/-- The message in an error response. -/
def responseText (payload : Bytes) : String :=
  String.ofList (payload.map fun byte => Char.ofNat byte.toNat)

def transportPayloadStatus (response : TransportFrame) (fallback : String) : Result Unit :=
  if response.flags &&& kTransportFrameError = 0 then .ok ()
  else if response.payload = [] then .error (.unavailable fallback)
  else .error (.unavailable (responseText response.payload))

theorem transportPayloadStatus_isOk {response : TransportFrame} {fallback : String} :
    (transportPayloadStatus response fallback).isOk = true ↔
      response.flags &&& kTransportFrameError = 0 := by
  unfold transportPayloadStatus
  split
  · next hok => exact iff_of_true rfl hok
  · next herror => split <;> exact iff_of_false nofun herror

def validateStreamParams (params : AudioStreamParams) : Result Unit :=
  if params.sampleRate = 0 then .error (.invalidArgument "audio sample rate is zero")
  else if params.channels = 0 then .error (.invalidArgument "audio channel count is zero")
  else if params.bytesPerSample ≠ 2 ∧ params.bytesPerSample ≠ 4 then
    .error (.invalidArgument "simulator audio supports 16-bit and 32-bit PCM streams")
  else .ok ()

/-- The bytes of one frame of a format. -/
def AudioStreamParams.frameBytes (params : AudioStreamParams) : Nat :=
  params.channels.toNat * params.bytesPerSample.toNat

/-- An exchange whose response is to be no error: `sendSync` and
`transportPayloadStatus`. -/
def exchange (channelId commandId : UInt16) (payload : Bytes) (timeoutMs : UInt32)
    (fallback : String) : HostProc (Result TransportFrame) := do
  let response : Result TransportFrame ← host (.sendSync channelId commandId payload timeoutMs)
  match response with
  | .error status => pure (.error status)
  | .ok response =>
      match transportPayloadStatus response fallback with
      | .error status => pure (.error status)
      | .ok () => pure (.ok response)

def control (commandId : UInt16) (payload : Bytes) (fallback : String) :
    HostProc (Result TransportFrame) :=
  exchange acTransportChannelAudioControl commandId payload kAudioControlTimeoutMs fallback

/-- The payload of a CONFIG request. -/
def configPayload (streamId : UInt32) (params : AudioStreamParams) : Bytes :=
  le32 streamId ++ le32 params.sampleRate ++ le16 params.channels ++ le16 params.bytesPerSample

namespace SimulatorAudioSession

def prepare (session : SimulatorAudioSession) (params : AudioStreamParams) :
    HostProc (Result Unit × SimulatorAudioSession) := do
  if !session.isOpen ∨ !session.hasManager then
    pure (.error (.unavailable "simulator audio device is not open"), session)
  else match validateStreamParams params with
    | .error status => pure (.error status, session)
    | .ok () => do
        let session := { session with params := params, frameBytes := params.frameBytes }
        let response ← control acTransportAudioConfig (configPayload session.streamId params)
          "audio config failed"
        match response with
        | .error status => pure (.error status, session)
        | .ok _ => pure (.ok (), { session with prepared := true })

def start (session : SimulatorAudioSession) : HostProc (Result Unit × SimulatorAudioSession) := do
  if !session.prepared ∨ !session.hasManager then
    pure (.error (.unavailable "simulator audio device is not prepared"), session)
  else if session.running then pure (.ok (), session)
  else do
    let response ← control acTransportAudioStart (le32 session.streamId) "audio start failed"
    match response with
    | .error status => pure (.error status, session)
    | .ok response =>
        if response.payload.length < 6 then
          pure (.error (.unavailable "audio start response is too small"), session)
        else do
          let session := { session with dataChannelId := word16 response.payload 4 }
          let status : Result Unit ← host (.openChannel session.dataChannelId "audio-data")
          match status with
          | .error status => do
              let _ : Result TransportFrame ← host (.sendSync acTransportChannelAudioControl
                acTransportAudioStop (le32 session.streamId) kAudioControlTimeoutMs)
              pure (.error status, { session with dataChannelId := 0 })
          | .ok () => pure (.ok (), { session with running := true })

/-- The loop of `writeFrame` over what is left of the frame. -/
def writeChunks (session : SimulatorAudioSession) (maxPayload : Nat) (hmax : 0 < maxPayload)
    (timeoutMs : UInt32) (frame : Bytes) : HostProc (Result Unit) :=
  if _hframe : frame = [] then pure (.ok ())
  else do
    let response ← exchange session.dataChannelId acTransportAudioWrite (frame.take maxPayload)
      (if timeoutMs = 0 then kAudioDataTimeoutMs else timeoutMs) "audio write failed"
    match response with
    | .error status => pure (.error status)
    | .ok _ => session.writeChunks maxPayload hmax timeoutMs (frame.drop maxPayload)
termination_by frame.length
decreasing_by
  have hpos : 0 < frame.length := List.length_pos_iff.mpr _hframe
  rw [List.length_drop]
  omega

def writeFrame (session : SimulatorAudioSession) (frame : Bytes) (timeoutMs : UInt32) :
    HostProc (Result Unit × SimulatorAudioSession) := do
  if !session.running ∨ !session.hasManager then
    pure (.error (.unavailable "simulator playback stream is not running"), session)
  else if session.direction ≠ acTransportAudioDirectionPlayback then
    pure (.error (.invalidArgument "simulator stream is not playback"), session)
  else if frame = [] then pure (.error (.invalidArgument "audio frame is empty"), session)
  else if session.frameBytes = 0 ∨ frame.length % session.frameBytes ≠ 0 then
    pure (.error (.invalidArgument "audio frame size is not aligned to sample frame"), session)
  else
    let maxPayload := acTransportMaxPayload / session.frameBytes * session.frameBytes
    if hmax : maxPayload = 0 then
      pure (.error (.invalidArgument "audio frame is larger than transport payload"), session)
    else do
      let status ← session.writeChunks maxPayload (Nat.pos_of_ne_zero hmax) timeoutMs frame
      match status with
      | .error status => pure (.error status, session)
      | .ok () => pure (.ok (), { session with
          framesWritten := session.framesWritten + frame.length / session.frameBytes })

def stop (session : SimulatorAudioSession) : HostProc (Result Unit × SimulatorAudioSession) := do
  let stopped := { session with running := false, dataChannelId := 0 }
  if !session.isOpen ∨ !session.hasManager then pure (.ok (), session)
  else if !session.running then pure (.ok (), stopped)
  else do
    let response ← control acTransportAudioStop (le32 session.streamId) "audio stop failed"
    match response with
    | .error status => pure (.error status, session)
    | .ok _ =>
        if session.dataChannelId ≠ 0 then do
          host (.closeChannel session.dataChannelId)
          pure (.ok (), stopped)
        else pure (.ok (), stopped)

/-- Give the control channel back, the last thing that `close` does with its manager. -/
def release (session : SimulatorAudioSession) : HostProc SimulatorAudioSession := do
  if session.controlChannelAcquired then do
    host .releaseAudioControlChannel
    pure { session with controlChannelAcquired := false, hasManager := false }
  else pure { session with hasManager := false }

/-- `close` stops a stream that runs, whatever comes of that. -/
def stopIfRunning (session : SimulatorAudioSession) : HostProc SimulatorAudioSession := do
  if session.running then do
    let (_, session) ← session.stop
    pure session
  else pure session

def closeDataChannel (session : SimulatorAudioSession) : HostProc SimulatorAudioSession := do
  if session.dataChannelId ≠ 0 then do
    host (.closeChannel session.dataChannelId)
    pure { session with dataChannelId := 0 }
  else pure session

/-- What `close` does while there is a manager. -/
def disconnect (session : SimulatorAudioSession) : HostProc SimulatorAudioSession := do
  let session ← session.stopIfRunning
  let session ← session.closeDataChannel
  if session.streamId ≠ 0 then do
    let _ : Result TransportFrame ← host (.sendSync acTransportChannelAudioControl
      acTransportAudioClose (le32 session.streamId) kAudioControlTimeoutMs)
    session.release
  else session.release

/-- The fields that `close` clears at its end. -/
def cleared (session : SimulatorAudioSession) : SimulatorAudioSession :=
  { session with
    isOpen := false, prepared := false, running := false
    streamId := 0, dataChannelId := 0, frameBytes := 0 }

def close (session : SimulatorAudioSession) : HostProc SimulatorAudioSession := do
  if session.hasManager then do
    let session ← session.disconnect
    pure session.cleared
  else pure session.cleared

/-- What `open` does when its exchange failed. -/
def giveUp (session : SimulatorAudioSession) (status : Status) :
    HostProc (Result Unit × SimulatorAudioSession) := do
  host .releaseAudioControlChannel
  pure (.error status, { session with controlChannelAcquired := false, hasManager := false })

/-- `SimulatorAudioSession::open`. -/
def openDevice (session : SimulatorAudioSession) (deviceName : Bytes) :
    HostProc (Result Unit × SimulatorAudioSession) := do
  if deviceName = [] then
    pure (.error (.invalidArgument "simulator audio stream name is empty"), session)
  else do
    let session ← session.close
    let session := { session with streamName := deviceName, hasManager := true }
    let configured : Bool ← host .isDataLinkConfigured
    if !configured then
      pure (.error (.unavailable "simulator transport data-link is not configured"),
        { session with hasManager := false })
    else do
      let status : Result Unit ← host .acquireAudioControlChannel
      match status with
      | .error status => pure (.error status, { session with hasManager := false })
      | .ok () => do
          let session := { session with controlChannelAcquired := true }
          let response ← control acTransportAudioOpen
            (le32 session.direction ++ session.streamName ++ [0]) "audio open failed"
          match response with
          | .error status => session.giveUp status
          | .ok response =>
              if response.payload.length < 4 then
                session.giveUp (.unavailable "audio open response is too small")
              else pure (.ok (), { session with
                streamId := word32 response.payload 0, isOpen := true })

end SimulatorAudioSession

/-! ## Calls -/

/-- The calls of a session that has been opened. -/
inductive SessionCall where
  | prepare (params : AudioStreamParams)
  | start
  | stop
  | close
  deriving DecidableEq, Repr

/-- The session after a call, whatever its result. -/
def SessionCall.run (session : SimulatorAudioSession) : SessionCall → HostProc SimulatorAudioSession
  | .prepare params => do
      let (_, session) ← session.prepare params
      pure session
  | .start => do
      let (_, session) ← session.start
      pure session
  | .stop => do
      let (_, session) ← session.stop
      pure session
  | .close => session.close

end AudioStudio.Simulator
