import AudioStudio.Core.Exchanges
import AudioStudio.Rpc.ServerMethods

/-!
# Audio sessions

`AudioPlaybackSession` and `AudioCaptureSession` of `audio_service.cpp` over a device that may
answer anything.  The mutex of a session makes every call one step.
-/

namespace AudioStudio.Audio

open AudioStudio.Common
open AudioStudio.Simulator (AudioStreamParams)
open LittleEndian

/-! ## Devices -/

/-- The calls of `IAudioPlaybackDevice` and of `IAudioCaptureDevice`. -/
inductive DeviceCmd where
  | prepare (params : AudioStreamParams)
  | start
  | writeFrame (frame : Bytes) (timeoutMs : UInt32)
  | readFrame (size : Nat) (timeoutMs : UInt32)
  | drain
  | stop
  | close

/-- `readFrame` leaves its data in the frame that it is handed. -/
abbrev DeviceReply : DeviceCmd → Type
  | .prepare _ => Result Unit
  | .start => Result Unit
  | .writeFrame _ _ => Result Unit
  | .readFrame _ _ => Result Bytes
  | .drain => Result Unit
  | .stop => Result Unit
  | .close => Unit

abbrev DeviceProc (α : Type) := Proc DeviceReply α

def callDevice (cmd : DeviceCmd) : DeviceProc (DeviceReply cmd) := Proc.request cmd

/-- A call of the device as its exchange with the session. -/
abbrev DeviceExchange := Exchange DeviceReply

/-! ## Sessions -/

/-- A stream of the audio service with the state of its session. -/
structure AudioStream extends Rpc.AudioStream where
  prepared : Bool := false
  running : Bool := false

/-- What the two session classes have in common; `device_` may be null. -/
structure Session where
  stream : AudioStream
  hasDevice : Bool
  closed : Bool := false

/-- The characters of an id in a message. -/
def idText (id : Bytes) : String :=
  String.ofList (id.map fun byte => Char.ofNat byte.toNat)

namespace Session

variable (noun : String) (session : Session)

def closedStatus : Status :=
  .unavailable ("audio " ++ noun ++ " session is closed: " ++ idText session.stream.id)

def idleStatus : Status :=
  .unavailable ("audio " ++ noun ++ " stream is not running: " ++ idText session.stream.id)

def setPrepared (prepared : Bool) : Session :=
  { session with stream := { session.stream with prepared := prepared } }

def setRunning (running : Bool) : Session :=
  { session with stream := { session.stream with running := running } }

/-- A call of the device, which succeeds when there is none. -/
def onDevice (call : DeviceProc (Result Unit)) : DeviceProc (Result Unit) :=
  if session.hasDevice then call else pure (.ok ())

def prepare : DeviceProc (Result Unit × Session) :=
  if session.closed then pure (.error (session.closedStatus noun), session)
  else if session.stream.prepared then pure (.ok (), session)
  else do
    let status ← session.onDevice (callDevice (.prepare session.stream.streamParams))
    match status with
    | .error status => pure (.error status, session)
    | .ok () => pure (.ok (), session.setPrepared true)

def start : DeviceProc (Result Unit × Session) :=
  if session.closed then pure (.error (session.closedStatus noun), session)
  else do
    -- The implicit prepare stays when the device does not start.
    let (prepared, session) ← session.prepare noun
    match prepared with
    | .error status => pure (.error status, session)
    | .ok () => do
        let status ← session.onDevice (callDevice .start)
        match status with
        | .error status => pure (.error status, session)
        | .ok () => pure (.ok (), session.setRunning true)

def stop : DeviceProc (Result Unit × Session) :=
  if session.closed then pure (.ok (), session)
  else do
    let status ← session.onDevice (callDevice .stop)
    match status with
    | .error status => pure (.error status, session)
    | .ok () => pure (.ok (), session.setRunning false)

def setClosed : Session :=
  { (session.setRunning false).setPrepared false with closed := true }

def close : DeviceProc (Result Unit × Session) :=
  if session.closed then pure (.ok (), session)
  else do
    let _ ← session.onDevice (callDevice .close >>= fun _ => pure (.ok ()))
    pure (.ok (), session.setClosed)

end Session

/-! ### Playback -/

namespace AudioPlaybackSession

def prepare (session : Session) : DeviceProc (Result Unit × Session) := session.prepare "playback"
def start (session : Session) : DeviceProc (Result Unit × Session) := session.start "playback"
def stop (session : Session) : DeviceProc (Result Unit × Session) := session.stop
def close (session : Session) : DeviceProc (Result Unit × Session) := session.close

/-- The result is `accepted_bytes`, which is zero when the call fails. -/
def writeFrames (data : Bytes) (timeoutMs : UInt32) (session : Session) :
    DeviceProc (Result Nat × Session) :=
  if session.closed then pure (.error (session.closedStatus "playback"), session)
  else if !session.stream.running then pure (.error (session.idleStatus "playback"), session)
  else if data = [] then pure (.ok 0, session)
  else do
    let status ← session.onDevice (callDevice (.writeFrame data timeoutMs))
    pure (status.map fun _ => data.length, session)

def drain (session : Session) : DeviceProc (Result Unit × Session) :=
  if session.closed then pure (.error (session.closedStatus "playback"), session)
  else do
    let status ← session.onDevice (callDevice .drain)
    pure (status, session)

end AudioPlaybackSession

/-! ### Capture -/

namespace AudioCaptureSession

def prepare (session : Session) : DeviceProc (Result Unit × Session) := session.prepare "capture"
def start (session : Session) : DeviceProc (Result Unit × Session) := session.start "capture"
def stop (session : Session) : DeviceProc (Result Unit × Session) := session.stop
def close (session : Session) : DeviceProc (Result Unit × Session) := session.close

/-- `static_cast<size_t>` of an `int`. -/
def sizeOfInt (value : Int32) : UInt64 := value.toInt64.toUInt64

def frameBytes (stream : AudioStream) : UInt64 :=
  sizeOfInt stream.channels * sizeOfInt stream.bytesPerSample

/-- Whole frames up to the limit, but at least one of them: `std::max`. -/
def alignedMax (maxBytes frameBytes : UInt64) : UInt64 :=
  if frameBytes < maxBytes / frameBytes * frameBytes then maxBytes / frameBytes * frameBytes
  else frameBytes

/-- A frame that is longer than the limit loses what is behind the last whole frame below it. -/
def cutFrame (maxBytes frameBytes : UInt64) (frame : Bytes) : Bytes :=
  if maxBytes.toNat < frame.length then frame.take (maxBytes / frameBytes * frameBytes).toNat
  else frame

def readFrames (maxBytes : UInt64) (timeoutMs : UInt32) (session : Session) :
    DeviceProc (Result Bytes × Session) :=
  if session.closed then pure (.error (session.closedStatus "capture"), session)
  else if !session.stream.running then pure (.error (session.idleStatus "capture"), session)
  else if maxBytes = 0 then
    pure (.error (.invalidArgument "audio read max_bytes is zero"), session)
  else if !session.hasDevice then pure (.ok (List.replicate maxBytes.toNat 0), session)
  else if frameBytes session.stream = 0 then
    pure (.error (.invalidArgument "audio capture frame size is zero"), session)
  else do
    let frameBytes := frameBytes session.stream
    let frame : Result Bytes ←
      callDevice (.readFrame (alignedMax maxBytes frameBytes).toNat timeoutMs)
    pure (frame.map (cutFrame maxBytes frameBytes), session)

end AudioCaptureSession

/-! ## Calls -/

/-- What a call returns beside its status. -/
inductive SessionOutput where
  | nothing
  | accepted (bytes : Nat)
  | data (bytes : Bytes)
  deriving DecidableEq, Repr

def withOutput {α : Type} (output : α → SessionOutput)
    (program : DeviceProc (Result α × Session)) : DeviceProc (Result SessionOutput × Session) := do
  let (result, session) ← program
  pure (result.map output, session)

inductive PlaybackCall where
  | prepare
  | start
  | writeFrames (data : Bytes) (timeoutMs : UInt32)
  | drain
  | stop
  | close
  deriving DecidableEq, Repr

inductive CaptureCall where
  | prepare
  | start
  | readFrames (maxBytes : UInt64) (timeoutMs : UInt32)
  | stop
  | close
  deriving DecidableEq, Repr

def AudioPlaybackSession.perform (session : Session) :
    PlaybackCall → DeviceProc (Result SessionOutput × Session)
  | .prepare => withOutput (fun _ => .nothing) (prepare session)
  | .start => withOutput (fun _ => .nothing) (start session)
  | .writeFrames data timeoutMs => withOutput .accepted (writeFrames data timeoutMs session)
  | .drain => withOutput (fun _ => .nothing) (drain session)
  | .stop => withOutput (fun _ => .nothing) (stop session)
  | .close => withOutput (fun _ => .nothing) (close session)

def AudioCaptureSession.perform (session : Session) :
    CaptureCall → DeviceProc (Result SessionOutput × Session)
  | .prepare => withOutput (fun _ => .nothing) (prepare session)
  | .start => withOutput (fun _ => .nothing) (start session)
  | .readFrames maxBytes timeoutMs => withOutput .data (readFrames maxBytes timeoutMs session)
  | .stop => withOutput (fun _ => .nothing) (stop session)
  | .close => withOutput (fun _ => .nothing) (close session)

/-- Calls one after another: their results and the session behind them. -/
def conduct {κ : Type}
    (perform : Session → κ → DeviceProc (Result SessionOutput × Session)) :
    List κ → Session → DeviceProc (List (Result SessionOutput) × Session)
  | [], session => pure ([], session)
  | call :: calls, session => do
      let (result, session) ← perform session call
      let (results, session) ← conduct perform calls session
      pure (result :: results, session)

end AudioStudio.Audio
