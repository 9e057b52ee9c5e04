import AudioStudio.Audio.Session

/-!
# The WASAPI capture device

`WasapiAudioCaptureDevice::readFrame` of `wasapi_audio_device.cpp` over a capture client that may
answer anything.
-/

namespace AudioStudio.Audio

open AudioStudio.Common
open LittleEndian

/-! ## Calls of the client -/

/-- A packet as `GetBuffer` delivers it: its frames, whether they are flagged as silent, and what
lies behind its pointer, unless that is null. -/
structure CapturePacket where
  frames : UInt32
  silent : Bool
  data : Option (Nat → UInt8)

/-- The first bytes of a packet. -/
def CapturePacket.bytes (packet : CapturePacket) (size : Nat) : Bytes :=
  match packet.silent, packet.data with
  | false, some data => (List.range size).map data
  | _, _ => List.replicate size 0

/-- `startClient` stands for the calls that set up a client and start it. -/
inductive WasapiCmd where
  | startClient
  | getTickCount
  | sleep (milliseconds : UInt32)
  | getNextPacketSize
  | getBuffer
  | releaseBuffer (frames : UInt32)

/-- An `HRESULT` is a signed word, negative when the call failed. -/
abbrev WasapiReply : WasapiCmd → Type
  | .startClient => Result Unit
  | .getTickCount => UInt32
  | .sleep _ => Unit
  | .getNextPacketSize => Int32 × UInt32
  | .getBuffer => Int32 × CapturePacket
  | .releaseBuffer _ => Int32

abbrev WasapiProc (α : Type) := Proc WasapiReply α

abbrev WasapiExchange := Exchange WasapiReply

def callWasapi (cmd : WasapiCmd) : WasapiProc (WasapiReply cmd) := Proc.request cmd

def hresultError (operation : String) (hr : Int32) : Status :=
  .unavailable (operation ++ " failed: HRESULT 0x" ++
    String.ofList (Nat.toDigits 16 hr.toUInt32.toNat))

/-- A call without a limit does not ask for the time. -/
def timedOut (startedMs timeoutMs : UInt32) : WasapiProc Bool :=
  if timeoutMs = 0xFFFFFFFF then pure false
  else do
    let now : UInt32 ← callWasapi .getTickCount
    pure (timeoutMs ≤ now - startedMs)

/-! ## The device -/

/-- A device that runs has been prepared with a format. -/
structure WasapiAudioCaptureDevice where
  running : Bool
  clientStarted : Bool
  frameBytes : Nat
  frameBytes_pos : running = true → 0 < frameBytes

namespace WasapiAudioCaptureDevice

def ensureStarted (device : WasapiAudioCaptureDevice) :
    WasapiProc (Result Unit × WasapiAudioCaptureDevice) :=
  if device.clientStarted then pure (.ok (), device)
  else do
    let status : Result Unit ← callWasapi .startClient
    match status with
    | .error status => pure (.error status, { device with clientStarted := false })
    | .ok () => pure (.ok (), { device with clientStarted := true })

/-- The bytes that a call asks for by the size of its frame. -/
def requestedBytes (frameSize frameBytes : Nat) : Nat :=
  let size := if frameSize = 0 then frameBytes * 256 else frameSize
  max frameBytes (size / frameBytes * frameBytes)

/-- The frames of a packet that a call still takes; the count is kept in a `UINT32`. -/
def framesToCopy (packet : CapturePacket) (requestedFrames : UInt32) (frame : Bytes)
    (frameBytes : Nat) : UInt32 :=
  min packet.frames (requestedFrames - (frame.length / frameBytes).toUInt32)

/-- The loop over the packets, for so many rounds. -/
def readLoop (frameBytes requestedBytes : Nat) (startedMs timeoutMs : UInt32) :
    (rounds : Nat) → (frame : Bytes) → WasapiProc (Result Bytes)
  | 0, _ => .spent
  | rounds + 1, frame =>
      if frame.length < requestedBytes then do
        let size : Int32 × UInt32 ← callWasapi .getNextPacketSize
        if size.1 < 0 then
          pure (.error (hresultError "IAudioCaptureClient::GetNextPacketSize" size.1))
        else if size.2 = 0 then do
          let expired ← timedOut startedMs timeoutMs
          if expired then pure (.error (.unavailable "WASAPI capture wait timed out"))
          else do
            let _ : Unit ← callWasapi (.sleep 5)
            readLoop frameBytes requestedBytes startedMs timeoutMs rounds frame
        else do
          let got : Int32 × CapturePacket ← callWasapi .getBuffer
          if got.1 < 0 then
            pure (.error (hresultError "IAudioCaptureClient::GetBuffer" got.1))
          else do
            let requestedFrames := (requestedBytes / frameBytes).toUInt32
            let count := framesToCopy got.2 requestedFrames frame frameBytes
            let frame := frame ++ got.2.bytes (count.toNat * frameBytes)
            -- The whole packet is released, whatever was copied of it.
            let hr : Int32 ← callWasapi (.releaseBuffer got.2.frames)
            if hr < 0 then
              pure (.error (hresultError "IAudioCaptureClient::ReleaseBuffer" hr))
            else if count = 0 then pure (.ok frame)
            else readLoop frameBytes requestedBytes startedMs timeoutMs rounds frame
      else pure (.ok frame)

/-- The result is the content of `frame` when the call succeeds. -/
def readFrame (rounds frameSize : Nat) (timeoutMs : UInt32) (device : WasapiAudioCaptureDevice) :
    WasapiProc (Result Bytes × WasapiAudioCaptureDevice) :=
  if !device.running then
    pure (.error (.unavailable "WASAPI capture device is not running"), device)
  else do
    let (status, device) ← device.ensureStarted
    match status with
    | .error status => pure (.error status, device)
    | .ok () => do
        let startedMs : UInt32 ← callWasapi .getTickCount
        let result ← readLoop device.frameBytes (requestedBytes frameSize device.frameBytes)
          startedMs timeoutMs rounds []
        pure (result, device)

end WasapiAudioCaptureDevice

end AudioStudio.Audio
