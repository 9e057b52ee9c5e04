import AudioStudio.Audio.Session

/-!
# The ALSA devices

`AlsaAudioPlaybackDevice::writeFrame` and `AlsaAudioCaptureDevice::readFrame` of
`alsa_audio_device.cpp` over an ALSA that may answer anything.
-/

namespace AudioStudio.Audio

open AudioStudio.Common
open LittleEndian

/-! ## Calls of ALSA -/

/-- `writei` is handed what lies behind its pointer, `readi` a buffer of `room` bytes. -/
inductive PcmCmd where
  | wait (timeout : Int32)
  | writei (data : Bytes) (frames : Nat)
  | availUpdate
  | readi (room frames : Nat)
  | recover (error : Int32)

/-- `readi` also delivers what it has read. -/
abbrev PcmReply : PcmCmd → Type
  | .wait _ => Int32
  | .writei _ _ => Int64
  | .availUpdate => Int64
  | .readi _ _ => Int64 × Bytes
  | .recover _ => Int32

abbrev PcmProc (α : Type) := Proc PcmReply α

abbrev PcmExchange := Exchange PcmReply

def callPcm (cmd : PcmCmd) : PcmProc (PcmReply cmd) := Proc.request cmd

section Calls

variable {α : Type} {cmd : PcmCmd} {rest : PcmReply cmd → PcmProc α}
  {exchanges : List PcmExchange}

theorem returns_callPcm {result : α} :
    (callPcm cmd >>= rest).Returns exchanges result ↔
      ∃ reply later, exchanges = ⟨cmd, reply⟩ :: later ∧ (rest reply).Returns later result :=
  Iff.rfl

end Calls

/-- The texts of `snd_strerror`. -/
abbrev ErrorTexts := Int32 → String

def alsaError (strerror : ErrorTexts) (operation : String) (error : Int32) : Status :=
  .unavailable (operation ++ " failed: " ++ strerror error)

/-- `recover` of the two devices, which differ in the name of the operation. -/
def recoverPcm (strerror : ErrorTexts) (operation : String) (error : Int32) :
    PcmProc (Result Unit) := do
  let rc : Int32 ← callPcm (.recover error)
  if rc < 0 then pure (.error (alsaError strerror operation rc)) else pure (.ok ())

/-! ## Playback -/

structure AlsaAudioPlaybackDevice where
  running : Bool
  frameBytes : Nat
  framesWritten : UInt64
  deriving DecidableEq, Repr

namespace AlsaAudioPlaybackDevice

variable (strerror : ErrorTexts)

def recover (error : Int32) : PcmProc (Result Unit) :=
  recoverPcm strerror "snd_pcm_recover playback" error

/-- The loop over the frames that are not yet written, for so many rounds. -/
def writeLoop (frame : Bytes) (frameBytes totalFrames : Nat) :
    (rounds : Nat) → (written : Nat) → PcmProc (Result Unit)
  | 0, _ => .spent
  | rounds + 1, written =>
      if written < totalFrames then do
        let frames : Int64 ←
          callPcm (.writei (frame.drop (written * frameBytes)) (totalFrames - written))
        -- The count is a `long`, and it is kept in an `int`.
        let rc := frames.toInt32
        if rc < 0 then do
          let status ← recover strerror rc
          match status with
          | .error status => pure (.error status)
          | .ok () => writeLoop frame frameBytes totalFrames rounds written
        else writeLoop frame frameBytes totalFrames rounds (written + rc.toNatClampNeg)
      else pure (.ok ())

def writeFrame (rounds : Nat) (frame : Bytes) (timeoutMs : UInt32)
    (device : AlsaAudioPlaybackDevice) : PcmProc (Result Unit × AlsaAudioPlaybackDevice) :=
  if !device.running then
    pure (.error (.unavailable "audio playback device is not running"), device)
  else if frame = [] then pure (.error (.invalidArgument "audio frame is empty"), device)
  else if device.frameBytes = 0 ∨ frame.length % device.frameBytes ≠ 0 then
    pure (.error (.invalidArgument "audio frame size is not aligned to sample frame"), device)
  else do
    let rc : Int32 ← callPcm (.wait timeoutMs.toInt32)
    if rc = 0 then pure (.error (.unavailable "audio playback wait timed out"), device)
    else if rc < 0 then do
      let status ← recover strerror rc
      pure (status, device)
    else do
      let totalFrames := frame.length / device.frameBytes
      let status ← writeLoop strerror frame device.frameBytes totalFrames rounds 0
      match status with
      | .error status => pure (.error status, device)
      | .ok () =>
          pure (.ok (),
            { device with framesWritten := device.framesWritten + totalFrames.toUInt64 })

end AlsaAudioPlaybackDevice

/-! ## Capture -/

structure AlsaAudioCaptureDevice where
  running : Bool
  frameBytes : Nat
  framesRead : UInt64
  deriving DecidableEq, Repr

/-- `resize` of a vector of bytes. -/
def resize (bytes : Bytes) (size : Nat) : Bytes :=
  bytes.take size ++ List.replicate (size - bytes.length) 0

namespace AlsaAudioCaptureDevice

variable (strerror : ErrorTexts)

def recover (error : Int32) : PcmProc (Result Unit) :=
  recoverPcm strerror "snd_pcm_recover capture" error

/-- `snd_pcm_readi` into a buffer: what it delivers is written over the front. -/
def readInto (buffer : Bytes) (frames : Nat) : PcmProc (Int32 × Bytes) := do
  let reply : Int64 × Bytes ← callPcm (.readi buffer.length frames)
  if buffer.length < reply.2.length then .fault
  else pure (reply.1.toInt32, reply.2 ++ buffer.drop reply.2.length)

/-- The number of frames that can be read, asked for again after an error. -/
def availableFrames : PcmProc (Result Int64) := do
  let available : Int64 ← callPcm .availUpdate
  if available < 0 then do
    let status ← recover strerror available.toInt32
    match status with
    | .error status => pure (.error status)
    | .ok () => do
        let available : Int64 ← callPcm .availUpdate
        pure (.ok available)
  else pure (.ok available)

/-- The frames that a call asks for by the size of its buffer. -/
def requestedFrames (frame : Bytes) (frameBytes : Nat) : Nat :=
  let requested := if frameBytes ≤ frame.length then frame.length / frameBytes else 256
  if requested = 0 then 1 else requested

/-- The end of a read whose last `snd_pcm_readi` was not an error. -/
def finishRead (rc : Int32) (buffer : Bytes) (device : AlsaAudioCaptureDevice) :
    Result Bytes × AlsaAudioCaptureDevice :=
  if rc = 0 then (.error (.unavailable "audio capture read returned no frames"), device)
  else (.ok (resize buffer (rc.toNatClampNeg * device.frameBytes)),
    { device with framesRead := device.framesRead + rc.toNatClampNeg.toUInt64 })

/-- The frames of the first attempt: `std::min` of what is requested and what is there. -/
def framesToRead (requested : Nat) (available : Int64) : Nat :=
  if 0 < available then min requested available.toNatClampNeg else requested

/-- The read itself: a buffer for the frames that are there, and a second attempt, for all that
was requested, after an error. -/
def readAvailable (requested : Nat) (available : Int64) (device : AlsaAudioCaptureDevice) :
    PcmProc (Result Bytes × AlsaAudioCaptureDevice) := do
  let frames := framesToRead requested available
  let (rc, buffer) ← readInto (List.replicate (frames * device.frameBytes) 0) frames
  if rc < 0 then do
    let status ← recover strerror rc
    match status with
    | .error status => pure (.error status, device)
    | .ok () => do
        let (rc, buffer) ← readInto buffer requested
        if rc < 0 then pure (.error (alsaError strerror "snd_pcm_readi" rc), device)
        else pure (device.finishRead rc buffer)
  else pure (device.finishRead rc buffer)

/-- The result is the content of `frame` when the call succeeds. -/
def readFrame (frame : Bytes) (timeoutMs : UInt32) (device : AlsaAudioCaptureDevice) :
    PcmProc (Result Bytes × AlsaAudioCaptureDevice) :=
  if !device.running then
    pure (.error (.unavailable "audio capture device is not running"), device)
  else if device.frameBytes = 0 then
    pure (.error (.unavailable "audio capture device is not configured"), device)
  else do
    let rc : Int32 ← callPcm (.wait timeoutMs.toInt32)
    if rc = 0 then pure (.error (.unavailable "audio capture wait timed out"), device)
    else if rc < 0 then do
      let status ← recover strerror rc
      pure (status.map fun _ => frame, device)
    else do
      let available ← availableFrames strerror
      match available with
      | .error status => pure (.error status, device)
      | .ok available =>
          if available = 0 then
            pure (.error
              (.unavailable "audio capture has no frames available after wait"), device)
          else
            device.readAvailable strerror (requestedFrames frame device.frameBytes) available

end AlsaAudioCaptureDevice

end AudioStudio.Audio
