import AudioStudio.Audio.Discipline

/-!
# Reads of a capture session

What `readFrames` returns of the frames that the device delivered: all of them, unless a call
asks for less than one frame.
-/

namespace AudioStudio.Audio

open AudioStudio.Common
open LittleEndian
open AudioCaptureSession (frameBytes alignedMax cutFrame)

/-! ## Data and frames -/

/-- The data that an exchange delivered. -/
def frameRead : DeviceExchange → Bytes
  | ⟨.readFrame _ _, .ok frame⟩ => frame
  | _ => []

def framesRead (exchanges : List DeviceExchange) : Bytes := exchanges.flatMap frameRead

def dataOf : Result SessionOutput → Bytes
  | .ok (.data bytes) => bytes
  | _ => []

def returnedData (results : List (Result SessionOutput)) : Bytes := results.flatMap dataOf

/-- The device delivers whole frames, and no more than it was asked for. -/
def WholeFrames (frameBytes : UInt64) (exchanges : List DeviceExchange) : Prop :=
  ∀ size timeoutMs frame, (⟨.readFrame size timeoutMs, .ok frame⟩ : DeviceExchange) ∈ exchanges →
    frameBytes.toNat ∣ frame.length ∧ frame.length ≤ size

/-- A read that succeeds returns what the device delivered, and no more than its limit. -/
def KeepsFrames (session : Session) (maxBytes : UInt64) : Prop :=
  ∀ {timeoutMs exchanges data session'},
    (AudioCaptureSession.readFrames maxBytes timeoutMs session).Returns exchanges
      (.ok data, session') → WholeFrames (frameBytes session.stream) exchanges →
        data = framesRead exchanges ∧ data.length ≤ maxBytes.toNat

theorem framesRead_append (earlier later : List DeviceExchange) :
    framesRead (earlier ++ later) = framesRead earlier ++ framesRead later :=
  List.flatMap_append

theorem WholeFrames.of_append {size : UInt64} {earlier later : List DeviceExchange}
    (hwhole : WholeFrames size (earlier ++ later)) :
    WholeFrames size earlier ∧ WholeFrames size later :=
  ⟨fun _ _ _ hmem => hwhole _ _ _ (List.mem_append_left later hmem),
    fun _ _ _ hmem => hwhole _ _ _ (List.mem_append_right earlier hmem)⟩

/-! ## One read -/

section Read

variable {session session' : Session} {maxBytes size : UInt64} {exchanges : List DeviceExchange}

theorem div_mul_toNat (maxBytes size : UInt64) :
    (maxBytes / size * size).toNat = maxBytes.toNat / size.toNat * size.toNat := by
  rw [UInt64.toNat_mul, UInt64.toNat_div]
  have hle := Nat.div_mul_le_self maxBytes.toNat size.toNat
  have hlt := maxBytes.toNat_lt
  exact Nat.mod_eq_of_lt (by omega)

/-- A limit of a frame or more is only rounded down. -/
theorem alignedMax_le (hsize : size ≤ maxBytes) : alignedMax maxBytes size ≤ maxBytes := by
  have hrounded : maxBytes / size * size ≤ maxBytes := by
    rw [UInt64.le_iff_toNat_le, div_mul_toNat]
    exact Nat.div_mul_le_self _ _
  unfold alignedMax
  split
  · exact hrounded
  · exact hsize

/-- A limit below a frame leaves no whole frame. -/
theorem div_mul_eq_zero (hless : maxBytes < size) : maxBytes / size * size = 0 := by
  rw [← UInt64.toNat_inj, div_mul_toNat]
  rw [Nat.div_eq_of_lt (UInt64.lt_iff_toNat_lt.mp hless), Nat.zero_mul]
  rfl

theorem keepsFrames_of_le (hdevice : session.hasDevice = true)
    (hsize : frameBytes session.stream ≤ maxBytes) : KeepsFrames session maxBytes := by
  intro timeoutMs exchanges data session' hreturns hwhole
  obtain ⟨-, ⟨-, hrefused⟩ | ⟨-, frame, rfl, hdata⟩⟩ := readFrames_returns hreturns
  · obtain ⟨status, hstatus⟩ := hrefused hdevice
    cases hstatus
  · cases frame with
    | error status => cases hdata
    | ok frame =>
        have hasked := (hwhole _ _ _ List.mem_cons_self).2
        have hlimit := UInt64.le_iff_toNat_le.mp (alignedMax_le hsize)
        have hfits : frame.length ≤ maxBytes.toNat := hasked.trans hlimit
        have hcut : data = frame := by
          rw [Except.ok.inj hdata, cutFrame, if_neg (Nat.not_lt.mpr hfits)]
        subst hcut
        exact ⟨(List.append_nil data).symm, hfits⟩

/-- A limit below a frame: the device delivers a frame, and the call returns nothing of it. -/
theorem readFrames_short (hopen : session.closed = false)
    (hrunning : session.stream.running = true) (hdevice : session.hasDevice = true)
    (hmax : maxBytes ≠ 0) (hless : maxBytes < frameBytes session.stream) (timeoutMs : UInt32)
    {frame : Bytes} (hframe : frame.length = (frameBytes session.stream).toNat) :
    (AudioCaptureSession.readFrames maxBytes timeoutMs session).Returns
      [⟨.readFrame (frameBytes session.stream).toNat timeoutMs, .ok frame⟩] (.ok [], session) := by
  have hnonzero : frameBytes session.stream ≠ 0 := by
    intro hzero
    rw [hzero] at hless
    exact absurd hless UInt64.not_lt_zero
  have haligned : alignedMax maxBytes (frameBytes session.stream) = frameBytes session.stream := by
    rw [alignedMax, div_mul_eq_zero hless, if_neg UInt64.not_lt_zero]
  have hcut : cutFrame maxBytes (frameBytes session.stream) frame = [] := by
    have hlonger : maxBytes.toNat < frame.length := by
      rw [hframe]
      exact UInt64.lt_iff_toNat_lt.mp hless
    rw [cutFrame, if_pos hlonger, div_mul_eq_zero hless]
    rfl
  unfold AudioCaptureSession.readFrames
  rw [if_neg (by simp [hopen]), if_neg (by simp [hrunning]), if_neg hmax, if_neg (by simp [hdevice]),
    if_neg hnonzero]
  dsimp only
  rw [haligned]
  refine ⟨.ok frame, [], rfl, rfl, ?_⟩
  rw [Except.map, hcut]

theorem keepsFrames_iff (hopen : session.closed = false) (hrunning : session.stream.running = true)
    (hdevice : session.hasDevice = true) (hmax : maxBytes ≠ 0) :
    KeepsFrames session maxBytes ↔ frameBytes session.stream ≤ maxBytes := by
  constructor
  · intro hkeeps
    by_contra hless
    rw [UInt64.not_le] at hless
    have hpos : 0 < (frameBytes session.stream).toNat :=
      Nat.zero_lt_of_lt (UInt64.lt_iff_toNat_lt.mp hless)
    have hframe : (List.replicate (frameBytes session.stream).toNat (0 : UInt8)).length =
        (frameBytes session.stream).toNat := List.length_replicate
    have hshort := readFrames_short hopen hrunning hdevice hmax hless 0 hframe
    obtain ⟨hlost, -⟩ := hkeeps hshort (by
      intro size timeoutMs frame hmem
      rw [List.mem_singleton] at hmem
      cases hmem
      rw [hframe]
      exact ⟨dvd_rfl, le_rfl⟩)
    have hlength := congrArg List.length hlost
    rw [framesRead, List.flatMap_singleton, frameRead, hframe] at hlength
    exact absurd hlength hpos.ne
  · exact keepsFrames_of_le hdevice

end Read

/-! ## Many reads -/

section Run

variable {session session' : Session} {noun : String} {exchanges : List DeviceExchange}

variable {result : Result Unit}

theorem framesRead_prepare (hreturns : (session.prepare noun).Returns exchanges (result, session'))
    :
    framesRead exchanges = [] ∧
      session'.stream.toAudioStream = session.stream.toAudioStream := by
  obtain ⟨rfl, rfl, -⟩ | ⟨-, hasked⟩ := prepare_returns hreturns
  · exact ⟨rfl, rfl⟩
  · cases hasked <;> exact ⟨rfl, rfl⟩

theorem framesRead_start (hreturns : (session.start noun).Returns exchanges (result, session')) :
    framesRead exchanges = [] ∧
      session'.stream.toAudioStream = session.stream.toAudioStream := by
  obtain ⟨rfl, rfl⟩ | ⟨_, hprepare⟩ | ⟨middle, earlier, later, rfl, hprepare, hasked⟩ :=
    start_returns hreturns
  · exact ⟨rfl, rfl⟩
  · exact framesRead_prepare hprepare
  · obtain ⟨hearlier, hformat⟩ := framesRead_prepare hprepare
    rw [framesRead_append, hearlier, ← hformat]
    cases hasked <;> exact ⟨rfl, rfl⟩

theorem framesRead_stop (hreturns : session.stop.Returns exchanges (result, session')) :
    framesRead exchanges = [] ∧
      session'.stream.toAudioStream = session.stream.toAudioStream := by
  obtain ⟨-, rfl, rfl⟩ | ⟨-, hasked⟩ := stop_returns hreturns
  · exact ⟨rfl, rfl⟩
  · cases hasked <;> exact ⟨rfl, rfl⟩

theorem framesRead_close (hreturns : session.close.Returns exchanges (result, session')) :
    framesRead exchanges = [] ∧
      session'.stream.toAudioStream = session.stream.toAudioStream := by
  unfold Session.close at hreturns
  split at hreturns
  · obtain ⟨rfl, heq⟩ := hreturns
    cases heq
    exact ⟨rfl, rfl⟩
  · obtain ⟨_, earlier, later, rfl, hcall, hrest⟩ := Proc.returns_bind.mp hreturns
    obtain ⟨rfl, heq⟩ := hrest
    cases heq
    obtain ⟨-, _, _, rfl, rfl, -⟩ | ⟨-, rfl, -⟩ := onDevice_returns hcall <;> exact ⟨rfl, rfl⟩

theorem dataOf_nothing (result : Result Unit) :
    dataOf (result.map fun _ => SessionOutput.nothing) = [] := by
  cases result <;> rfl

/-- Each call returns what was read in it, and leaves the format of the stream. -/
theorem capture_returns {call : CaptureCall} {result : Result SessionOutput}
    (hreturns : (AudioCaptureSession.perform session call).Returns exchanges (result, session'))
    (hdevice : session.hasDevice = true)
    (hlimit : ∀ maxBytes timeoutMs, call = .readFrames maxBytes timeoutMs →
      frameBytes session.stream ≤ maxBytes)
    (hwhole : WholeFrames (frameBytes session.stream) exchanges) :
    dataOf result = framesRead exchanges ∧
      session'.stream.toAudioStream = session.stream.toAudioStream := by
  cases call with
  | prepare =>
      obtain ⟨value, hprepare, rfl⟩ := withOutput_returns hreturns
      obtain ⟨hnone, hformat⟩ := framesRead_prepare hprepare
      exact ⟨(dataOf_nothing value).trans hnone.symm, hformat⟩
  | start =>
      obtain ⟨value, hstart, rfl⟩ := withOutput_returns hreturns
      obtain ⟨hnone, hformat⟩ := framesRead_start hstart
      exact ⟨(dataOf_nothing value).trans hnone.symm, hformat⟩
  | readFrames maxBytes timeoutMs =>
      obtain ⟨value, hread, rfl⟩ := withOutput_returns hreturns
      have hsame := (readFrames_moves hread).1
      cases value with
      | ok data =>
          obtain ⟨hdata, -⟩ :=
            keepsFrames_of_le hdevice (hlimit maxBytes timeoutMs rfl) hread hwhole
          exact ⟨hdata, by rw [hsame]⟩
      | error status =>
          refine ⟨?_, by rw [hsame]⟩
          obtain ⟨-, ⟨rfl, -⟩ | ⟨-, frame, rfl, hframe⟩⟩ := readFrames_returns hread
          · rfl
          · cases frame with
            | error status => rfl
            | ok frame => cases hframe
  | stop =>
      obtain ⟨value, hstop, rfl⟩ := withOutput_returns hreturns
      obtain ⟨hnone, hformat⟩ := framesRead_stop hstop
      exact ⟨(dataOf_nothing value).trans hnone.symm, hformat⟩
  | close =>
      obtain ⟨value, hclose, rfl⟩ := withOutput_returns hreturns
      obtain ⟨hnone, hformat⟩ := framesRead_close hclose
      exact ⟨(dataOf_nothing value).trans hnone.symm, hformat⟩

theorem conduct_returnedData {calls : List CaptureCall} {results : List (Result SessionOutput)}
    (hreturns : (conduct AudioCaptureSession.perform calls session).Returns exchanges
      (results, session'))
    (hdevice : session.hasDevice = true)
    (hlimit : ∀ maxBytes timeoutMs, .readFrames maxBytes timeoutMs ∈ calls →
      frameBytes session.stream ≤ maxBytes)
    (hwhole : WholeFrames (frameBytes session.stream) exchanges) :
    returnedData results = framesRead exchanges := by
  induction calls generalizing session exchanges results with
  | nil =>
      obtain ⟨rfl, heq⟩ := hreturns
      cases heq
      rfl
  | cons call calls ih =>
      obtain ⟨⟨result, middle⟩, earlier, later, rfl, hcall, hrest⟩ := Proc.returns_bind.mp hreturns
      obtain ⟨⟨_, last⟩, calls', later', rfl, hcalls, hrest⟩ := Proc.returns_bind.mp hrest
      obtain ⟨rfl, heq⟩ := hrest
      cases heq
      rw [List.append_nil] at hwhole ⊢
      obtain ⟨hfirst, hformat⟩ := capture_returns hcall hdevice
        (fun maxBytes timeoutMs heq => hlimit maxBytes timeoutMs (heq ▸ List.mem_cons_self))
        hwhole.of_append.1
      have hsize : frameBytes middle.stream = frameBytes session.stream := by
        simp only [frameBytes, hformat]
      have hothers := ih hcalls ((capture_moves hcall).device.trans hdevice)
        (fun maxBytes timeoutMs hmem =>
          hsize ▸ hlimit maxBytes timeoutMs (List.mem_cons_of_mem call hmem))
        (hsize ▸ hwhole.of_append.2)
      rw [framesRead_append, ← hfirst, ← hothers]
      rfl

end Run

/-- A read keeps what the device delivers exactly when it asks for a frame or more; calls that do
lose nothing, whatever their order. -/
theorem capture_keeps_iff (session : Session) :
    (∀ maxBytes, session.closed = false → session.stream.running = true →
      session.hasDevice = true → maxBytes ≠ 0 →
        (KeepsFrames session maxBytes ↔ frameBytes session.stream ≤ maxBytes)) ∧
    ∀ calls exchanges results session', session.hasDevice = true →
      (∀ maxBytes timeoutMs, .readFrames maxBytes timeoutMs ∈ calls →
        frameBytes session.stream ≤ maxBytes) →
      (conduct AudioCaptureSession.perform calls session).Returns exchanges (results, session') →
      WholeFrames (frameBytes session.stream) exchanges →
        returnedData results = framesRead exchanges := by
  constructor
  · exact fun maxBytes hopen hrunning hdevice hmax =>
      keepsFrames_iff hopen hrunning hdevice hmax
  · exact fun calls exchanges results session' hdevice hlimit hreturns hwhole =>
      conduct_returnedData hreturns hdevice hlimit hwhole

/-- A running capture session of two channels with two bytes a sample. -/
def stereoCapture : Session where
  stream :=
    { id := asciiBytes "capture_1", direction := .capture, driverFactory := [], deviceName := []
      sampleRate := 48000, channels := 2, bytesPerSample := 2, blockingWrite := true
      prepared := true, running := true }
  hasDevice := true

/-- Three bytes asked for: the device delivers its smallest frame, and the call drops it. -/
theorem short_read_drops_frame :
    (AudioCaptureSession.readFrames 3 0 stereoCapture).Returns
        [⟨.readFrame 4 0, .ok [1, 2, 3, 4]⟩] (.ok [], stereoCapture) ∧
      WholeFrames (frameBytes stereoCapture.stream) [⟨.readFrame 4 0, .ok [1, 2, 3, 4]⟩] ∧
      ¬KeepsFrames stereoCapture 3 := by
  have hsize : frameBytes stereoCapture.stream = 4 := by decide +kernel
  have hless : (3 : UInt64) < frameBytes stereoCapture.stream := by
    rw [hsize]
    decide
  have hframe : ([1, 2, 3, 4] : Bytes).length = (frameBytes stereoCapture.stream).toNat := by
    rw [hsize]
    rfl
  have hshort := readFrames_short rfl rfl rfl (by decide) hless 0 hframe
  have hwhole : WholeFrames (frameBytes stereoCapture.stream)
      [⟨.readFrame 4 0, .ok [1, 2, 3, 4]⟩] := by
    intro size timeoutMs frame hmem
    rw [List.mem_singleton] at hmem
    cases hmem
    rw [← hframe]
    exact ⟨dvd_rfl, le_rfl⟩
  rw [hsize] at hshort
  exact ⟨hshort, hwhole, fun hkeeps => nomatch (hkeeps hshort hwhole).1⟩

end AudioStudio.Audio
