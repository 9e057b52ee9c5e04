import AudioStudio.Controller.Transfer
import AudioStudio.Wire.TransportCodec
import Mathlib.Data.List.Forall2

/-!
# Captured audio

READ requests on a capture slot against a SOF stream that answers at will.  A request
that fails after some of its reads brought bytes drops these bytes; the stream has to be
steady enough for this not to happen.
-/

namespace AudioStudio.Playback

open AudioStudio.Controller
open LittleEndian
open Wire

/-! ## The world of a capture -/

/-- The slots, the bytes that reads have obtained in all and since the last answer, the
waits since the last of them, and the packets that were sent. -/
structure CaptureWorld where
  audio : AcAudioController
  obtained : Bytes := []
  pending : Nat := 0
  stalls : Nat := 0
  packets : List Bytes := []

def CaptureWorld.obtain (world : CaptureWorld) (data : Bytes) : CaptureWorld :=
  { world with
    obtained := world.obtained ++ data
    pending := world.pending + data.length
    stalls := if data = [] then world.stalls else 0 }

theorem CaptureWorld.obtain_nil (world : CaptureWorld) : world.obtain [] = world := by
  simp [CaptureWorld.obtain]

/-- A packet answers the request at hand. -/
def CaptureWorld.answer (world : CaptureWorld) (packet : Bytes) : CaptureWorld :=
  { world with packets := world.packets ++ [packet], pending := 0, stalls := 0 }

/-- SOF answers at will. -/
def capturing : Effect ControllerReply CaptureWorld
  | .streams, world, audio, world' => audio = world.audio ∧ world' = world
  | .modifySlot index change, world, _, world' =>
      world' = { world with audio := world.audio.modify index change }
  | .sleepMs _, world, _, world' => world' = { world with stalls := world.stalls + 1 }
  | .sofStreamRead _ _, world, data, world' => world' = world.obtain (data.getD [])
  | .sendPacket packet _, world, _, world' => world' = world.answer packet
  | _, world, _, world' => world' = world

/-- The next answer of SOF drops nothing.  Reads bring whole frames, no more than were
asked for; and while bytes of an unanswered request are pending no read and no poll
fails, and after 5000 waits in a row there is a frame to read. -/
def Steady (frameBytes : Nat) (world : CaptureWorld) :
    (cmd : ControllerCmd) → ControllerReply cmd → Prop
  | .sofStreamRead _ size, data =>
      (data = none → world.pending = 0) ∧
        ∀ bytes, data = some bytes → bytes.length ≤ size ∧ frameBytes ∣ bytes.length ∧
          (world.pending ≠ 0 → world.stalls = acAudioStreamWaitRetries → bytes ≠ [])
  | .sofStreamGetAvailSize _, availSize =>
      world.pending ≠ 0 → world.stalls = acAudioStreamWaitRetries →
        (frameBytes : Int) ≤ availSize
  | .sofStreamPollPosition _, ret => ret ≠ 0 → world.pending = 0
  | _, _ => True

/-- SOF answers at will as long as it drops nothing. -/
def steadily (frameBytes : Nat) : Effect ControllerReply CaptureWorld :=
  fun cmd world reply world' => capturing cmd world reply world' ∧ Steady frameBytes world cmd reply

/-! ## Requests and answers -/

/-- The slot behind a data channel captures a stream in frames of a size. -/
structure Captures (audio : AcAudioController) (channelId : UInt16) (index : SlotIndex)
    (stream : Nat) (frameSize : UInt16) : Prop where
  found : acAudioFindStreamByChannel audio channelId = some index
  stream : (audio.streams index).stream = some stream
  running : (audio.streams index).running = true
  direction : (audio.streams index).direction = acTransportAudioDirectionCapture
  frameBytes : (audio.streams index).frameBytes = frameSize
  pos : frameSize ≠ 0

/-- READ requests, each of them handled before the next. -/
def readRequests : List AcTransportFrame → ControllerProc Unit
  | [] => pure ()
  | request :: requests => do
      let _ ← acAudioDataTransportHandler request
      readRequests requests

/-- How many bytes a READ request asks for: no size, zero and too large a size mean the
maximum. -/
def readLimit (request : AcTransportFrame) : Nat :=
  if request.payload.length ≥ 4 ∧ (word32 request.payload 0).toNat ≠ 0 then
    min (word32 request.payload 0).toNat acTransportMaxPayload
  else acTransportMaxPayload

/-- The audio in the packet of an answer; an error carries none. -/
def responsePayload (packet : Bytes) : Bytes :=
  match FrameCodec.decode packet with
  | .ok frame => if frame.flags &&& acTransportFlagError = 0 then frame.payload else []
  | .error _ => []

/-- Every request has its answer, of whole frames and no longer than asked for, and the
answers carry what was obtained, each byte once and in stream order. -/
structure Recorded (frameBytes : Nat) (requests : List AcTransportFrame) (world : CaptureWorld) :
    Prop where
  answers : List.Forall₂ (fun request packet => frameBytes ∣ (responsePayload packet).length ∧
    (responsePayload packet).length ≤ readLimit request) requests world.packets
  whole : world.packets.flatMap responsePayload = world.obtained

section Capture

variable {audio : AcAudioController} {channelId : UInt16} {index : SlotIndex} {stream : Nat}
  {frameSize : UInt16} {world : CaptureWorld}

/-- Counting frames does not disturb a capturing slot. -/
theorem Captures.count (hcaptures : Captures audio channelId index stream frameSize)
    (frames : Nat) :
    Captures (audio.modify index fun slot => { slot with framesRead := slot.framesRead + frames })
      channelId index stream frameSize where
  found := by
    rw [← hcaptures.found]
    unfold acAudioFindStreamByChannel AcAudioController.find
    refine congrArg (fun wanted => List.find? wanted _) (funext fun other => ?_)
    by_cases hother : other = index
    · subst hother
      simp [AcAudioController.modify]
    · simp [AcAudioController.modify, hother]
  stream := by simpa [AcAudioController.modify] using hcaptures.stream
  running := by simpa [AcAudioController.modify] using hcaptures.running
  direction := by simpa [AcAudioController.modify] using hcaptures.direction
  frameBytes := by simpa [AcAudioController.modify] using hcaptures.frameBytes
  pos := hcaptures.pos

/-! ## The read loop -/

/-- The loop's invariant: what this request has obtained since `start` is what it will
answer with, unless it fails. -/
structure Reading (channelId : UInt16) (index : SlotIndex) (stream : Nat) (frameSize : UInt16)
    (start : CaptureWorld) (total remaining : Nat) (transferred : Bytes) (retriesLeft : Nat)
    (world : CaptureWorld) : Prop where
  captures : Captures world.audio channelId index stream frameSize
  obtained : world.obtained = start.obtained ++ transferred
  pending : world.pending = transferred.length
  packets : world.packets = start.packets
  stalls : world.stalls + retriesLeft = acAudioStreamWaitRetries
  length : transferred.length + remaining = total
  whole : frameSize.toNat ∣ remaining

/-- What a transfer leaves: nothing is dropped. -/
def Filled (channelId : UInt16) (index : SlotIndex) (stream : Nat) (frameSize : UInt16)
    (start : CaptureWorld) (total : Nat) (result : Option Bytes) (world : CaptureWorld) : Prop :=
  Captures world.audio channelId index stream frameSize ∧ world.packets = start.packets ∧
    world.obtained = start.obtained ++ result.getD [] ∧
    ∀ data, result = some data → data.length = total

variable {start : CaptureWorld} {total remaining retriesLeft : Nat} {transferred : Bytes}

/-- A request that fails before it obtained anything drops nothing. -/
theorem Reading.filled_none
    (hreading : Reading channelId index stream frameSize start total remaining transferred
      retriesLeft world) (hnothing : world.pending = 0) :
    Filled channelId index stream frameSize start total none world := by
  have hempty : transferred = [] := List.length_eq_zero_iff.mp (hreading.pending ▸ hnothing)
  have hobtained := hreading.obtained
  rw [hempty] at hobtained
  exact ⟨hreading.captures, hreading.packets, hobtained, nofun⟩

/-- A read that brings whole frames moves them to what the request answers with. -/
theorem Reading.brings {data : Bytes}
    (hreading : Reading channelId index stream frameSize start total remaining transferred
      retriesLeft world) (hne : data ≠ []) (hsize : data.length ≤ remaining)
    (hwhole : frameSize.toNat ∣ data.length) :
    Reading channelId index stream frameSize start total (remaining - data.length)
      (transferred ++ data) acAudioStreamWaitRetries
      { world.obtain data with
        audio := world.audio.modify index fun slot =>
          { slot with framesRead := slot.framesRead + data.length / frameSize.toNat } } where
  captures := hreading.captures.count _
  obtained := by
    rw [CaptureWorld.obtain, hreading.obtained, List.append_assoc]
  pending := by
    rw [CaptureWorld.obtain, hreading.pending, List.length_append]
  packets := hreading.packets
  stalls := by
    rw [CaptureWorld.obtain, if_neg hne, Nat.zero_add]
  length := by
    have hlength := hreading.length
    rw [List.length_append]
    omega
  whole := Nat.dvd_sub hreading.whole hwhole

theorem readRound_ensures (hremaining : remaining ≠ 0)
    (hreading : Reading channelId index stream frameSize start total remaining transferred
      retriesLeft world) :
    (acAudioReadRound index stream frameSize.toNat remaining).Ensures (steadily frameSize.toNat)
      world fun result world' =>
        match result with
        | .fail => Filled channelId index stream frameSize start total none world'
        | .wait => Reading channelId index stream frameSize start total remaining transferred
            retriesLeft world' ∧ (retriesLeft = 0 → world'.pending = 0)
        | .advance count data _ => Reading channelId index stream frameSize start total
            (remaining - count) (transferred ++ data) acAudioStreamWaitRetries world' := by
  have hframe : 0 < frameSize.toNat :=
    Nat.pos_of_ne_zero fun hzero => hreading.captures.pos (UInt16.toNat_inj.mp hzero)
  have hone : frameSize.toNat ≤ remaining :=
    Nat.le_of_dvd (Nat.pos_of_ne_zero hremaining) hreading.whole
  have hstalls := hreading.stalls
  unfold acAudioReadRound
  refine Proc.ensures_request_bind.mpr fun availSize world' hanswer => ?_
  obtain ⟨hsame, hsteady⟩ := hanswer
  have hsame : world' = world := hsame
  have hsteady : world.pending ≠ 0 → world.stalls = acAudioStreamWaitRetries →
      (frameSize.toNat : Int) ≤ availSize := hsteady
  rw [hsame]
  dsimp only
  generalize hreadSize : wholeFrames (min remaining _) frameSize.toNat = readSize
  have hle : readSize ≤ remaining :=
    hreadSize ▸ (wholeFrames_le _ _).trans (Nat.min_le_left _ _)
  split
  · next hwait =>
      refine ⟨hreading, fun hzero => ?_⟩
      by_contra hpending
      have hfree := hsteady hpending (by omega)
      have hpositive : 0 < readSize := by
        rw [← hreadSize]
        exact Nat.mul_pos (Nat.div_pos (Nat.le_min.mpr ⟨hone, by omega⟩) hframe) hframe
      omega
  · next hroom =>
      refine Proc.ensures_request_bind.mpr fun data world' hanswer => ?_
      obtain ⟨hobtain, hfails, hbrings⟩ := hanswer
      have hobtain : world' = world.obtain (data.getD []) := hobtain
      subst hobtain
      cases data with
      | none =>
          have hnothing := hfails rfl
          rw [Option.getD_none, CaptureWorld.obtain_nil]
          exact hreading.filled_none hnothing
      | some data =>
          obtain ⟨hsize, hwhole, hbytes⟩ := hbrings data rfl
          rw [Option.getD_some]
          dsimp only
          rw [if_neg (Nat.not_lt.mpr hsize)]
          split
          · next hzero =>
              obtain rfl : data = [] := List.length_eq_zero_iff.mp hzero
              rw [CaptureWorld.obtain_nil]
              refine ⟨hreading, fun hzero => ?_⟩
              by_contra hpending
              exact hbytes hpending (by omega) rfl
          · next hpos =>
              rw [if_neg (not_not.mpr (Nat.mod_eq_zero_of_dvd hwhole))]
              refine Proc.ensures_request_bind.mpr fun _ world' hanswer => ?_
              obtain ⟨hcount, -⟩ := hanswer
              have hcount : world' = { world.obtain data with
                  audio := world.audio.modify index fun slot =>
                    { slot with
                      framesRead := slot.framesRead + data.length / frameSize.toNat } } := hcount
              subst hcount
              have hne : data ≠ [] := fun hnil => hpos (List.length_eq_zero_iff.mpr hnil)
              exact hreading.brings hne (hsize.trans hle) hwhole

theorem read_transferRule :
    TransferRule (steadily frameSize.toNat) stream (acAudioReadRound index stream frameSize.toNat)
      (fun remaining transferred retriesLeft world =>
        Reading channelId index stream frameSize start total remaining transferred retriesLeft world)
      (fun remaining transferred retriesLeft world =>
        Reading channelId index stream frameSize start total remaining transferred retriesLeft
          world ∧ (retriesLeft = 0 → world.pending = 0))
      (Filled channelId index stream frameSize start total) where
  finished transferred retriesLeft state hbefore := by
    refine ⟨hbefore.captures, hbefore.packets, hbefore.obtained, fun data hdata => ?_⟩
    cases hdata
    exact hbefore.length
  round remaining transferred retriesLeft state hremaining hbefore :=
    readRound_ensures hremaining hbefore
  exhausted remaining transferred state hwaiting := hwaiting.1.filled_none (hwaiting.2 rfl)
  wait remaining transferred retriesLeft state hwaiting := by
    have hreading := hwaiting.1
    have hstalls := hreading.stalls
    unfold acAudioWaitStreamProgress
    refine Proc.ensures_request_bind.mpr fun ret state' hanswer => ?_
    obtain ⟨hsame, hsteady⟩ := hanswer
    have hsame : state' = state := hsame
    have hsteady : ret ≠ 0 → state.pending = 0 := hsteady
    rw [hsame]
    split
    · next hret => exact ⟨fun _ => hreading.filled_none (hsteady hret), nofun⟩
    · refine Proc.ensures_request_bind.mpr fun _ state'' hanswer => ?_
      obtain ⟨hslept, -⟩ := hanswer
      have hslept : state'' = { state with stalls := state.stalls + 1 } := hslept
      subst hslept
      refine ⟨nofun, fun _ => ?_⟩
      constructor
      · exact hreading.captures
      · exact hreading.obtained
      · exact hreading.pending
      · exact hreading.packets
      · show state.stalls + 1 + retriesLeft = acAudioStreamWaitRetries
        omega
      · exact hreading.length
      · exact hreading.whole

/-! ## One request -/

/-- Between two requests no bytes are pending. -/
structure CaptureIdle (channelId : UInt16) (index : SlotIndex) (stream : Nat) (frameSize : UInt16)
    (world : CaptureWorld) : Prop where
  captures : Captures world.audio channelId index stream frameSize
  pending : world.pending = 0
  stalls : world.stalls = 0

/-- What `ac_audio_read_stream` leaves: bytes of whole frames, no more than asked for. -/
theorem readStream_ensures (hidle : CaptureIdle channelId index stream frameSize world)
    (maxBytes : UInt32) (capacity : Nat) :
    (acAudioReadStream index (world.audio.streams index) maxBytes capacity).Ensures
      (steadily frameSize.toNat) world fun result world' =>
        Captures world'.audio channelId index stream frameSize ∧ world'.packets = world.packets ∧
          world'.obtained = world.obtained ++ result.getD [] ∧
          ∀ data, result = some data → frameSize.toNat ∣ data.length ∧
            data.length ≤ if maxBytes = 0 ∨ maxBytes.toNat > capacity then capacity
              else maxBytes.toNat := by
  have hcaptures := hidle.captures
  have hfailed : (Captures world.audio channelId index stream frameSize ∧
      world.packets = world.packets ∧ world.obtained = world.obtained ++ (none : Option Bytes).getD [] ∧
      ∀ data, (none : Option Bytes) = some data → frameSize.toNat ∣ data.length ∧
        data.length ≤ if maxBytes = 0 ∨ maxBytes.toNat > capacity then capacity
          else maxBytes.toNat) :=
    ⟨hcaptures, rfl, (List.append_nil _).symm, nofun⟩
  unfold acAudioReadStream
  rw [hcaptures.stream]
  dsimp only
  split
  · exact hfailed
  · split
    · exact hfailed
    · generalize hlimit : (if maxBytes = 0 ∨ maxBytes.toNat > capacity then capacity
        else maxBytes.toNat) = limit at *
      rw [hcaptures.frameBytes]
      generalize htotal : wholeFrames limit frameSize.toNat = total
      have hwhole : frameSize.toNat ∣ total := htotal ▸ wholeFrames_dvd _ _
      have hle : total ≤ limit := htotal ▸ wholeFrames_le _ _
      split
      · exact hfailed
      · have hreading : Reading channelId index stream frameSize world total total []
            acAudioStreamWaitRetries world := by
          constructor
          · exact hcaptures
          · exact (List.append_nil _).symm
          · exact hidle.pending
          · rfl
          · rw [hidle.stalls, Nat.zero_add]
          · exact Nat.zero_add _
          · exact hwhole
        refine (read_transferRule.ensures total [] _ hreading).mono fun result world' hfilled => ?_
        refine ⟨hfilled.1, hfilled.2.1, hfilled.2.2.1, fun data hdata => ?_⟩
        rw [hfilled.2.2.2 data hdata]
        exact ⟨hwhole, hle⟩

/-- An error answer carries no audio. -/
theorem responsePayload_error (request : AcTransportFrame) {message : Bytes}
    (hmessage : message.length < 2 ^ 32) :
    responsePayload (FrameCodec.encode (request.hostFrame
      (acTransportFlagResponse ||| acTransportFlagAck ||| acTransportFlagError) message)) = [] := by
  unfold responsePayload
  rw [FrameCodec.decode_encode hmessage]
  exact if_neg (show ¬((acTransportFlagResponse ||| acTransportFlagAck ||| acTransportFlagError) &&&
    acTransportFlagError = 0) by decide)

/-- An answer carries its payload. -/
theorem responsePayload_data (request : AcTransportFrame) {data : Bytes}
    (hdata : data.length < 2 ^ 32) :
    responsePayload (FrameCodec.encode (request.hostFrame
      (acTransportFlagResponse ||| acTransportFlagAck ||| 0) data)) = data := by
  unfold responsePayload
  rw [FrameCodec.decode_encode hdata]
  exact if_pos (show (acTransportFlagResponse ||| acTransportFlagAck ||| 0) &&&
    acTransportFlagError = 0 by decide)

theorem sendResponse_ensures (request : AcTransportFrame) (extraFlags : UInt32) {payload : Bytes}
    (hpayload : payload.length ≤ acTransportMaxPayload) :
    (acTransportSendResponse request extraFlags payload).Ensures (steadily frameSize.toNat) world
      fun _ world' => world' = world.answer (FrameCodec.encode (request.hostFrame
        (acTransportFlagResponse ||| acTransportFlagAck ||| extraFlags) payload)) := by
  rw [acTransportSendResponse_eq request extraFlags hpayload]
  exact fun _ _ hanswer => hanswer.1

theorem readLimit_le (request : AcTransportFrame) : readLimit request ≤ acTransportMaxPayload := by
  unfold readLimit
  split
  · exact Nat.min_le_right _ _
  · exact Nat.le_refl _

/-- The limit that the handler passes on is the one of the request. -/
theorem maxBytes_le (request : AcTransportFrame) :
    let maxBytes := if request.payload.length ≥ 4 then word32 request.payload 0
      else acTransportMaxPayload.toUInt32
    (if maxBytes = 0 ∨ maxBytes.toNat > acTransportMaxPayload then acTransportMaxPayload
      else maxBytes.toNat) ≤ readLimit request := by
  intro maxBytes
  by_cases hlong : request.payload.length ≥ 4
  · have hmaxBytes : maxBytes = word32 request.payload 0 := if_pos hlong
    rw [hmaxBytes]
    by_cases hzero : word32 request.payload 0 = 0
    · have hlimit : readLimit request = acTransportMaxPayload := if_neg (by simp [hzero])
      rw [if_pos (.inl hzero), hlimit]
    · have hne : (word32 request.payload 0).toNat ≠ 0 := fun h => hzero (UInt32.toNat_inj.mp h)
      have hlimit : readLimit request = min (word32 request.payload 0).toNat acTransportMaxPayload :=
        if_pos ⟨hlong, hne⟩
      rw [hlimit]
      split
      · next hmaximum =>
          have hlarge := hmaximum.resolve_left hzero
          omega
      · next hsmall =>
          have hfits := Nat.not_lt.mp fun hlarge => hsmall (.inr hlarge)
          omega
  · have hmaxBytes : maxBytes = acTransportMaxPayload.toUInt32 := if_neg hlong
    have hlimit : readLimit request = acTransportMaxPayload := if_neg fun h => hlong h.1
    rw [hmaxBytes, hlimit]
    decide

/-- One READ request: its answer carries all that it obtained. -/
theorem readRequest_ensures (hidle : CaptureIdle channelId index stream frameSize world)
    {request : AcTransportFrame} (hchannel : request.channelId = channelId)
    (hcommand : request.commandId = acTransportAudioRead) :
    (acAudioDataTransportHandler request).Ensures (steadily frameSize.toNat) world
      fun _ world' => CaptureIdle channelId index stream frameSize world' ∧
        ∃ packet, world'.packets = world.packets ++ [packet] ∧
          world'.obtained = world.obtained ++ responsePayload packet ∧
          frameSize.toNat ∣ (responsePayload packet).length ∧
          (responsePayload packet).length ≤ readLimit request := by
  have hsmall : acTransportMaxPayload < 2 ^ 32 := by decide
  unfold acAudioDataTransportHandler
  refine Proc.ensures_request_bind.mpr fun audio world' hanswer => ?_
  obtain ⟨⟨haudio, hsame⟩, -⟩ := hanswer
  rw [haudio, hsame, hchannel, hidle.captures.found]
  dsimp only
  rw [if_neg (by rw [hcommand]; decide), if_pos hcommand]
  unfold acAudioHandleRead
  dsimp only
  refine (readStream_ensures hidle _ _).bind fun result world' hread => ?_
  obtain ⟨hcaptures, hpackets, hobtained, hdata⟩ := hread
  cases result with
  | none =>
      rw [Option.getD_none, List.append_nil] at hobtained
      refine (sendResponse_ensures request acTransportFlagError (by decide)).mono
        fun _ world'' hanswer => ?_
      subst hanswer
      refine ⟨⟨hcaptures, rfl, rfl⟩, _, congrArg (· ++ _) hpackets, ?_⟩
      rw [responsePayload_error request (by decide), List.append_nil]
      exact ⟨hobtained, Nat.dvd_zero _, Nat.zero_le _⟩
  | some data =>
      obtain ⟨hwhole, hlimit⟩ := hdata data rfl
      have hreadLimit : data.length ≤ readLimit request := hlimit.trans (maxBytes_le request)
      have hmax := hreadLimit.trans (readLimit_le request)
      refine (sendResponse_ensures request 0 hmax).mono fun _ world'' hanswer => ?_
      subst hanswer
      refine ⟨⟨hcaptures, rfl, rfl⟩, _, congrArg (· ++ _) hpackets, ?_⟩
      rw [responsePayload_data request (by omega)]
      exact ⟨hobtained, hwhole, hreadLimit⟩

/-! ## All requests -/

theorem Recorded.snoc {frameBytes : Nat} {requests : List AcTransportFrame}
    {request : AcTransportFrame} {packet : Bytes} {world' : CaptureWorld}
    (hrecorded : Recorded frameBytes requests world)
    (hpackets : world'.packets = world.packets ++ [packet])
    (hobtained : world'.obtained = world.obtained ++ responsePayload packet)
    (hwhole : frameBytes ∣ (responsePayload packet).length)
    (hlimit : (responsePayload packet).length ≤ readLimit request) :
    Recorded frameBytes (requests ++ [request]) world' where
  answers := by
    rw [hpackets]
    exact List.rel_append hrecorded.answers (.cons ⟨hwhole, hlimit⟩ .nil)
  whole := by
    rw [hpackets, hobtained, List.flatMap_append, hrecorded.whole]
    simp

theorem readRequests_ensures (requests : List AcTransportFrame)
    (hreads : ∀ request ∈ requests, request.channelId = channelId ∧
      request.commandId = acTransportAudioRead)
    {answered : List AcTransportFrame}
    (hidle : CaptureIdle channelId index stream frameSize world)
    (hrecorded : Recorded frameSize.toNat answered world) :
    (readRequests requests).Ensures (steadily frameSize.toNat) world fun _ world' =>
      Recorded frameSize.toNat (answered ++ requests) world' := by
  induction requests generalizing answered world with
  | nil =>
      rw [List.append_nil]
      exact hrecorded
  | cons request requests ih =>
      obtain ⟨hchannel, hcommand⟩ := hreads request List.mem_cons_self
      rw [readRequests]
      refine (readRequest_ensures hidle hchannel hcommand).bind fun _ world' hanswered => ?_
      obtain ⟨hidle', packet, hpackets, hobtained, hwhole, hlimit⟩ := hanswered
      have hlater := ih (fun other hother => hreads other (List.mem_cons_of_mem _ hother)) hidle'
        (hrecorded.snoc hpackets hobtained hwhole hlimit)
      rw [List.append_assoc] at hlater
      exact hlater

end Capture

/-- READ requests on a capture slot lose no audio while SOF is steady. -/
theorem capture_lossless (audio : AcAudioController) (channelId : UInt16) (index : SlotIndex)
    (stream : Nat) (frameSize : UInt16)
    (hcaptures : Captures audio channelId index stream frameSize)
    (requests : List AcTransportFrame) (hreads : ∀ request ∈ requests,
      request.channelId = channelId ∧ request.commandId = acTransportAudioRead) :
    (readRequests requests).Ensures (steadily frameSize.toNat) { audio := audio }
      fun _ world => Recorded frameSize.toNat requests world := by
  have hidle : CaptureIdle channelId index stream frameSize { audio := audio } :=
    ⟨hcaptures, rfl, rfl⟩
  have hnothing : Recorded frameSize.toNat [] { audio := audio } := ⟨.nil, rfl⟩
  exact readRequests_ensures requests hreads hidle hnothing

/-! ## A stream that stalls -/

def captureSlot : SlotIndex := ⟨0, acTransportAudioMaxStreams_pos⟩

/-- A controller whose first slot captures frames of two bytes. -/
def capturingAudio : AcAudioController :=
  acAudioInit.modify captureSlot ({ · with
    allocated := true, running := true, stream := some 1, frameBytes := 2
    direction := acTransportAudioDirectionCapture })

theorem capturingAudio_captures : Captures capturingAudio 4 captureSlot 1 2 where
  found := by decide
  stream := rfl
  running := rfl
  direction := rfl
  frameBytes := rfl
  pos := by decide

theorem capture_lossless_two :
    (readRequests [{ channelId := 4, commandId := 5, payload := [8, 0, 0, 0] },
      { channelId := 4, commandId := 5 }]).Ensures (steadily 2) { audio := capturingAudio }
        fun _ world => Recorded 2 [{ channelId := 4, commandId := 5, payload := [8, 0, 0, 0] },
          { channelId := 4, commandId := 5 }] world :=
  capture_lossless capturingAudio 4 captureSlot 1 2 capturingAudio_captures
    [{ channelId := 4, commandId := 5, payload := [8, 0, 0, 0] }, { channelId := 4, commandId := 5 }]
    (by decide)

/-- Two frames are there, and then polling fails. -/
def stalling : Handler ControllerReply CaptureWorld
  | .streams, world => some (world.audio, world)
  | .modifySlot index change, world =>
      some ((), { world with audio := world.audio.modify index change })
  | .sofStreamGetAvailSize _, world => some (if world.obtained = [] then 4 else 0, world)
  | .sofStreamRead _ _, world => some (some [1, 2, 3, 4], world.obtain [1, 2, 3, 4])
  | .sofStreamPollPosition _, world => some (-1, world)
  | .sendPacket packet _, world => some (0, world.answer packet)
  | _, _ => none

theorem stalling_capturing {cmd : ControllerCmd} {world world' : CaptureWorld}
    {reply : ControllerReply cmd} (hreply : stalling cmd world = some (reply, world')) :
    capturing cmd world reply world' := by
  cases cmd with
  | streams =>
      cases hreply
      exact ⟨rfl, rfl⟩
  | sofStreamRead stream size =>
      cases hreply
      rfl
  | modifySlot index change =>
      cases hreply
      rfl
  | sofStreamGetAvailSize stream =>
      cases hreply
      rfl
  | sofStreamPollPosition stream =>
      cases hreply
      rfl
  | sendPacket packet timeoutMs =>
      cases hreply
      rfl
  | _ => cases hreply

/-- A transfer that has taken the two frames fails at the poll. -/
theorem stalling_transfer (world : CaptureWorld) (hobtained : world.obtained = []) :
    ∃ world', (acAudioTransfer 1 (acAudioReadRound captureSlot 1 2) 8 [] acAudioStreamWaitRetries).run stalling
      world = (.done none, world') ∧ world'.obtained = [1, 2, 3, 4] ∧
        world'.packets = world.packets := by
  have hfirst : (acAudioReadRound captureSlot 1 2 8).run stalling world =
      (.done (.advance 4 [1, 2, 3, 4] (by decide)), { world.obtain [1, 2, 3, 4] with
        audio := world.audio.modify captureSlot fun slot => { slot with framesRead := slot.framesRead + 2 } }) := by
    have havail : stalling (.sofStreamGetAvailSize 1) world = some (4, world) := by
      simp [stalling, hobtained]
    exact (Proc.run_request_bind stalling havail _).trans rfl
  generalize hnext : ({ world.obtain [1, 2, 3, 4] with
    audio := world.audio.modify captureSlot fun slot => { slot with framesRead := slot.framesRead + 2 } } :
      CaptureWorld) = next at hfirst
  have hholds : next.obtained = [1, 2, 3, 4] := by
    rw [← hnext]
    show world.obtained ++ _ = _
    rw [hobtained]
    rfl
  have hpackets : next.packets = world.packets := by rw [← hnext]; rfl
  have hsecond : (acAudioReadRound captureSlot 1 2 4).run stalling next = (.done .wait, next) := by
    have havail : stalling (.sofStreamGetAvailSize 1) next = some (0, next) := by
      simp [stalling, hholds]
    exact (Proc.run_request_bind stalling havail _).trans rfl
  have hpoll : (acAudioWaitStreamProgress 1).run stalling next = (.done (-1), next) := rfl
  refine ⟨next, ?_, hholds, hpackets⟩
  rw [acAudioTransfer.eq_def, dif_neg (by decide), Proc.run_bind_done stalling hfirst]
  dsimp only
  rw [acAudioTransfer.eq_def, dif_neg (by decide), Proc.run_bind_done stalling hsecond]
  dsimp only [acAudioStreamWaitRetries]
  rw [Proc.run_bind_done stalling hpoll]
  rfl

/-- A request for eight bytes, and its answer on the stalling stream. -/
def shortRequest : AcTransportFrame :=
  { channelId := 4, commandId := 5, payload := [8, 0, 0, 0] }

def readFailed : Bytes :=
  FrameCodec.encode (shortRequest.hostFrame
    (acTransportFlagResponse ||| acTransportFlagAck ||| acTransportFlagError)
    (asciiBytes "audio read failed"))

theorem stalling_request : ∃ world : CaptureWorld, (acAudioDataTransportHandler shortRequest).run stalling
    { audio := capturingAudio } = (.done 0, world.answer readFailed) ∧
      world.obtained = [1, 2, 3, 4] ∧ world.packets = [] := by
  obtain ⟨world, htransfer, hobtained, hpackets⟩ :=
    stalling_transfer { audio := capturingAudio } rfl
  refine ⟨world, ?_, hobtained, hpackets⟩
  have hread : (acAudioReadStream captureSlot (capturingAudio.streams captureSlot) 8
      acTransportMaxPayload).run stalling { audio := capturingAudio } = (.done none, world) :=
    htransfer
  have hsent : (acTransportSendError shortRequest "audio read failed").run stalling world =
      (.done 0, world.answer readFailed) := by
    unfold acTransportSendError
    rw [acTransportSendResponse_eq _ _ (by decide)]
    rfl
  have hstreams : stalling .streams { audio := capturingAudio } =
      some (capturingAudio, { audio := capturingAudio }) := rfl
  refine (Proc.run_request_bind stalling hstreams _).trans ?_
  have hfound : acAudioFindStreamByChannel capturingAudio shortRequest.channelId = some captureSlot :=
    capturingAudio_captures.found
  rw [hfound]
  dsimp only
  rw [if_neg (by decide), if_pos (by decide), acAudioHandleRead]
  have hmaxBytes : (if shortRequest.payload.length ≥ 4 then word32 shortRequest.payload 0
      else acTransportMaxPayload.toUInt32) = 8 := by decide
  rw [hmaxBytes, Proc.run_bind_done stalling hread]
  exact hsent

/-- The two frames that a request obtained before it failed are in no answer. -/
theorem capture_loses_audio : ¬∀ (audio : AcAudioController) (channelId : UInt16)
    (index : SlotIndex) (stream : Nat) (frameSize : UInt16),
    Captures audio channelId index stream frameSize →
    ∀ requests : List AcTransportFrame, (∀ request ∈ requests,
      request.channelId = channelId ∧ request.commandId = acTransportAudioRead) →
    (readRequests requests).Ensures capturing { audio := audio }
      fun _ world => Recorded frameSize.toNat requests world := by
  intro hlossless
  have hensures := (hlossless capturingAudio 4 captureSlot 1 2 capturingAudio_captures [shortRequest]
    (by decide)).restrict fun _ _ _ _ => stalling_capturing
  obtain ⟨world, hhandled, hobtained, hpackets⟩ := stalling_request
  have hrun : (readRequests [shortRequest]).run stalling { audio := capturingAudio } =
      (.done (), world.answer readFailed) := by
    rw [readRequests, Proc.run_bind_done stalling hhandled]
    rfl
  have hwhole := (hensures.of_run hrun).whole
  have hnothing : responsePayload readFailed = [] := responsePayload_error _ (by decide)
  rw [CaptureWorld.answer, hpackets, hobtained, List.nil_append, List.flatMap_singleton, hnothing] at hwhole
  cases hwhole

end AudioStudio.Playback
