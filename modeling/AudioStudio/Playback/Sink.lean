import AudioStudio.Controller.Audio
import AudioStudio.Wire.TransportCodec
import AudioStudio.Core.Ensures

/-!
# Writes to a SOF stream

The write loop of the controller over an arbitrary SOF stream: what the stream has
taken when the loop ends.
-/

namespace AudioStudio.Playback

open AudioStudio.Controller
open LittleEndian
open Wire

/-- A SOF playback stream with a state of its own; `write` returns how many bytes it
takes, or `none` for a negative code. -/
structure SofDevice (τ : Type) where
  freeSize : Nat → τ → Int × τ
  pollPosition : Nat → τ → Int × τ
  write : Nat → Bytes → τ → Option Nat × τ

/-- One call of `sof_stream_write`: what it was handed, and how much of it it took. -/
structure SofWrite where
  stream : Nat
  data : Bytes
  taken : Nat
  deriving DecidableEq, Repr

/-- The bytes that a series of writes handed over. -/
def handedBytes (writes : List SofWrite) : Bytes := writes.flatMap (·.data)

/-- The bytes that a series of writes took. -/
def takenBytes (writes : List SofWrite) : Bytes :=
  writes.flatMap fun write => write.data.take write.taken

theorem takenBytes_append (first second : List SofWrite) :
    takenBytes (first ++ second) = takenBytes first ++ takenBytes second :=
  List.flatMap_append

/-- Nothing is handed over twice when all that is handed over is taken. -/
theorem handedBytes_eq {writes : List SofWrite}
    (hwhole : ∀ write ∈ writes, write.taken = write.data.length) :
    handedBytes writes = takenBytes writes := by
  induction writes with
  | nil => rfl
  | cons write writes ih =>
      have hfirst : write.data.take write.taken = write.data := by
        rw [hwhole write List.mem_cons_self, List.take_length]
      have hrest := ih fun other hother => hwhole other (List.mem_cons_of_mem write hother)
      unfold handedBytes takenBytes at hrest ⊢
      rw [List.flatMap_cons, List.flatMap_cons, hfirst, hrest]

/-- The controller while a stream plays: its slots, the SOF stream, the writes so far
and the packet that it answered last. -/
structure SinkWorld (τ : Type) where
  audio : AcAudioController
  sof : τ
  writes : List SofWrite := []
  reply : Option Bytes := none

namespace SinkWorld

variable {τ : Type}

def handle (device : SofDevice τ) : Handler ControllerReply (SinkWorld τ)
  | .streams, world => some (world.audio, world)
  | .modifySlot index change, world =>
      some ((), { world with audio := world.audio.modify index change })
  | .sleepMs _, world => some ((), world)
  | .sendPacket packet _, world => some (0, { world with reply := some packet })
  | .sofStreamPollPosition stream, world =>
      let result := device.pollPosition stream world.sof
      some (result.1, { world with sof := result.2 })
  | .sofStreamGetFreeSize stream, world =>
      let result := device.freeSize stream world.sof
      some (result.1, { world with sof := result.2 })
  | .sofStreamWrite stream data, world =>
      let result := device.write stream data world.sof
      some (result.1, { world with
        sof := result.2
        writes := world.writes ++ [⟨stream, data, result.1.getD 0⟩] })
  | _, _ => none

end SinkWorld

/-! ## A playing slot -/

/-- The slot behind a data channel plays a stream in frames of a size. -/
structure Plays (audio : AcAudioController) (channelId : UInt16) (index : SlotIndex)
    (stream : Nat) (frameSize : UInt16) : Prop where
  found : acAudioFindStreamByChannel audio channelId = some index
  stream : (audio.streams index).stream = some stream
  running : (audio.streams index).running = true
  direction : (audio.streams index).direction = acTransportAudioDirectionPlayback
  frameBytes : (audio.streams index).frameBytes = frameSize
  pos : frameSize ≠ 0

/-- From the first world to the second the slot goes on playing and its stream takes
`data`. -/
structure Takes {τ : Type} (channelId : UInt16) (index : SlotIndex) (stream : Nat)
    (frameSize : UInt16) (data : Bytes) (world world' : SinkWorld τ) : Prop where
  plays : Plays world.audio channelId index stream frameSize →
    Plays world'.audio channelId index stream frameSize
  writes : ∃ writes, world'.writes = world.writes ++ writes ∧
    (∀ write ∈ writes, write.stream = stream) ∧ takenBytes writes = data

section Playing

variable {τ : Type} {device : SofDevice τ} {world world' world'' : SinkWorld τ}
  {audio : AcAudioController} {channelId : UInt16} {index : SlotIndex} {stream : Nat}
  {frameSize : UInt16} {data data' : Bytes}

/-- Counting frames does not disturb a playing slot. -/
theorem Plays.count (hplays : Plays audio channelId index stream frameSize) (frames : Nat) :
    Plays (audio.modify index fun slot => { slot with framesWritten := slot.framesWritten + frames })
      channelId index stream frameSize where
  found := by
    rw [← hplays.found]
    unfold acAudioFindStreamByChannel AcAudioController.find
    refine congrArg (fun wanted => List.find? wanted _) (funext fun other => ?_)
    by_cases hother : other = index
    · subst hother
      simp [AcAudioController.modify]
    · simp [AcAudioController.modify, hother]
  stream := by simpa [AcAudioController.modify] using hplays.stream
  running := by simpa [AcAudioController.modify] using hplays.running
  direction := by simpa [AcAudioController.modify] using hplays.direction
  frameBytes := by simpa [AcAudioController.modify] using hplays.frameBytes
  pos := hplays.pos

theorem Takes.nothing (haudio : world'.audio = world.audio) (hwrites : world'.writes = world.writes) :
    Takes channelId index stream frameSize [] world world' where
  plays := fun hplays => haudio ▸ hplays
  writes := ⟨[], by rw [hwrites, List.append_nil], nofun, rfl⟩

theorem Takes.trans (hfirst : Takes channelId index stream frameSize data world world')
    (hsecond : Takes channelId index stream frameSize data' world' world'') :
    Takes channelId index stream frameSize (data ++ data') world world'' where
  plays := fun hplays => hsecond.plays (hfirst.plays hplays)
  writes := by
    obtain ⟨writes, hwrites, hstream, htaken⟩ := hfirst.writes
    obtain ⟨writes', hwrites', hstream', htaken'⟩ := hsecond.writes
    refine ⟨writes ++ writes', by rw [hwrites', hwrites, List.append_assoc], ?_, ?_⟩
    · intro write hwrite
      rcases List.mem_append.mp hwrite with hold | hnew
      · exact hstream write hold
      · exact hstream' write hnew
    · rw [takenBytes_append, htaken, htaken']

/-! ## The write loop -/

/-- What a round has taken off the front of what remains of the payload. -/
def RoundTook (rest : Bytes) : StreamRound → Bytes → Prop
  | .fail, _ => True
  | .wait, data => data = []
  | .advance count _ _, data => data = rest.take count ∧ count ≤ rest.length

theorem writeRound_meets (channelId : UInt16) (payload : Bytes) (remaining : Nat) (hremaining : remaining ≤ payload.length) :
    (acAudioWriteRound index stream frameSize.toNat payload remaining).Meets
      (SinkWorld.handle device) world fun round world' => world'.reply = world.reply ∧
        ∃ data, Takes channelId index stream frameSize data world world' ∧
          RoundTook (payload.drop (payload.length - remaining)) round data := by
  unfold acAudioWriteRound
  refine Proc.meets_request_bind rfl ?_
  dsimp only
  generalize hwriteSize : wholeFrames (min remaining _) frameSize.toNat = writeSize
  have hsize : writeSize ≤ remaining := by
    rw [← hwriteSize]
    exact (Nat.div_mul_le_self _ _).trans (Nat.min_le_left _ _)
  split
  · exact Proc.meets_done ⟨rfl, [], Takes.nothing rfl rfl, rfl⟩
  · refine Proc.meets_request_bind rfl ?_
    dsimp only
    generalize hcurrent : payload.drop (payload.length - remaining) = current
    have hlength : current.length = remaining := by
      rw [← hcurrent, List.length_drop]
      omega
    generalize hanswer : device.write stream (current.take writeSize) _ = answer
    obtain ⟨ret, sof⟩ := answer
    -- the world behind the call of `sof_stream_write`
    have htakes : ∀ taken : Nat, ret.getD 0 = taken → taken ≤ writeSize →
        Takes channelId index stream frameSize (current.take taken) world
          { world with
            sof := sof
            writes := world.writes ++ [⟨stream, current.take writeSize, ret.getD 0⟩] } := by
      intro taken htaken hle
      refine ⟨id, [⟨stream, current.take writeSize, ret.getD 0⟩], rfl, by simp, ?_⟩
      simp [takenBytes, htaken, List.take_take, Nat.min_eq_left hle]
    cases ret with
    | none =>
        exact Proc.meets_done ⟨rfl, _, htakes 0 rfl (Nat.zero_le _), trivial⟩
    | some ret =>
        dsimp only
        split
        · next hmore =>
            refine Proc.meets_done ⟨rfl, takenBytes [⟨stream, current.take writeSize, ret⟩], ?_, trivial⟩
            exact ⟨id, _, rfl, by simp, rfl⟩
        · next hle =>
            have hle : ret ≤ writeSize := Nat.not_lt.mp hle
            split
            · next hzero =>
                subst hzero
                exact Proc.meets_done ⟨rfl, _, htakes 0 rfl hle, List.take_zero⟩
            · next hpos =>
                split
                · exact Proc.meets_done ⟨rfl, _, htakes ret rfl hle, trivial⟩
                · refine Proc.meets_request_bind rfl (Proc.meets_done ⟨rfl, _, ?_, rfl, ?_⟩)
                  · exact ⟨fun hplays => hplays.count _, (htakes ret rfl hle).writes⟩
                  · omega

theorem waitProgress_meets (channelId : UInt16) (index : SlotIndex) (frameSize : UInt16) : (acAudioWaitStreamProgress stream).Meets
    (SinkWorld.handle device) world fun _ world' => world'.reply = world.reply ∧
      Takes channelId index stream frameSize [] world world' := by
  unfold acAudioWaitStreamProgress
  refine Proc.meets_request_bind rfl ?_
  split
  · exact Proc.meets_done ⟨rfl, Takes.nothing rfl rfl⟩
  · exact Proc.meets_request_bind rfl (Proc.meets_done ⟨rfl, Takes.nothing rfl rfl⟩)

/-- What a transfer that starts in any world comes to. -/
def TransferMeets {τ : Type} (device : SofDevice τ) (channelId : UInt16) (index : SlotIndex)
    (stream : Nat) (frameSize : UInt16) (payload : Bytes) (remaining : Nat) (transferred : Bytes)
    (retriesLeft : Nat) (world : SinkWorld τ) : Prop :=
  (acAudioTransfer stream (acAudioWriteRound index stream frameSize.toNat payload) remaining
    transferred retriesLeft).Meets (SinkWorld.handle device) world fun result world' =>
      world'.reply = world.reply ∧ ∃ data,
        Takes channelId index stream frameSize data world world' ∧
        (result.isSome → data = payload.drop (payload.length - remaining))

/-- One round of a transfer, given what the rest of it comes to. -/
theorem transfer_round {payload : Bytes} {remaining : Nat} (hremaining : remaining ≤ payload.length)
    {transferred : Bytes} {retriesLeft : Nat}
    (hadvance : ∀ less < remaining, less ≤ payload.length → ∀ transferred retriesLeft world,
      TransferMeets device channelId index stream frameSize payload less transferred retriesLeft world)
    (hwait : ∀ left, retriesLeft = left + 1 → ∀ world,
      TransferMeets device channelId index stream frameSize payload remaining transferred left world) :
    TransferMeets device channelId index stream frameSize payload remaining transferred
      retriesLeft world := by
  unfold TransferMeets
  rw [acAudioTransfer.eq_def]
  split
  · next hzero =>
      subst hzero
      exact Proc.meets_done ⟨rfl, [], Takes.nothing rfl rfl, fun _ => by simp⟩
  · next hpos =>
      refine (writeRound_meets channelId payload remaining hremaining).bind ?_
      rintro round world' ⟨hreply, data, htakes, htook⟩
      cases round with
      | fail => exact Proc.meets_done ⟨hreply, data, htakes, nofun⟩
      | wait =>
          obtain rfl : data = [] := htook
          cases retriesLeft with
          | zero => exact Proc.meets_done ⟨hreply, [], htakes, nofun⟩
          | succ left =>
              refine (waitProgress_meets channelId index frameSize).bind ?_
              rintro ret world'' ⟨hreply', htakes'⟩
              have hwaited := htakes.trans htakes'
              split
              · exact Proc.meets_done ⟨hreply'.trans hreply, _, hwaited, nofun⟩
              · refine (hwait left rfl world'').mono ?_
                rintro result last ⟨hreply'', rest, htakes'', hrest⟩
                exact ⟨hreply''.trans (hreply'.trans hreply), rest, hwaited.trans htakes'', hrest⟩
      | advance count moved hcount =>
          obtain ⟨rfl, hcountle⟩ := htook
          rw [List.length_drop] at hcountle
          refine (hadvance (remaining - count) (by omega) (by omega) _ _ world').mono ?_
          rintro result world'' ⟨hreply', rest, htakes', hrest⟩
          refine ⟨hreply'.trans hreply, _, htakes.trans htakes', fun hsome => ?_⟩
          rw [hrest hsome, show payload.length - (remaining - count) =
            payload.length - remaining + count by omega, ← List.drop_drop, List.take_append_drop]

/-- A transfer that succeeds has moved all that remained.  The induction is on what
remains, and within it on the retries. -/
theorem transfer_meets (channelId : UInt16) (payload : Bytes) (remaining : Nat) (hremaining : remaining ≤ payload.length)
    (transferred : Bytes) (retriesLeft : Nat) :
    TransferMeets device channelId index stream frameSize payload remaining transferred
      retriesLeft world := by
  induction remaining using Nat.strong_induction_on generalizing transferred retriesLeft world with
  | _ remaining ihRemaining =>
      have hadvance : ∀ less < remaining, less ≤ payload.length →
          ∀ transferred retriesLeft world,
          TransferMeets device channelId index stream frameSize payload less transferred
            retriesLeft world :=
        fun less hless hle transferred retriesLeft _ => ihRemaining less hless hle transferred retriesLeft
      induction retriesLeft generalizing world with
      | zero => exact transfer_round hremaining hadvance nofun
      | succ retriesLeft ihRetries =>
          exact transfer_round hremaining hadvance fun left hleft _ => Nat.succ.inj hleft ▸ ihRetries

theorem writeStream_meets (device : SofDevice τ) (hplays : Plays world.audio channelId index stream frameSize)
    (payload : Bytes) :
    (acAudioWriteStream index (world.audio.streams index) payload).Meets
      (SinkWorld.handle device) world fun ret world' => world'.reply = world.reply ∧
        ∃ data, Takes channelId index stream frameSize data world world' ∧
          (ret = 0 → data = payload) := by
  have hfailed : (Proc.done (-1) : ControllerProc Int).Meets (SinkWorld.handle device) world
      fun ret world' => world'.reply = world.reply ∧
        ∃ data, Takes channelId index stream frameSize data world world' ∧
          (ret = 0 → data = payload) :=
    Proc.meets_done ⟨rfl, [], Takes.nothing rfl rfl, nofun⟩
  unfold acAudioWriteStream
  rw [hplays.stream]
  dsimp only
  split
  · exact hfailed
  · split
    · exact hfailed
    · split
      · exact hfailed
      · rw [hplays.frameBytes]
        refine (transfer_meets channelId payload payload.length le_rfl [] _).bind ?_
        rintro result world' ⟨hreply, data, htakes, hdata⟩
        refine Proc.meets_done ⟨hreply, data, htakes, fun hret => ?_⟩
        cases result with
        | none => cases hret
        | some result => simpa using hdata rfl

/-! ## The data channel -/

/-- The answer to a WRITE request. -/
def writeAnswer (request : AcTransportFrame) (ret : Int) : TransportFrame :=
  if ret ≠ 0 then
    request.hostFrame (acTransportFlagResponse ||| acTransportFlagAck ||| acTransportFlagError)
      (asciiBytes "audio write failed")
  else request.hostFrame (acTransportFlagResponse ||| acTransportFlagAck ||| 0) []

theorem sendResponse_meets (request : AcTransportFrame) (extraFlags : UInt32) {payload : Bytes}
    (hpayload : payload.length ≤ acTransportMaxPayload) :
    (acTransportSendResponse request extraFlags payload).Meets (SinkWorld.handle device) world
      fun _ world' => world' = { world with reply := some (FrameCodec.encode
        (request.hostFrame (acTransportFlagResponse ||| acTransportFlagAck ||| extraFlags) payload)) } := by
  rw [acTransportSendResponse_eq request extraFlags hpayload]
  exact ⟨0, _, rfl, rfl⟩

/-- The data channel answers a WRITE request by what its write returned. -/
theorem dataHandler_meets (hplays : Plays world.audio channelId index stream frameSize)
    (request : AcTransportFrame) (hchannel : request.channelId = channelId)
    (hcommand : request.commandId = acTransportAudioWrite) {post : Int → SinkWorld τ → Prop}
    (hwrite : (acAudioWriteStream index (world.audio.streams index) request.payload).Meets
      (SinkWorld.handle device) world post) :
    (acAudioDataTransportHandler request).Meets (SinkWorld.handle device) world
      fun _ world' => ∃ ret before, post ret before ∧
        world' = { before with reply := some (FrameCodec.encode (writeAnswer request ret)) } := by
  unfold acAudioDataTransportHandler
  refine Proc.meets_request_bind rfl ?_
  dsimp only
  rw [hchannel, hplays.found]
  dsimp only
  rw [if_pos hcommand]
  refine hwrite.bind ?_
  intro ret before hpost
  unfold writeAnswer
  split
  · exact (sendResponse_meets request acTransportFlagError (by decide)).mono
      fun _ world' hworld' => ⟨ret, before, hpost, by rw [if_pos ‹_›]; exact hworld'⟩
  · exact (sendResponse_meets request 0 (Nat.zero_le _)).mono
      fun _ world' hworld' => ⟨ret, before, hpost, by rw [if_neg ‹_›]; exact hworld'⟩

end Playing

/-! ## Writes that succeed -/

/-- The controller's writes of whole frames succeed while the slot plays. -/
def WritesSucceed {τ : Type} (device : SofDevice τ) (channelId : UInt16) (index : SlotIndex)
    (stream : Nat) (frameSize : UInt16) : Prop :=
  ∀ (world : SinkWorld τ) (payload : Bytes),
    Plays world.audio channelId index stream frameSize → payload ≠ [] →
    payload.length ≤ acTransportMaxPayload → payload.length % frameSize.toNat = 0 →
    (acAudioWriteStream index (world.audio.streams index) payload).Meets
      (SinkWorld.handle device) world fun ret _ => ret = 0

/-- A SOF stream that always has room for a frame and takes whole frames. -/
structure SofDevice.Flows {τ : Type} (device : SofDevice τ) (frameSize : UInt16) : Prop where
  free : ∀ stream sof, (frameSize.toNat : Int) ≤ (device.freeSize stream sof).1
  write : ∀ stream data sof, data ≠ [] → data.length % frameSize.toNat = 0 →
    ∃ ret, (device.write stream data sof).1 = some ret ∧ 0 < ret ∧ ret ≤ data.length ∧
      ret % frameSize.toNat = 0

section Flowing

variable {τ : Type} {device : SofDevice τ} {world : SinkWorld τ} {index : SlotIndex}
  {stream : Nat} {frameSize : UInt16} {payload : Bytes}

/-- Such a stream takes some of what remains in every round. -/
theorem flowing_round (hflows : device.Flows frameSize) (hsize : frameSize ≠ 0) {remaining : Nat}
    (hpos : 0 < remaining) (hremaining : remaining ≤ payload.length)
    (hwhole : remaining % frameSize.toNat = 0) :
    (acAudioWriteRound index stream frameSize.toNat payload remaining).Meets
      (SinkWorld.handle device) world fun round _ => ∃ count data hcount,
        round = .advance count data hcount ∧ count ≤ remaining ∧ count % frameSize.toNat = 0 := by
  have hframe : 0 < frameSize.toNat :=
    Nat.pos_of_ne_zero fun hzero => hsize (UInt16.toNat_inj.mp hzero)
  have hone : frameSize.toNat ≤ remaining := Nat.le_of_dvd hpos (Nat.dvd_of_mod_eq_zero hwhole)
  have hfree := hflows.free stream world.sof
  unfold acAudioWriteRound
  refine Proc.meets_request_bind rfl ?_
  dsimp only
  generalize hwriteSize : wholeFrames (min remaining _) frameSize.toNat = writeSize
  have hwritePos : 0 < writeSize := by
    rw [← hwriteSize]
    exact Nat.mul_pos (Nat.div_pos (Nat.le_min.mpr ⟨hone, by omega⟩) hframe) hframe
  have hwriteLe : writeSize ≤ remaining := by
    rw [← hwriteSize]
    exact (Nat.div_mul_le_self _ _).trans (Nat.min_le_left _ _)
  have hwriteWhole : writeSize % frameSize.toNat = 0 := by
    rw [← hwriteSize]
    exact Nat.mul_mod_left _ _
  rw [if_neg (by omega)]
  refine Proc.meets_request_bind rfl ?_
  dsimp only
  have hlength : ((payload.drop (payload.length - remaining)).take writeSize).length = writeSize := by
    rw [List.length_take, List.length_drop]
    omega
  obtain ⟨ret, hret, hretPos, hretLe, hretWhole⟩ := hflows.write stream
    ((payload.drop (payload.length - remaining)).take writeSize)
    (device.freeSize stream world.sof).2 (List.ne_nil_of_length_pos (by omega)) (by rwa [hlength])
  rw [hret]
  dsimp only
  rw [hlength] at hretLe
  rw [if_neg (by omega), dif_neg hretPos.ne', if_neg (not_not.mpr hretWhole)]
  exact Proc.meets_request_bind rfl
    (Proc.meets_done ⟨ret, [], hretPos, rfl, hretLe.trans hwriteLe, hretWhole⟩)

theorem flowing_transfer (hflows : device.Flows frameSize) (hsize : frameSize ≠ 0) (remaining : Nat)
    (hremaining : remaining ≤ payload.length) (hwhole : remaining % frameSize.toNat = 0)
    (transferred : Bytes) (retriesLeft : Nat) :
    (acAudioTransfer stream (acAudioWriteRound index stream frameSize.toNat payload) remaining
      transferred retriesLeft).Meets (SinkWorld.handle device) world
        fun result _ => result.isSome = true := by
  induction remaining using Nat.strong_induction_on generalizing transferred retriesLeft world with
  | _ remaining ih =>
      rw [acAudioTransfer.eq_def]
      split
      · exact Proc.meets_done rfl
      · next hpos =>
          refine (flowing_round hflows hsize (Nat.pos_of_ne_zero hpos) hremaining hwhole).bind ?_
          rintro round world' ⟨count, data, hcount, rfl, hle, hcountWhole⟩
          exact ih (remaining - count) (by omega) (by omega)
            (Nat.mod_eq_zero_of_dvd (Nat.dvd_sub (Nat.dvd_of_mod_eq_zero hwhole)
              (Nat.dvd_of_mod_eq_zero hcountWhole))) _ _

theorem SofDevice.Flows.writesSucceed (hflows : device.Flows frameSize) (channelId : UInt16) :
    WritesSucceed device channelId index stream frameSize := by
  intro world payload hplays hne _ hwhole
  have hframe : frameSize.toNat ≠ 0 := fun hzero => hplays.pos (UInt16.toNat_inj.mp hzero)
  unfold acAudioWriteStream
  rw [hplays.stream]
  dsimp only
  rw [if_neg (by simp [hplays.running, hplays.direction]), if_neg (by simpa using hne),
    hplays.frameBytes, if_neg (by simp [hplays.pos, hwhole])]
  refine (flowing_transfer hflows hplays.pos _ le_rfl hwhole [] _).bind ?_
  intro result world' hsome
  exact Proc.meets_done (if_pos hsome)

end Flowing

end AudioStudio.Playback
