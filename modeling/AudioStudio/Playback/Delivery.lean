import AudioStudio.Playback.Sink
import AudioStudio.Playback.Stream
import AudioStudio.Rpc.FrameStream
import AudioStudio.Rpc.JsonRoundTrip
import AudioStudio.Transport.Manager
import AudioStudio.Wire.TransportCodec

/-!
# Playback data from the client to SOF

A call of `writeFrames` cuts its data three times: into the client's chunks, into
transport payloads of whole frames, and into what fits the SOF buffer.  Only the
first cut does not look at the frame size.
-/

namespace AudioStudio.Playback

open AudioStudio.Common
open AudioStudio.Controller
open AudioStudio.Rpc
open AudioStudio.Simulator
open AudioStudio.Transport
open LittleEndian
open Wire

/-! ## The link -/

/-- The host's end of the link to a controller; an exchange beyond the list of
`outcomes` is delivered. -/
structure HostWorld (τ : Type) where
  sink : SinkWorld τ
  nextSequence : UInt32 := 1
  outcomes : List LinkOutcome := []

namespace HostWorld

variable {τ : Type}

def timedOut : Status := .unavailable "data-link read timed out"

/-- `sendSync` on the data channel: the controller decodes the request and its worker
runs the handler of the channel. -/
def sendSync (device : SofDevice τ) (call : SyncCall) (world : HostWorld τ) :
    Option (Result TransportFrame × HostWorld τ) :=
  let request := TransportManager.request call world.nextSequence
  let outcome := world.outcomes.headD .delivered
  let world := { world with
    nextSequence := world.nextSequence + 1, outcomes := world.outcomes.tail }
  match outcome, acTransportDecode (FrameCodec.encode request) with
  | .requestLost, _ | _, none => some (.error timedOut, world)
  | outcome, some received =>
      match (acAudioDataTransportHandler received).run (SinkWorld.handle device)
          { world.sink with reply := none } with
      | (.done _, sink) =>
          let response := match sink.reply with
            | none => .error timedOut
            | some packet => FrameCodec.decode packet
          some (if outcome = .responseLost then .error timedOut else response,
            { world with sink := sink })
      | _ => none

def handle (device : SofDevice τ) : Handler HostReply (HostWorld τ)
  | .sendSync channelId commandId payload timeoutMs, world =>
      world.sendSync device { channelId, commandId, payload, timeoutMs }
  | _, _ => none

/-- No exchange will be lost. -/
def Lossless (world : HostWorld τ) : Prop :=
  ∀ outcome ∈ world.outcomes, outcome = .delivered

end HostWorld

/-! ## One transport payload -/

section Delivery

variable {τ : Type} {device : SofDevice τ} {world world' world'' : HostWorld τ}
  {channelId : UInt16} {index : SlotIndex} {stream : Nat} {frameSize : UInt16}
  {data goal goal' : Bytes}

/-- From the first world to the second the stream takes `data` when `done`. -/
structure Delivers {τ : Type} (channelId : UInt16) (index : SlotIndex) (stream : Nat)
    (frameSize : UInt16) (goal : Bytes) (done : Prop) (world world' : HostWorld τ) : Prop where
  lossless : world.Lossless → world'.Lossless
  takes : ∃ data, Takes channelId index stream frameSize data world.sink world'.sink ∧
    (done → data = goal)

variable {done : Prop}

theorem Delivers.refl (hgoal : done → goal = []) :
    Delivers channelId index stream frameSize goal done world world where
  lossless := id
  takes := ⟨[], Takes.nothing rfl rfl, fun hdone => (hgoal hdone).symm⟩

variable {done' : Prop}

theorem Delivers.trans (hfirst : Delivers channelId index stream frameSize goal done world world')
    (hsecond : Delivers channelId index stream frameSize goal' done' world' world'') :
    Delivers channelId index stream frameSize (goal ++ goal') (done ∧ done') world world'' where
  lossless := fun hlossless => hsecond.lossless (hfirst.lossless hlossless)
  takes := by
    obtain ⟨data, htakes, hdata⟩ := hfirst.takes
    obtain ⟨data', htakes', hdata'⟩ := hsecond.takes
    exact ⟨data ++ data', htakes.trans htakes', fun hdone => by rw [hdata hdone.1, hdata' hdone.2]⟩

theorem Delivers.imp (himp : done' → done)
    (hdelivers : Delivers channelId index stream frameSize goal done world world') :
    Delivers channelId index stream frameSize goal done' world world' where
  lossless := hdelivers.lossless
  takes := by
    obtain ⟨data, htakes, hdata⟩ := hdelivers.takes
    exact ⟨data, htakes, fun hdone => hdata (himp hdone)⟩

theorem Delivers.plays
    (hdelivers : Delivers channelId index stream frameSize goal done world world')
    (hplays : Plays world.sink.audio channelId index stream frameSize) :
    Plays world'.sink.audio channelId index stream frameSize := by
  obtain ⟨data, htakes, _⟩ := hdelivers.takes
  exact htakes.plays hplays

variable {sink : SinkWorld τ}

theorem lossless_tail {next : UInt32} (hlossless : world.Lossless) :
    HostWorld.Lossless ⟨sink, next, world.outcomes.tail⟩ :=
  fun outcome houtcome => hlossless outcome (List.mem_of_mem_tail houtcome)

theorem lossless_head (hlossless : world.Lossless) :
    world.outcomes.headD .delivered = .delivered := by
  cases houtcomes : world.outcomes with
  | nil => rfl
  | cons outcome outcomes => exact hlossless outcome (houtcomes ▸ List.mem_cons_self)

variable {call : SyncCall}

/-- The request of a call as the controller decodes it. -/
theorem decode_request {sequence : UInt32} (hpayload : call.payload.length < 2 ^ 32) :
    acTransportDecode (FrameCodec.encode (TransportManager.request call sequence)) =
      some (TransportManager.request call sequence).view := by
  rw [acTransportDecode_eq, FrameCodec.decode_encode hpayload]
  rfl

/-- The answer to a write as the host takes it. -/
theorem decode_writeAnswer (request : AcTransportFrame) (ret : Int) :
    ∃ response, FrameCodec.decode (FrameCodec.encode (writeAnswer request ret)) = .ok response ∧
      ((transportPayloadStatus response "audio write failed").isOk ↔ ret = 0) := by
  have hpayload : (writeAnswer request ret).payload.length < 2 ^ 32 := by
    unfold writeAnswer
    split
    · exact (by decide : (asciiBytes "audio write failed").length < 2 ^ 32)
    · exact Nat.two_pow_pos 32
  refine ⟨_, FrameCodec.decode_encode hpayload, ?_⟩
  rw [transportPayloadStatus_isOk]
  unfold writeAnswer
  split
  · next hret =>
      exact iff_of_false (by decide : ¬ (acTransportFlagResponse ||| acTransportFlagAck |||
        acTransportFlagError) &&& kTransportFrameError = 0) hret
  · next hret =>
      exact iff_of_true (by decide : (acTransportFlagResponse ||| acTransportFlagAck ||| 0) &&&
        kTransportFrameError = 0) (not_not.mp hret)

/-- An exchange whose request arrives is answered by the data channel. -/
theorem sendSync_eq {value : Int} {packet : Bytes}
    (hpayload : call.payload.length < 2 ^ 32)
    (harrives : world.outcomes.headD .delivered ≠ .requestLost)
    (hhandler : (acAudioDataTransportHandler
      (TransportManager.request call world.nextSequence).view).run (SinkWorld.handle device)
        { world.sink with reply := none } = (.done value, sink))
    (hreply : sink.reply = some packet) :
    world.sendSync device call =
      some (if world.outcomes.headD .delivered = .responseLost then .error HostWorld.timedOut
          else FrameCodec.decode packet,
        ⟨sink, world.nextSequence + 1, world.outcomes.tail⟩) := by
  unfold HostWorld.sendSync
  dsimp only
  rw [decode_request hpayload]
  cases houtcome : world.outcomes.headD .delivered with
  | requestLost => exact absurd houtcome harrives
  | responseLost => simp only [hhandler, hreply]
  | delivered => simp only [hhandler, hreply]

/-- One exchange of `writeFrame`. -/
theorem exchange_meets (hplays : Plays world.sink.audio channelId index stream frameSize)
    {chunk : Bytes} (hchunk : chunk.length ≤ acTransportMaxPayload) (timeoutMs : UInt32) :
    (exchange channelId acTransportAudioWrite chunk timeoutMs "audio write failed").Meets
      (HostWorld.handle device) world fun response world' =>
        Delivers channelId index stream frameSize chunk response.isOk world world' ∧
        (WritesSucceed device channelId index stream frameSize → world.Lossless → chunk ≠ [] →
          chunk.length % frameSize.toNat = 0 → response.isOk) := by
  have hsmall : chunk.length < 2 ^ 32 := lt_of_le_of_lt hchunk (by decide)
  let call : SyncCall := { channelId, commandId := acTransportAudioWrite, payload := chunk, timeoutMs }
  let start : SinkWorld τ := { world.sink with reply := none }
  have hstart : Plays start.audio channelId index stream frameSize := hplays
  obtain ⟨ret, sink, hwrite, _, data, htakes, hdata⟩ := writeStream_meets device hstart chunk
  have hsucceeds : WritesSucceed device channelId index stream frameSize → chunk ≠ [] →
      chunk.length % frameSize.toNat = 0 → ret = 0 :=
    fun hwrites hne haligned => (hwrites start chunk hstart hne hchunk haligned).of_run hwrite
  have hresult : (acAudioWriteStream index (start.audio.streams index) chunk).Meets
      (SinkWorld.handle device) start fun ret' before => ret' = ret ∧ before = sink :=
    ⟨ret, sink, hwrite, rfl, rfl⟩
  obtain ⟨value, sink', hhandler, ret', before, ⟨rfl, rfl⟩, hsink'⟩ := dataHandler_meets hstart
    (TransportManager.request call world.nextSequence).view rfl rfl hresult
  obtain ⟨response, hresponse, hstatus⟩ :=
    decode_writeAnswer (TransportManager.request call world.nextSequence).view ret'
  have htaken : Takes channelId index stream frameSize data world.sink sink' := by
    rw [hsink']
    exact ⟨htakes.plays, htakes.writes⟩
  unfold exchange
  cases houtcome : world.outcomes.headD .delivered with
  | requestLost =>
      have hreply : HostWorld.handle device (.sendSync channelId acTransportAudioWrite chunk timeoutMs)
          world = some (.error HostWorld.timedOut, { world with
            nextSequence := world.nextSequence + 1, outcomes := world.outcomes.tail }) := by
        simp only [HostWorld.handle, HostWorld.sendSync, houtcome]
      refine Proc.meets_request_bind hreply (Proc.meets_done ⟨⟨lossless_tail, [], ?_, nofun⟩, ?_⟩)
      · exact Takes.nothing rfl rfl
      · intro _ hlossless
        rw [lossless_head hlossless] at houtcome
        cases houtcome
  | responseLost =>
      have hreply : HostWorld.handle device (.sendSync channelId acTransportAudioWrite chunk timeoutMs)
          world = some (.error HostWorld.timedOut,
            ⟨sink', world.nextSequence + 1, world.outcomes.tail⟩) := by
        refine (sendSync_eq hsmall (by rw [houtcome]; nofun) hhandler
          (congrArg SinkWorld.reply hsink')).trans ?_
        rw [houtcome, if_pos rfl]
      refine Proc.meets_request_bind hreply (Proc.meets_done ⟨⟨lossless_tail, data, htaken, nofun⟩, ?_⟩)
      intro _ hlossless
      rw [lossless_head hlossless] at houtcome
      cases houtcome
  | delivered =>
      have hreply : HostWorld.handle device (.sendSync channelId acTransportAudioWrite chunk timeoutMs)
          world = some (.ok response, ⟨sink', world.nextSequence + 1, world.outcomes.tail⟩) := by
        refine (sendSync_eq hsmall (by rw [houtcome]; nofun) hhandler
          (congrArg SinkWorld.reply hsink')).trans ?_
        rw [houtcome, if_neg nofun, hresponse]
      refine Proc.meets_request_bind hreply ?_
      dsimp only
      cases hpayload : transportPayloadStatus response "audio write failed" with
      | error status =>
          rw [hpayload] at hstatus
          refine Proc.meets_done ⟨⟨lossless_tail, data, htaken, nofun⟩, ?_⟩
          intro hwrites _ hne haligned
          exact hstatus.mpr (hsucceeds hwrites hne haligned)
      | ok done =>
          rw [hpayload] at hstatus
          exact Proc.meets_done ⟨⟨lossless_tail, data, htaken, fun _ => hdata (hstatus.mp rfl)⟩,
            fun _ _ _ _ => rfl⟩

/-! ## One frame of the device -/

variable {size count : Nat}

/-- The front of whole frames, cut at a whole number of frames, is whole frames. -/
theorem take_aligned {data : Bytes} (hcount : size ∣ count) (hdata : data.length % size = 0) :
    (data.take count).length % size = 0 := by
  rw [List.length_take]
  rcases Nat.le_total count data.length with hle | hle
  · rw [Nat.min_eq_left hle]
    exact Nat.mod_eq_zero_of_dvd hcount
  · rwa [Nat.min_eq_right hle]

theorem drop_aligned {data : Bytes} (hcount : size ∣ count) (hdata : data.length % size = 0) :
    (data.drop count).length % size = 0 := by
  rw [List.length_drop]
  exact Nat.mod_eq_zero_of_dvd (Nat.dvd_sub (Nat.dvd_of_mod_eq_zero hdata) hcount)

theorem take_ne_nil {data : Bytes} (hcount : 0 < count) (hdata : data ≠ []) :
    data.take count ≠ [] := by
  rw [Ne, List.take_eq_nil_iff]
  rintro (hzero | hnil)
  · exact hcount.ne' hzero
  · exact hdata hnil

variable {session : SimulatorAudioSession}

/-- The loop of `writeFrame`, by induction on what is left of the frame. -/
theorem writeChunks_meets
    (hplays : Plays world.sink.audio session.dataChannelId index stream frameSize)
    {maxPayload : Nat} (hmax : 0 < maxPayload) (hle : maxPayload ≤ acTransportMaxPayload)
    (hframes : frameSize.toNat ∣ maxPayload) (timeoutMs : UInt32) (frame : Bytes) :
    (session.writeChunks maxPayload hmax timeoutMs frame).Meets (HostWorld.handle device) world
      fun status world' =>
        Delivers session.dataChannelId index stream frameSize frame status.isOk world world' ∧
        (WritesSucceed device session.dataChannelId index stream frameSize → world.Lossless →
          frame.length % frameSize.toNat = 0 → status.isOk) := by
  induction hlength : frame.length using Nat.strong_induction_on generalizing frame world with
  | _ length ih =>
      subst hlength
      rw [SimulatorAudioSession.writeChunks]
      split
      · next hnil =>
          exact Proc.meets_done ⟨Delivers.refl fun _ => hnil, fun _ _ _ => rfl⟩
      · next hne =>
          have hchunk : (frame.take maxPayload).length ≤ acTransportMaxPayload :=
            (List.length_take_le _ _).trans hle
          refine (exchange_meets hplays hchunk _).bind ?_
          rintro response world' ⟨hdelivers, hsucceeds⟩
          cases response with
          | error status =>
              refine Proc.meets_done ⟨⟨hdelivers.lossless, ?_⟩, ?_⟩
              · obtain ⟨data, htakes, _⟩ := hdelivers.takes
                exact ⟨data, htakes, nofun⟩
              · intro hwrites hlossless haligned
                exact hsucceeds hwrites hlossless (take_ne_nil hmax hne) (take_aligned hframes haligned)
          | ok response =>
              have hshorter : (frame.drop maxPayload).length < frame.length := by
                have hpos : 0 < frame.length := List.length_pos_iff.mpr hne
                rw [List.length_drop]
                omega
              refine (ih _ hshorter (hdelivers.plays hplays) _ rfl).mono ?_
              rintro status world'' ⟨hdelivers', hsucceeds'⟩
              refine ⟨?_, fun hwrites hlossless haligned =>
                hsucceeds' hwrites (hdelivers.lossless hlossless)
                  (drop_aligned hframes haligned)⟩
              have hboth := hdelivers.trans hdelivers'
              rw [List.take_append_drop] at hboth
              exact hboth.imp fun hok => ⟨rfl, hok⟩

/-- A session that plays the stream: it has been prepared and started. -/
structure Playing (session : SimulatorAudioSession) (frameSize : UInt16) : Prop where
  running : session.running = true
  hasManager : session.hasManager = true
  direction : session.direction = acTransportAudioDirectionPlayback
  frameBytes : session.frameBytes = frameSize.toNat
  fits : frameSize.toNat ≤ acTransportMaxPayload

/-- `writeFrame` succeeds on whole frames only. -/
theorem writeFrame_meets (hplaying : Playing session frameSize)
    (hplays : Plays world.sink.audio session.dataChannelId index stream frameSize) {frame : Bytes}
    (hne : frame ≠ []) (timeoutMs : UInt32) :
    (session.writeFrame frame timeoutMs).Meets (HostWorld.handle device) world
      fun result world' =>
        Playing result.2 frameSize ∧ result.2.dataChannelId = session.dataChannelId ∧
        Delivers session.dataChannelId index stream frameSize frame result.1.isOk world world' ∧
        (result.1.isOk → frame.length % frameSize.toNat = 0) ∧
        (WritesSucceed device session.dataChannelId index stream frameSize → world.Lossless →
          frame.length % frameSize.toNat = 0 → result.1.isOk) := by
  have hpos : 0 < frameSize.toNat :=
    Nat.pos_of_ne_zero fun hzero => hplays.pos (UInt16.toNat_inj.mp hzero)
  unfold SimulatorAudioSession.writeFrame
  rw [if_neg (by simp [hplaying.running, hplaying.hasManager]),
    if_neg (by simp [hplaying.direction]), if_neg hne, hplaying.frameBytes]
  split
  · next hunaligned =>
      have hrest : frame.length % frameSize.toNat ≠ 0 := by omega
      exact Proc.meets_done ⟨hplaying, rfl, Delivers.refl nofun, nofun,
        fun _ _ haligned => absurd haligned hrest⟩
  · next haligned =>
      have haligned : frame.length % frameSize.toNat = 0 := by omega
      have hpayload : 0 < acTransportMaxPayload / frameSize.toNat * frameSize.toNat :=
        Nat.mul_pos (Nat.div_pos hplaying.fits hpos) hpos
      dsimp only
      rw [dif_neg hpayload.ne']
      refine (writeChunks_meets hplays hpayload (Nat.div_mul_le_self _ _) (Nat.dvd_mul_left _ _)
        timeoutMs frame).bind ?_
      rintro status world' ⟨hdelivers, hsucceeds⟩
      cases status with
      | error status =>
          exact Proc.meets_done ⟨hplaying, rfl, hdelivers, fun _ => haligned, hsucceeds⟩
      | ok done =>
          exact Proc.meets_done ⟨⟨hplaying.running, hplaying.hasManager, hplaying.direction,
            rfl, hplaying.fits⟩, rfl, hdelivers, fun _ => haligned, hsucceeds⟩

end Delivery

end AudioStudio.Playback
