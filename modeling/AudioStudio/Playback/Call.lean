import AudioStudio.Playback.Acknowledge
import AudioStudio.Playback.Delivery
import AudioStudio.Rpc.FrameStream

/-!
# A call of `writeFrames`

The client's chunks are the only cut that does not look at the frame size: the call
succeeds if its data fits one chunk or its chunks are whole frames, and only then.
-/

namespace AudioStudio.Playback

open AudioStudio.Common
open AudioStudio.Controller
open AudioStudio.Rpc
open AudioStudio.Simulator
open LittleEndian

/-- The server with its sessions, and its link to the controller. -/
structure PlaybackSystem (τ : Type) where
  context : RpcRuntimeContext
  link : HostWorld τ

/-- The stream transport between client and server: what a side reads is the sealed
frame, unless it is too large for the reader. -/
def PlaybackSystem.handle {τ : Type} (device : SofDevice τ) :
    Handler (fun _ : RpcBinaryFrame => Except RpcReadError RpcBinaryFrame) (PlaybackSystem τ) :=
  fun frame system =>
    if frame.payload.length > maxBinaryPayload then some (.error .stream, system)
    else
      match (audioStreamWriteResponse system.context frame.sealed).run (HostWorld.handle device)
          system.link with
      | (.done (response, context), link) => some (.ok response.sealed, ⟨context, link⟩)
      | _ => none

/-- A session whose device plays the stream of a slot. -/
structure Streaming (session : AudioPlaybackSession) (channelId : UInt16) (frameSize : UInt16) :
    Prop where
  isOpen : session.closed = false
  running : session.running = true
  device : ∃ device, session.device = some device ∧ Playing device frameSize ∧
    device.dataChannelId = channelId

/-- A numeric session id leads to a playback session whose device plays the stream of
a slot. -/
structure Attached {τ : Type} (system : PlaybackSystem τ) (numericSessionId : UInt32)
    (channelId : UInt16) (index : SlotIndex) (stream : Nat) (frameSize : UInt16) : Prop where
  session : ∃ id session,
    system.context.sessionIdForNumeric numericSessionId = some id ∧
    system.context.audio.playbackSession id = some session ∧
    Streaming session channelId frameSize
  plays : Plays system.link.sink.audio channelId index stream frameSize

/-- The chunks of a call are whole frames, and small enough for a frame of the RPC
stream. -/
structure Fits (playback : PlaybackStream) (frameSize : UInt16) (data : Bytes) : Prop where
  aligned : data.length ≤ playback.maxChunk ∨ frameSize.toNat ∣ playback.maxChunk
  small : min data.length playback.maxChunk ≤ maxBinaryPayload

section Call

variable {τ : Type} {device : SofDevice τ} {system system' : PlaybackSystem τ}
  {numericSessionId : UInt32} {channelId : UInt16} {index : SlotIndex} {stream : Nat}
  {frameSize : UInt16} {playback : PlaybackStream} {data : Bytes}

/-! ## One chunk -/

variable {session : AudioPlaybackSession}

theorem playbackSession_id {service : AudioService} {id : String}
    (hfound : service.playbackSession id = some session) : session.id = id := by
  unfold AudioService.playbackSession at hfound
  simpa using List.find?_some hfound

theorem playbackSession_store {service : AudioService} {id : String}
    {session' : AudioPlaybackSession} (hfound : service.playbackSession id = some session)
    (hid : session'.id = session.id) :
    (service.store session').playbackSession id = some session' := by
  have hsession : session.id = id := playbackSession_id hfound
  unfold AudioService.playbackSession AudioService.store at *
  induction service with
  | nil => cases hfound
  | cons other service ih =>
      rw [List.map_cons]
      by_cases hother : other.id = id
      · rw [if_pos (by rw [hother, hid, hsession]), List.find?_cons_of_pos (by simp [hid, hsession])]
      · rw [List.find?_cons_of_neg (by simpa using hother)] at hfound
        rw [if_neg (by rw [hid, hsession]; exact hother), List.find?_cons_of_neg (by simpa using hother)]
        exact ih hfound

/-- What becomes of a chunk: it is taken as a whole if it is accepted, and whole
frames are accepted. -/
structure Chunk {τ : Type} (device : SofDevice τ) (channelId : UInt16) (index : SlotIndex)
    (stream : Nat) (frameSize : UInt16) (chunk : Bytes) (accepted : Prop)
    (link link' : HostWorld τ) : Prop where
  delivers : Delivers channelId index stream frameSize chunk accepted link link'
  aligned : accepted → chunk.length % frameSize.toNat = 0
  succeeds : WritesSucceed device channelId index stream frameSize → link.Lossless →
    chunk.length % frameSize.toNat = 0 → accepted

theorem session_writeFrames_meets {link : HostWorld τ}
    (hstreaming : Streaming session channelId frameSize)
    (hplays : Plays link.sink.audio channelId index stream frameSize) {chunk : Bytes}
    (hne : chunk ≠ []) (timeoutMs : UInt32) :
    (session.writeFrames chunk timeoutMs).Meets (HostWorld.handle device) link fun result link' =>
      Streaming result.2 channelId frameSize ∧ result.2.id = session.id ∧
      Chunk device channelId index stream frameSize chunk result.1.isOk link link' ∧
      ∀ accepted, result.1 = .ok accepted → accepted = chunk.length := by
  obtain ⟨hopen, hrunning, device', hdevice, hplaying, rfl⟩ := hstreaming
  unfold AudioPlaybackSession.writeFrames
  rw [hopen, hrunning, if_neg Bool.false_ne_true, if_neg (by decide), if_neg hne, hdevice]
  refine (writeFrame_meets hplaying hplays hne timeoutMs).bind ?_
  rintro ⟨status, device''⟩ link' ⟨hplaying', hchannel, hdelivers, haligned, hsucceeds⟩
  cases status with
  | error status =>
      exact Proc.meets_done ⟨⟨rfl, rfl, device'', rfl, hplaying', hchannel⟩, rfl,
        ⟨hdelivers, haligned, hsucceeds⟩, nofun⟩
  | ok done =>
      exact Proc.meets_done ⟨⟨rfl, rfl, device'', rfl, hplaying', hchannel⟩, rfl,
        ⟨hdelivers, haligned, hsucceeds⟩, fun _ haccepted => (Except.ok.inj haccepted).symm⟩

/-- What the stream handler answers to a chunk. -/
theorem streamWrite_meets (device : SofDevice τ)
    (hattached : Attached system numericSessionId channelId index stream frameSize)
    (request : RpcBinaryFrame) (hsession : request.header.sessionId = numericSessionId)
    (hne : request.payload ≠ []) :
    (audioStreamWriteResponse system.context request).Meets (HostWorld.handle device) system.link
      fun result link' => Attached ⟨result.2, link'⟩ numericSessionId channelId index stream frameSize ∧
        ∃ accepted : Bool,
          Chunk device channelId index stream frameSize request.payload accepted system.link link' ∧
          (accepted → result.1 = answerFrame request .kStreamAck
            (ackPayload request request.payload.length)) ∧
          (accepted = false → ∃ message, result.1 = errorFrame request message) := by
  obtain ⟨⟨id, session, hid, hfound, hstreaming⟩, hplays⟩ := hattached
  unfold audioStreamWriteResponse
  rw [hsession, hid]
  unfold AudioService.writeFrames
  dsimp only
  rw [hfound, Proc.bind_assoc]
  refine (session_writeFrames_meets hstreaming hplays hne _).bind ?_
  rintro ⟨accepted, session'⟩ link' ⟨hstreaming', hid', hchunk, hlength⟩
  have hattached' : Attached ⟨{ system.context with audio := system.context.audio.store session' }, link'⟩
      numericSessionId channelId index stream frameSize :=
    ⟨⟨id, session', hid, playbackSession_store hfound hid', hstreaming'⟩,
      hchunk.delivers.plays hplays⟩
  cases accepted with
  | error status =>
      exact Proc.meets_done ⟨hattached', false, hchunk, nofun, fun _ => ⟨_, rfl⟩⟩
  | ok accepted =>
      obtain rfl := hlength accepted rfl
      exact Proc.meets_done ⟨hattached', true, hchunk, fun _ => rfl, nofun⟩

/-- One exchange of the client. -/
theorem exchange_chunk (device : SofDevice τ)
    (hattached : Attached system playback.numericSessionId channelId index stream frameSize)
    (sequence : UInt32) {chunk : Bytes} (hne : chunk ≠ []) (hsmall : chunk.length ≤ maxBinaryPayload) :
    ∃ response system', PlaybackSystem.handle device (playback.writeRequest sequence chunk) system =
        some (.ok response, system') ∧
      Attached system' playback.numericSessionId channelId index stream frameSize ∧
      ∃ accepted : Bool,
        Chunk device channelId index stream frameSize chunk accepted system.link system'.link ∧
        (accepted → ∃ ack, parseWriteAck response = .ok ack ∧ ack.accepted = true ∧
          ack.bytes = chunk.length) ∧
        (accepted = false → ∃ error, parseWriteAck response = .error error) := by
  obtain ⟨⟨response, context⟩, link, hrun, hattached', accepted, hchunk, hack, herror⟩ :=
    streamWrite_meets device hattached (playback.writeRequest sequence chunk).sealed rfl hne
  have hpayload : ¬ (playback.writeRequest sequence chunk).payload.length > maxBinaryPayload :=
    Nat.not_lt.mpr hsmall
  refine ⟨response.sealed, ⟨context, link⟩, ?_, hattached', accepted, hchunk, ?_, ?_⟩
  · unfold PlaybackSystem.handle
    rw [if_neg hpayload, hrun]
  · intro haccepted
    have hbytes : chunk.length < 2 ^ 32 := lt_of_le_of_lt hsmall (by decide)
    refine ⟨⟨true, chunk.length, 0, 1048576⟩, ?_, rfl, rfl⟩
    rw [show response = _ from hack haccepted]
    exact parseWriteAck_answer hbytes
  · intro hrefused
    obtain ⟨message, hmessage⟩ := herror hrefused
    rw [show response = _ from hmessage]
    exact parseWriteAck_error message

/-! ## The cut of the client -/

theorem maxChunk_pos (playback : PlaybackStream) : 0 < playback.maxChunk :=
  Nat.le_max_left 1 _

/-- A chunk that is whole frames and small enough is the first of a call that fits. -/
theorem Fits.of_chunk (hsmall : (data.take playback.maxChunk).length ≤ maxBinaryPayload)
    (haligned : (data.take playback.maxChunk).length % frameSize.toNat = 0) :
    Fits playback frameSize data where
  aligned := by
    rw [List.length_take] at haligned
    rcases Nat.le_total data.length playback.maxChunk with hle | hle
    · exact Or.inl hle
    · rw [Nat.min_eq_left hle] at haligned
      exact Or.inr (Nat.dvd_of_mod_eq_zero haligned)
  small := by
    rwa [List.length_take, Nat.min_comm] at hsmall

theorem Fits.chunk (hfits : Fits playback frameSize data)
    (hwhole : data.length % frameSize.toNat = 0) :
    (data.take playback.maxChunk).length ≤ maxBinaryPayload ∧
      (data.take playback.maxChunk).length % frameSize.toNat = 0 := by
  refine ⟨?_, ?_⟩
  · rw [List.length_take, Nat.min_comm]
    exact hfits.small
  · rcases hfits.aligned with hle | hdvd
    · rwa [List.take_of_length_le hle]
    · exact take_aligned hdvd hwhole

theorem Fits.rest (hfits : Fits playback frameSize data)
    (hwhole : data.length % frameSize.toNat = 0) :
    Fits playback frameSize (data.drop playback.maxChunk) ∧
      (data.drop playback.maxChunk).length % frameSize.toNat = 0 := by
  have hless : (data.drop playback.maxChunk).length ≤ data.length := by
    rw [List.length_drop]
    exact Nat.sub_le _ _
  refine ⟨⟨?_, (min_le_min_right _ hless).trans hfits.small⟩, ?_⟩
  · exact hfits.aligned.imp hless.trans id
  · rcases hfits.aligned with hle | hdvd
    · rw [List.drop_of_length_le hle]
      exact Nat.zero_mod _
    · exact drop_aligned hdvd hwhole

/-- The client's loop, by induction on what is left of the data. -/
theorem writeFrom_meets
    (hattached : Attached system playback.numericSessionId channelId index stream frameSize)
    (sequence : UInt32) (total : AudioWriteResult) (data : Bytes) :
    (playback.writeFrom sequence total data).Meets (PlaybackSystem.handle device) system
      fun result system' =>
        Delivers channelId index stream frameSize data result.1.isOk system.link system'.link ∧
        (∀ total', result.1 = .ok total' → total'.bytes = total.bytes + data.length) ∧
        (result.1.isOk → Fits playback frameSize data) ∧
        (WritesSucceed device channelId index stream frameSize → system.link.Lossless →
          data.length % frameSize.toNat = 0 → Fits playback frameSize data → result.1.isOk) := by
  induction hlength : data.length using Nat.strong_induction_on
      generalizing sequence total data system with
  | _ length ih =>
      subst hlength
      rw [PlaybackStream.writeFrom]
      split
      · next hnil =>
          subst hnil
          exact Proc.meets_done ⟨Delivers.refl fun _ => rfl,
            fun _ htotal => by cases htotal; rfl,
            fun _ => ⟨Or.inl (Nat.zero_le _), by simp⟩, fun _ _ _ _ => rfl⟩
      · next hne =>
          have hchunkne := take_ne_nil (maxChunk_pos playback) hne
          by_cases hsmall : (data.take playback.maxChunk).length ≤ maxBinaryPayload
          · obtain ⟨response, system', hreply, hattached', accepted, hchunk, hack, herror⟩ :=
              exchange_chunk device hattached sequence hchunkne hsmall
            refine Proc.meets_request_bind hreply ?_
            dsimp only
            cases accepted with
            | false =>
                obtain ⟨error, herror⟩ := herror rfl
                rw [herror]
                refine Proc.meets_done ⟨⟨hchunk.delivers.lossless, ?_⟩, nofun, nofun, ?_⟩
                · obtain ⟨taken, htakes, _⟩ := hchunk.delivers.takes
                  exact ⟨taken, htakes, nofun⟩
                · intro hwrites hlossless hwhole hfits
                  exact absurd (hchunk.succeeds hwrites hlossless (hfits.chunk hwhole).2) Bool.false_ne_true
            | true =>
                obtain ⟨ack, hparsed, haccepted, hbytes⟩ := hack rfl
                rw [hparsed]
                dsimp only
                rw [haccepted, if_neg (by decide)]
                have hshorter : (data.drop playback.maxChunk).length < data.length := by
                  have hpos : 0 < data.length := List.length_pos_iff.mpr hne
                  have hmax := maxChunk_pos playback
                  rw [List.length_drop]
                  omega
                refine (ih _ hshorter hattached' _ _ _ rfl).mono ?_
                rintro ⟨result, sequence'⟩ system'' ⟨hdelivers, htotal, _, hsucceeds⟩
                refine ⟨?_, ?_, fun _ => Fits.of_chunk hsmall (hchunk.aligned rfl), ?_⟩
                · have hboth := hchunk.delivers.trans hdelivers
                  rw [List.take_append_drop] at hboth
                  exact hboth.imp fun hok => ⟨rfl, hok⟩
                · intro total' htotal'
                  rw [htotal total' htotal', hbytes, Nat.add_assoc, ← List.length_append,
                    List.take_append_drop]
                · intro hwrites hlossless hwhole hfits
                  exact hsucceeds hwrites (hchunk.delivers.lossless hlossless) (hfits.rest hwhole).2
                    (hfits.rest hwhole).1
          · have hreply : PlaybackSystem.handle device
                (playback.writeRequest sequence (data.take playback.maxChunk)) system =
                  some (.error .stream, system) := if_pos (Nat.lt_of_not_le hsmall)
            refine Proc.meets_request_bind hreply (Proc.meets_done ⟨Delivers.refl nofun, nofun, nofun, ?_⟩)
            intro _ _ hwhole hfits
            exact absurd (hfits.chunk hwhole).1 hsmall

/-! ## The whole call -/

/-- Between two states of the log of writes the stream took exactly `data`; it was
handed nothing else either, if it takes whatever it is handed. -/
def Delivered (stream : Nat) (data : Bytes) (before after : List SofWrite) : Prop :=
  ∃ writes, after = before ++ writes ∧ (∀ write ∈ writes, write.stream = stream) ∧
    takenBytes writes = data ∧
    ((∀ write ∈ writes, write.taken = write.data.length) → handedBytes writes = data)

theorem Delivers.delivered {link link' : HostWorld τ} {done : Prop}
    (hdelivers : Delivers channelId index stream frameSize data done link link') (hdone : done) :
    Delivered stream data link.sink.writes link'.sink.writes := by
  obtain ⟨taken, ⟨_, writes, hwrites, hstream, htaken⟩, hdata⟩ := hdelivers.takes
  rw [hdata hdone] at htaken
  exact ⟨writes, hwrites, hstream, htaken, fun hwhole => (handedBytes_eq hwhole).trans htaken⟩

theorem writePlaybackFrames_meets
    (hattached : Attached system playback.numericSessionId channelId index stream frameSize)
    (sequence : UInt32) (data : Bytes) :
    (playback.writePlaybackFrames true sequence data).Meets (PlaybackSystem.handle device) system
      fun result system' =>
        Delivers channelId index stream frameSize data result.1.isOk system.link system'.link ∧
        (∀ total, result.1 = .ok total → total.bytes = data.length) ∧
        (result.1.isOk → Fits playback frameSize data) ∧
        (WritesSucceed device channelId index stream frameSize → system.link.Lossless →
          data.length % frameSize.toNat = 0 → Fits playback frameSize data → result.1.isOk) := by
  unfold PlaybackStream.writePlaybackFrames
  split
  · next hnil =>
      subst hnil
      exact Proc.meets_done ⟨Delivers.refl fun _ => rfl, fun _ htotal => by cases htotal; rfl,
        fun _ => ⟨Or.inl (Nat.zero_le _), by simp⟩, fun _ _ _ _ => rfl⟩
  · rw [if_neg (by decide)]
    refine (writeFrom_meets hattached sequence {} data).mono ?_
    rintro result system' ⟨hdelivers, htotal, hfits, hsucceeds⟩
    exact ⟨hdelivers, fun total hresult => (htotal total hresult).trans (Nat.zero_add _), hfits,
      hsucceeds⟩

end Call

/-! ## Three channels of 16 bits -/

/-- A SOF stream that takes whatever it is handed. -/
def greedy : SofDevice Unit where
  freeSize := fun _ _ => (4096, ())
  pollPosition := fun _ _ => (0, ())
  write := fun _ data _ => (some data.length, ())

theorem greedy_flows : greedy.Flows 6 where
  free := fun _ _ => (by decide : (6 : Int) ≤ 4096)
  write := fun _ data _ hne hwhole =>
    ⟨data.length, rfl, List.length_pos_iff.mpr hne, le_rfl, hwhole⟩

def firstSlot : SlotIndex := ⟨0, acTransportAudioMaxStreams_pos⟩

/-- A session that plays frames of six bytes through the first slot. -/
def surroundSystem : PlaybackSystem Unit where
  context :=
    { numericSessions := [(1, "pcm")]
      audio :=
        [{ id := "pcm"
           running := true
           device := some
            { direction := acTransportAudioDirectionPlayback
              params := { channels := 3 }
              streamId := 1
              dataChannelId := 4
              frameBytes := 6
              isOpen := true
              prepared := true
              running := true
              controlChannelAcquired := true
              hasManager := true } }] }
  link :=
    { sink :=
        { audio := acAudioInit.modify firstSlot fun slot =>
            { slot with
              direction := acTransportAudioDirectionPlayback
              stream := some 1
              config := { sampleRate := 48000, channels := 3, bytesPerSample := 2 }
              frameBytes := 6
              allocated := true
              configured := true
              running := true }
          sof := () } }

theorem surround_attached : Attached surroundSystem 1 4 firstSlot 1 6 where
  session := ⟨"pcm", _, rfl, rfl, rfl, rfl, _, rfl, ⟨rfl, rfl, rfl, rfl, by decide⟩, rfl⟩
  plays := ⟨by decide, rfl, rfl, rfl, rfl, by decide⟩

theorem surround_lossless : surroundSystem.link.Lossless :=
  nofun

/-- A stream as the server describes it by default. -/
def surround : PlaybackStream where
  numericSessionId := 1
  stream := {}

/-! ## When a call delivers its data -/

section Law

variable {τ : Type} {system : PlaybackSystem τ} {channelId : UInt16} {index : SlotIndex}
  {stream : Nat} {frameSize : UInt16} {playback : PlaybackStream}

/-- Whatever the link and SOF do, a call that succeeds has counted and delivered all of
its data; over a lossless link and with writes that succeed, whole frames of any size
are delivered just when the call's chunks fit. -/
theorem playback_reaches_sof (device : SofDevice τ)
    (hattached : Attached system playback.numericSessionId channelId index stream frameSize)
    (sequence : UInt32) (data : Bytes) (hwhole : data.length % frameSize.toNat = 0) :
    (playback.writePlaybackFrames true sequence data).Meets (PlaybackSystem.handle device) system
      fun result system' =>
        (∀ total, result.1 = .ok total → total.bytes = data.length ∧
          Delivered stream data system.link.sink.writes system'.link.sink.writes) ∧
        (system.link.Lossless → WritesSucceed device channelId index stream frameSize →
          ((∃ total, result.1 = .ok total ∧ total.bytes = data.length ∧
            Delivered stream data system.link.sink.writes system'.link.sink.writes) ↔
          Fits playback frameSize data)) := by
  refine (writePlaybackFrames_meets hattached sequence data).mono ?_
  rintro ⟨result, sequence'⟩ system' ⟨hdelivers, htotal, hfits, hsucceeds⟩
  refine ⟨?_, fun hlossless hwrites => ⟨?_, fun hfit => ?_⟩⟩
  · intro total hresult
    exact ⟨htotal total hresult, hdelivers.delivered (by rw [show result = _ from hresult]; rfl)⟩
  · rintro ⟨total, hresult, _, _⟩
    exact hfits (by rw [show result = _ from hresult]; rfl)
  · have hok := hsucceeds hwrites hlossless hwhole hfit
    cases result with
    | error error => cases hok
    | ok total => exact ⟨total, rfl, htotal total rfl, hdelivers.delivered rfl⟩

end Law

theorem playback_reaches_sof_surround :
    (surround.writePlaybackFrames true 1 (List.replicate 12 0)).Meets
      (PlaybackSystem.handle greedy) surroundSystem fun result system' =>
        ∃ total, result.1 = .ok total ∧ total.bytes = 12 ∧
          Delivered 1 (List.replicate 12 0) [] system'.link.sink.writes := by
  refine (playback_reaches_sof greedy surround_attached 1 (List.replicate 12 0) (by decide)).mono ?_
  rintro result system' ⟨_, hiff⟩
  exact (hiff surround_lossless (greedy_flows.writesSucceed 4)).mpr ⟨Or.inl (by decide), by decide⟩

/-- 65538 bytes are 10923 whole frames, but the first chunk of 65536 bytes is not. -/
theorem default_chunk_splits_frame :
    (List.replicate 65538 (0 : UInt8)).length % 6 = 0 ∧ surroundSystem.link.Lossless ∧
      WritesSucceed greedy 4 firstSlot 1 6 ∧ Attached surroundSystem surround.numericSessionId 4 firstSlot 1 6 ∧
      (surround.writePlaybackFrames true 1 (List.replicate 65538 0)).Meets
        (PlaybackSystem.handle greedy) surroundSystem fun result _ => ¬ ∃ total, result.1 = .ok total := by
  refine ⟨by rw [List.length_replicate], surround_lossless, greedy_flows.writesSucceed 4,
    surround_attached, ?_⟩
  refine (writePlaybackFrames_meets surround_attached 1 (List.replicate 65538 0)).mono ?_
  rintro result system' ⟨_, _, hfits, _⟩ ⟨total, htotal⟩
  have haligned := (hfits (by rw [htotal]; rfl)).aligned
  rw [List.length_replicate] at haligned
  exact absurd haligned (by decide)

end AudioStudio.Playback
