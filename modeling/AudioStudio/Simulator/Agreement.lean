import AudioStudio.Simulator.Link

/-!
# Host and controller agree on a stream

An open session and its slot go through the same states on a link that loses nothing.
The one call that separates them is a second preparation that the controller refuses:
the host has stored the new parameters before it asks.
-/

namespace AudioStudio.Simulator

open AudioStudio.Common
open AudioStudio.Controller
open AudioStudio.Transport
open LittleEndian
open Wire

/-! ## Reading the requests -/

/-- The configuration that the controller keeps of stream parameters. -/
def AudioStreamParams.config (params : AudioStreamParams) : AcAudioStreamConfig where
  sampleRate := params.sampleRate
  channels := params.channels
  bytesPerSample := params.bytesPerSample

theorem ofPayload_configPayload (streamId : UInt32) (params : AudioStreamParams) :
    AcAudioStreamConfig.ofPayload (configPayload streamId params) = params.config := by
  simp only [AcAudioStreamConfig.ofPayload, AudioStreamParams.config, configPayload, word32, word16,
    byteAt, le32, le16, List.cons_append, List.nil_append, List.getD_cons_zero,
    List.getD_cons_succ, of32_le32, of16_le16]

/-- The controller's frame size is the host's when it fits 16 bits. -/
theorem frameBytes_toNat {params : AudioStreamParams} (hfits : params.config.frameBytes ≤ 65535) :
    params.config.frameBytes.toUInt16.toNat = params.frameBytes := by
  have hproduct : params.config.frameBytes.toNat = params.frameBytes := by
    have hchannels := params.channels.toNat_lt
    have hbytes := params.bytesPerSample.toNat_lt
    have hsmall : params.channels.toNat * params.bytesPerSample.toNat < 2 ^ 32 := by nlinarith
    unfold AcAudioStreamConfig.frameBytes AudioStreamParams.frameBytes AudioStreamParams.config
    rw [UInt32.toNat_mul, UInt16.toNat_toUInt32, UInt16.toNat_toUInt32, Nat.mod_eq_of_lt hsmall]
  have hle : params.config.frameBytes.toNat ≤ 65535 := UInt32.le_iff_toNat_le.mp hfits
  rw [UInt32.toNat_toUInt16, Nat.mod_eq_of_lt (by omega), hproduct]

/-! ## Agreement -/

/-- The host session and its slot agree. -/
structure Agree {τ : Type} (index : SlotIndex) (session : SimulatorAudioSession)
    (world : LinkWorld τ) : Prop where
  isOpen : session.isOpen = (world.controller.control index).allocated
  running : session.running = (world.controller.control index).running
  prepared : session.prepared = true →
    (world.controller.control index).configured = true ∧
    (world.controller.control index).config = session.params.config ∧
    (world.controller.control index).frameBytes.toNat = session.frameBytes

/-- What the calls of a session keep up: it agrees with its slot, and knows where that
is. -/
structure Linked {τ : Type} (index : SlotIndex) (session : SimulatorAudioSession)
    (world : LinkWorld τ) : Prop where
  agree : Agree index session world
  numbered : Numbered world.controller.control
  opened : session.isOpen = true → session.hasManager = true ∧ session.streamId = slotId index
  closed : session.isOpen = false →
    session.hasManager = false ∧ session.prepared = false ∧ session.running = false
  frameBytes : session.prepared = true → session.frameBytes = session.params.frameBytes
  playing : session.running = true → session.dataChannelId = dataChannel index
  silent : session.running = false → session.dataChannelId = 0 ∧
    ∀ channel ∈ world.manager.channels, channel.id ≠ dataChannel index

/-! ## Calls -/

/-- The controller accepts a configuration of the slot. -/
def Accepts {τ : Type} (environment : Environment τ) (index : SlotIndex)
    (params : AudioStreamParams) (world : LinkWorld τ) : Prop :=
  ((acAudioConfigure (slotId index) params.config).run (SlotWorld.handle environment)
    { world.controller with reply := none }).1 = .done 0

/-- A session that is prepared already is prepared again with what it has, or, while it
is stopped, with frames of the same size, or as the controller accepts it. -/
def SafePrepare {τ : Type} (environment : Environment τ) (index : SlotIndex)
    (session : SimulatorAudioSession) (params : AudioStreamParams) (world : LinkWorld τ) : Prop :=
  session.prepared = true → validateStreamParams params = .ok () →
    params = session.params ∨
    session.running = false ∧ params.frameBytes = session.frameBytes ∨
    Accepts environment index params world

section Calls

variable {τ : Type} {environment : Environment τ} {world world' : LinkWorld τ}
  {index : SlotIndex} {session : SimulatorAudioSession}

theorem Linked.allocated (hlinked : Linked index session world) (hopen : session.isOpen = true) :
    (world.controller.control index).allocated = true :=
  hlinked.agree.isOpen.symm.trans hopen

variable {request : AcTransportFrame}

/-- The handler of CONFIG for the slot of an open session. -/
theorem config_handled (hlinked : Linked index session world) (hopen : session.isOpen = true)
    (params : AudioStreamParams) (hcommand : request.commandId = acTransportAudioConfig)
    (hpayload : request.payload = configPayload session.streamId params) :
    (acAudioControlTransportHandler request).Meets (SlotWorld.handle environment)
      { world.controller with reply := none } fun _ controller => Handles request []
        (fun ret before => ConfigureResult index params.config
          { world.controller with reply := none } ret before ∧
          (Accepts environment index params world → ret = 0)) controller := by
  have hlength : 12 ≤ request.payload.length := by
    rw [hpayload]
    exact le_of_eq rfl
  have hid : word32 request.payload 0 = slotId index := by
    rw [hpayload, ← (hlinked.opened hopen).2]
    unfold configPayload
    rw [List.append_assoc, List.append_assoc]
    exact word32_le32 _ _
  have hconfig : AcAudioStreamConfig.ofPayload request.payload = params.config := by
    rw [hpayload]
    exact ofPayload_configPayload _ _
  unfold acAudioControlTransportHandler
  rw [hcommand, if_neg (by decide), if_neg (by omega), if_pos rfl]
  refine acAudioHandleConfig_meets hlength ?_
  rw [hid, hconfig]
  have hconfigure := @acAudioConfigure_meets τ environment { world.controller with reply := none }
    index hlinked.numbered (hlinked.allocated hopen) params.config
  obtain ⟨ret, before, hrun, hresult⟩ := hconfigure
  refine ⟨ret, before, hrun, hresult, fun haccepts => ?_⟩
  unfold Accepts at haccepts
  rw [hrun] at haccepts
  exact Outcome.done.inj haccepts

/-- An open session that has stored parameters, while its slot changes no more than its
configuration. -/
theorem Linked.store (hlinked : Linked index session world) (hopen : session.isOpen = true)
    (hchannels : world'.manager.channels = world.manager.channels) {view : SlotControl}
    (hcontrol : world'.controller.control = Function.update world.controller.control index view)
    (hsame : view = { world.controller.control index with
      config := view.config, configured := view.configured, frameBytes := view.frameBytes })
    {params : AudioStreamParams} {prepared : Bool}
    (hprepared : prepared = true → view.configured = true ∧ view.config = params.config ∧
      view.frameBytes.toNat = params.frameBytes) :
    Linked index { session with params := params, frameBytes := params.frameBytes, prepared := prepared }
      world' := by
  have hview : world'.controller.control index = view := by
    rw [hcontrol, Function.update_self]
  refine ⟨⟨?_, ?_, ?_⟩, ?_, hlinked.opened, ?_, fun _ => rfl, hlinked.playing, ?_⟩
  · rw [hview, hsame]
    exact hlinked.agree.isOpen
  · rw [hview, hsame]
    exact hlinked.agree.running
  · rw [hview]
    exact hprepared
  · rw [hcontrol]
    refine hlinked.numbered.update ?_
    rw [hsame]
    exact hlinked.numbered index
  · exact fun hclosed => absurd (hopen.symm.trans hclosed) (by decide)
  · rw [hchannels]
    exact hlinked.silent

theorem prepare_linked (hlinked : Linked index session world) {params : AudioStreamParams}
    (hsafe : SafePrepare environment index session params world) :
    (session.prepare params).Meets (LinkWorld.handle environment .delivered) world
      fun result world' => Linked index result.2 world' := by
  unfold SimulatorAudioSession.prepare
  split
  · exact Proc.meets_done hlinked
  next hready =>
  have hopen : session.isOpen = true := by
    by_contra hclosed
    exact hready (Or.inl (by simpa using hclosed))
  cases hvalid : validateStreamParams params with
  | error status => exact Proc.meets_done hlinked
  | ok done =>
      dsimp only
      refine (control_meets (by exact (by decide : 12 < 2 ^ 32)) "audio config failed"
        fun request hcommand hpayload => config_handled hlinked hopen params hcommand hpayload).bind ?_
      rintro response world' ⟨hchannels, ret, before, ⟨hresult, haccepted⟩, hcontrol, hdone, hfailed⟩
      by_cases hret : ret = 0
      · obtain ⟨frame, rfl, _⟩ := hdone hret
        obtain ⟨hbecomes, hfits⟩ := hresult.done hret
        exact Proc.meets_done (hlinked.store hopen hchannels (hcontrol.trans hbecomes.control) rfl
          fun _ => ⟨rfl, rfl, frameBytes_toNat hfits⟩)
      · obtain ⟨status, rfl⟩ := hfailed hret
        refine Proc.meets_done ?_
        -- the host holds the new parameters now, whatever the slot holds
        have hkept : session.prepared = true → params = session.params ∨
            session.running = false ∧ params.frameBytes = session.frameBytes := by
          intro hprepared
          rcases hsafe hprepared hvalid with hsame | hsize | haccepts
          · exact Or.inl hsame
          · exact Or.inr hsize
          · exact absurd (haccepted haccepts) hret
        have hsize : session.prepared = true → params.frameBytes = session.frameBytes := by
          intro hprepared
          rcases hkept hprepared with hsame | ⟨_, hsize⟩
          · rw [hsame, hlinked.frameBytes hprepared]
          · exact hsize
        cases hrunning : (world.controller.control index).running with
        | true =>
            have hkeeps := (hresult.running hrunning).2
            refine @Linked.store τ world world' index session hlinked hopen hchannels
              (world.controller.control index) ?_ rfl _ _ ?_
            · rw [hcontrol, hkeeps.control]
              exact (Function.update_eq_self index world.controller.control).symm
            · intro hprepared
              obtain ⟨hconfigured, hconfig, hframe⟩ := hlinked.agree.prepared hprepared
              have hsame : params = session.params := by
                refine (hkept hprepared).resolve_right fun hstopped => ?_
                rw [hlinked.agree.running, hrunning] at hstopped
                exact absurd hstopped.1 (by decide)
              exact ⟨hconfigured, by rw [hconfig, hsame], by rw [hframe, hsize hprepared]⟩
        | false =>
            have hbecomes := hresult.failed hrunning hret
            refine hlinked.store hopen hchannels (hcontrol.trans hbecomes.control) rfl ?_
            intro hprepared
            obtain ⟨hconfigured, _, hframe⟩ := hlinked.agree.prepared hprepared
            exact ⟨hconfigured, rfl, hframe.trans (hsize hprepared).symm⟩

/-- The request of a command that names the stream of an open session. -/
theorem streamRequest (hlinked : Linked index session world) (hopen : session.isOpen = true)
    (hpayload : request.payload = le32 session.streamId) :
    request.payload.length = 4 ∧ word32 request.payload 0 = slotId index := by
  rw [hpayload, (hlinked.opened hopen).2]
  exact ⟨rfl, by simpa using word32_le32 (slotId index) []⟩

theorem start_handled (hlinked : Linked index session world) (hopen : session.isOpen = true)
    (hcommand : request.commandId = acTransportAudioStart)
    (hpayload : request.payload = le32 session.streamId) :
    (acAudioControlTransportHandler request).Meets (SlotWorld.handle environment)
      { world.controller with reply := none } fun _ controller => Handles request (startAnswer index)
        (Runs index true { world.controller with reply := none }) controller := by
  obtain ⟨hlength, hid⟩ := streamRequest hlinked hopen hpayload
  unfold acAudioControlTransportHandler
  rw [hcommand, if_neg (by decide), if_neg (by omega), if_neg (by decide), if_pos rfl]
  exact acAudioHandleStart_meets (by exact hlinked.numbered) (by exact hlinked.allocated hopen) hid

theorem stop_handled (hlinked : Linked index session world) (hopen : session.isOpen = true)
    (hcommand : request.commandId = acTransportAudioStop)
    (hpayload : request.payload = le32 session.streamId) :
    (acAudioControlTransportHandler request).Meets (SlotWorld.handle environment)
      { world.controller with reply := none } fun _ controller => Handles request []
        (Runs index false { world.controller with reply := none }) controller := by
  obtain ⟨hlength, hid⟩ := streamRequest hlinked hopen hpayload
  unfold acAudioControlTransportHandler
  rw [hcommand, if_neg (by decide), if_neg (by omega), if_neg (by decide), if_neg (by decide),
    if_pos rfl]
  exact acAudioHandleStop_meets (by exact hlinked.numbered) (by exact hlinked.allocated hopen) hid

theorem close_handled (hlinked : Linked index session world) (hopen : session.isOpen = true)
    (hcommand : request.commandId = acTransportAudioClose)
    (hpayload : request.payload = le32 session.streamId) :
    (acAudioControlTransportHandler request).Meets (SlotWorld.handle environment)
      { world.controller with reply := none } fun _ controller => Handles request []
        (fun ret before => ret = 0 ∧ Becomes index (world.controller.control index).close
          { world.controller with reply := none } before) controller := by
  obtain ⟨hlength, hid⟩ := streamRequest hlinked hopen hpayload
  unfold acAudioControlTransportHandler
  rw [hcommand, if_neg (by decide), if_neg (by omega), if_neg (by decide), if_neg (by decide),
    if_neg (by decide), if_pos rfl]
  exact acAudioHandleClose_meets (by exact hlinked.numbered) (by exact hlinked.allocated hopen) hid

/-- Nothing that concerns the session has changed. -/
theorem Linked.keep (hlinked : Linked index session world)
    (hchannels : world'.manager.channels = world.manager.channels)
    (hcontrol : world'.controller.control = world.controller.control) :
    Linked index session world' := by
  refine ⟨⟨?_, ?_, ?_⟩, ?_, hlinked.opened, hlinked.closed, hlinked.frameBytes, hlinked.playing, ?_⟩
  · rw [hcontrol]
    exact hlinked.agree.isOpen
  · rw [hcontrol]
    exact hlinked.agree.running
  · rw [hcontrol]
    exact hlinked.agree.prepared
  · rw [hcontrol]
    exact hlinked.numbered
  · rw [hchannels]
    exact hlinked.silent

/-- The session and its slot have begun or ceased to run. -/
theorem Linked.run (hlinked : Linked index session world) {running : Bool}
    (hcontrol : world'.controller.control = Function.update world.controller.control index
      { world.controller.control index with running := running })
    (hopen : session.isOpen = true) {channelId : UInt16}
    (hplaying : running = true → channelId = dataChannel index)
    (hsilent : running = false → channelId = 0 ∧
      ∀ channel ∈ world'.manager.channels, channel.id ≠ dataChannel index) :
    Linked index { session with running := running, dataChannelId := channelId } world' := by
  have hview : world'.controller.control index =
      { world.controller.control index with running := running } := by
    rw [hcontrol, Function.update_self]
  refine ⟨⟨?_, ?_, ?_⟩, ?_, hlinked.opened, ?_, hlinked.frameBytes, hplaying, hsilent⟩
  · rw [hview]
    exact hlinked.agree.isOpen
  · rw [hview]
  · rw [hview]
    exact hlinked.agree.prepared
  · rw [hcontrol]
    exact hlinked.numbered.update (hlinked.numbered index)
  · exact fun hclosed => absurd (hopen.symm.trans hclosed) (by decide)

/-- The host opens the data channel of a slot that it has not open. -/
theorem openChannel_data (hsilent : ∀ channel ∈ world.manager.channels, channel.id ≠ dataChannel index) :
    ∃ world', world.openChannel (dataChannel index) "audio-data" = (.ok (), world') ∧
      world'.controller = world.controller := by
  have hfree : world.manager.channels.any (·.id = dataChannel index) = false := by
    rw [List.any_eq_false]
    exact fun channel hchannel => by simpa using hsilent channel hchannel
  unfold LinkWorld.openChannel TransportManager.openChannel
  rw [if_neg (dataChannel_ne_zero index), if_neg (by decide), hfree, if_neg Bool.false_ne_true]
  exact ⟨_, rfl, rfl⟩

theorem start_linked (hlinked : Linked index session world) :
    session.start.Meets (LinkWorld.handle environment .delivered) world
      fun result world' => Linked index result.2 world' := by
  unfold SimulatorAudioSession.start
  split
  · exact Proc.meets_done hlinked
  next hready =>
  have hopen : session.isOpen = true := by
    by_contra hclosed
    have hclosed := hlinked.closed (Bool.eq_false_of_not_eq_true hclosed)
    exact hready (Or.inl (by rw [hclosed.2.1]; rfl))
  split
  · exact Proc.meets_done hlinked
  next hstopped =>
  have hstopped : session.running = false := Bool.eq_false_of_not_eq_true hstopped
  refine (control_meets (by exact (by decide : 4 < 2 ^ 32)) "audio start failed"
    fun request hcommand hpayload => start_handled hlinked hopen hcommand hpayload).bind ?_
  rintro response world' ⟨hchannels, ret, before, hruns, hcontrol, hdone, hfailed⟩
  rcases hruns with ⟨hret, hkeeps⟩ | ⟨hret, hbecomes⟩
  · obtain ⟨status, rfl⟩ := hfailed hret
    exact Proc.meets_done (hlinked.keep hchannels (hcontrol.trans hkeeps.control))
  · obtain ⟨frame, rfl, hanswer⟩ := hdone hret
    have hchannel : word16 frame.payload 4 = dataChannel index := by
      rw [hanswer]
      simp only [startAnswer, word16, byteAt, le32, le16, List.cons_append, List.nil_append,
        List.getD_cons_zero, List.getD_cons_succ, of16_le16]
    have hlong : ¬ frame.payload.length < 6 := by
      rw [hanswer]
      exact (by decide : ¬ 8 < 6)
    dsimp only
    rw [if_neg hlong, hchannel]
    obtain ⟨world'', hopened, hsame⟩ := openChannel_data (hchannels ▸ (hlinked.silent hstopped).2)
    refine Proc.meets_request_bind (congrArg some hopened) ?_
    refine Proc.meets_done (hlinked.run ?_ hopen (fun _ => rfl) (by rintro ⟨⟩))
    rw [hsame]
    exact hcontrol.trans hbecomes.control

theorem closeChannel_channels (id : UInt16) :
    ∀ channel ∈ (world.closeChannel id).manager.channels, channel.id ≠ id := by
  intro channel hchannel
  unfold LinkWorld.closeChannel TransportManager.applyOps TransportManager.applyOp at hchannel
  simp only [List.foldl_cons, List.foldl_nil, List.mem_filter, decide_not, Bool.not_eq_true',
    decide_eq_false_iff_not] at hchannel
  exact hchannel.2

theorem stop_linked (hlinked : Linked index session world) :
    session.stop.Meets (LinkWorld.handle environment .delivered) world
      fun result world' => Linked index result.2 world' ∧ result.2.isOpen = session.isOpen := by
  unfold SimulatorAudioSession.stop
  dsimp only
  split
  · exact Proc.meets_done ⟨hlinked, rfl⟩
  next hready =>
  have hopen : session.isOpen = true := by
    by_contra hclosed
    exact hready (Or.inl (by simpa using hclosed))
  split
  · next hstopped =>
      have hstopped : session.running = false := by simpa using hstopped
      refine Proc.meets_done
        ⟨hlinked.run ?_ hopen nofun fun _ => ⟨rfl, (hlinked.silent hstopped).2⟩, rfl⟩
      rw [← hstopped, hlinked.agree.running]
      exact (Function.update_eq_self index world.controller.control).symm
  next hrunning =>
  have hrunning : session.running = true := by simpa using hrunning
  refine (control_meets (by exact (by decide : 4 < 2 ^ 32)) "audio stop failed"
    fun request hcommand hpayload => stop_handled hlinked hopen hcommand hpayload).bind ?_
  rintro response world' ⟨hchannels, ret, before, hruns, hcontrol, hdone, hfailed⟩
  rcases hruns with ⟨hret, hkeeps⟩ | ⟨hret, hbecomes⟩
  · obtain ⟨status, rfl⟩ := hfailed hret
    exact Proc.meets_done ⟨hlinked.keep hchannels (hcontrol.trans hkeeps.control), rfl⟩
  · obtain ⟨frame, rfl, _⟩ := hdone hret
    dsimp only
    rw [hlinked.playing hrunning, if_pos (dataChannel_ne_zero index)]
    refine Proc.meets_request_bind rfl
      (Proc.meets_done ⟨hlinked.run ?_ hopen nofun fun _ => ⟨rfl, ?_⟩, rfl⟩)
    · exact hcontrol.trans hbecomes.control
    · exact closeChannel_channels _

/-- The channels that are left after the control channel is given back. -/
theorem release_channels {id : UInt16}
    (hchannels : ∀ channel ∈ world.manager.channels, channel.id ≠ id) :
    ∀ channel ∈ world.releaseAudioControlChannel.manager.channels, channel.id ≠ id := by
  unfold LinkWorld.releaseAudioControlChannel
  split
  · exact hchannels
  · split
    · intro channel hchannel
      unfold LinkWorld.closeChannel TransportManager.applyOps TransportManager.applyOp
        TransportManager.updateChannel at hchannel
      simp only [List.foldl_cons, List.foldl_nil, List.mem_filter, List.mem_map] at hchannel
      obtain ⟨⟨other, hother, rfl⟩, _⟩ := hchannel
      split
      · exact hchannels other hother
      · exact hchannels other hother
    · exact hchannels

theorem release_controller : world.releaseAudioControlChannel.controller = world.controller := by
  unfold LinkWorld.releaseAudioControlChannel
  split
  · rfl
  · split <;> rfl

/-- A session that has told the controller to close its slot. -/
theorem Linked.close (hlinked : Linked index session world)
    (hcontrol : world'.controller.control =
      Function.update world.controller.control index (world.controller.control index).close)
    (hchannels : ∀ channel ∈ world'.manager.channels, channel.id ≠ dataChannel index)
    {session' : SimulatorAudioSession} (hmanager : session'.hasManager = false) :
    Linked index session'.cleared world' := by
  have hview : world'.controller.control index = (world.controller.control index).close := by
    rw [hcontrol, Function.update_self]
  refine ⟨⟨?_, ?_, nofun⟩, ?_, nofun, fun _ => ⟨hmanager, rfl, rfl⟩, nofun, nofun,
    fun _ => ⟨rfl, hchannels⟩⟩
  · rw [hview]
    rfl
  · rw [hview]
    rfl
  · rw [hcontrol]
    exact hlinked.numbered.update (hlinked.numbered index)

/-- `close` gives the control channel back. -/
theorem release_meets :
    session.release.Meets (LinkWorld.handle environment .delivered) world fun session' world' =>
      session'.hasManager = false ∧ world'.controller = world.controller ∧
        ∀ id, (∀ channel ∈ world.manager.channels, channel.id ≠ id) →
          ∀ channel ∈ world'.manager.channels, channel.id ≠ id := by
  unfold SimulatorAudioSession.release
  split
  · exact Proc.meets_request_bind rfl
      (Proc.meets_done ⟨rfl, release_controller, fun _ hchannels => release_channels hchannels⟩)
  · exact Proc.meets_done ⟨rfl, rfl, fun _ hchannels => hchannels⟩

theorem stopIfRunning_meets (hlinked : Linked index session world) (hopen : session.isOpen = true) :
    session.stopIfRunning.Meets (LinkWorld.handle environment .delivered) world
      fun session' world' => Linked index session' world' ∧ session'.isOpen = true := by
  unfold SimulatorAudioSession.stopIfRunning
  split
  · refine (stop_linked hlinked).bind ?_
    rintro ⟨_, session'⟩ world' ⟨hlinked', hopen'⟩
    exact Proc.meets_done ⟨hlinked', hopen'.trans hopen⟩
  · exact Proc.meets_done ⟨hlinked, hopen⟩

/-- The data channel is closed at the host, also if the stream would not stop. -/
theorem closeDataChannel_meets (hlinked : Linked index session world) :
    session.closeDataChannel.Meets (LinkWorld.handle environment .delivered) world
      fun session' world' => session'.streamId = session.streamId ∧
        world'.controller = world.controller ∧
        ∀ channel ∈ world'.manager.channels, channel.id ≠ dataChannel index := by
  unfold SimulatorAudioSession.closeDataChannel
  cases hrunning : session.running with
  | true =>
      rw [hlinked.playing hrunning, if_pos (dataChannel_ne_zero index)]
      exact Proc.meets_request_bind rfl (Proc.meets_done ⟨rfl, rfl, closeChannel_channels _⟩)
  | false =>
      obtain ⟨hnone, hchannels⟩ := hlinked.silent hrunning
      rw [hnone, if_neg (not_not.mpr rfl)]
      exact Proc.meets_done ⟨rfl, rfl, hchannels⟩

theorem close_linked (hlinked : Linked index session world) :
    session.close.Meets (LinkWorld.handle environment .delivered) world
      fun session' world' => Linked index session' world' := by
  unfold SimulatorAudioSession.close
  cases hopen : session.isOpen with
  | false =>
      obtain ⟨hmanager, _, hrunning⟩ := hlinked.closed hopen
      have hagree := hlinked.agree
      rw [hmanager, if_neg Bool.false_ne_true]
      exact Proc.meets_done ⟨⟨hopen.symm.trans hagree.isOpen, hrunning.symm.trans hagree.running, nofun⟩,
        hlinked.numbered, nofun, fun _ => ⟨hmanager, rfl, rfl⟩, nofun, nofun,
        fun _ => ⟨rfl, (hlinked.silent hrunning).2⟩⟩
  | true =>
      rw [(hlinked.opened hopen).1, if_pos rfl]
      unfold SimulatorAudioSession.disconnect
      rw [Proc.bind_assoc]
      refine (stopIfRunning_meets hlinked hopen).bind ?_
      rintro stopped before ⟨hstopped, hstillOpen⟩
      rw [Proc.bind_assoc]
      refine (closeDataChannel_meets hstopped).bind ?_
      rintro quiet middle ⟨hid, hcontroller, hchannels⟩
      have hstream : quiet.streamId = slotId index := hid.trans (hstopped.opened hstillOpen).2
      rw [hstream, if_pos (slotId_ne_zero index), Proc.bind_assoc]
      obtain ⟨response, last, hhandle, hreached⟩ :=
        @exchange_reached τ environment .delivered middle nofun acTransportAudioClose
          (le32 (slotId index)) (by exact (by decide : 4 < 2 ^ 32)) _ _
          (fun request hcommand hpayload => hcontroller ▸ close_handled hstopped hstillOpen hcommand
            (hpayload.trans (congrArg le32 (hstopped.opened hstillOpen).2.symm)))
          kAudioControlTimeoutMs
      obtain ⟨hmanager, _, ret, closed, ⟨_, hbecomes⟩, hcontrol, _⟩ := hreached
      refine Proc.meets_request_bind hhandle ?_
      refine release_meets.bind ?_
      rintro session' world' ⟨hnone, hsame, hkept⟩
      refine Proc.meets_done (hstopped.close ?_ (hkept _ (hmanager ▸ hchannels)) hnone)
      rw [hsame, ← hcontroller]
      exact hcontrol.trans hbecomes.control

end Calls

/-! ## An opened session -/

/-- Surroundings in which every call succeeds. -/
def quietReply : (cmd : ControllerCmd) → ControllerReply cmd
  | .streams => acAudioInit
  | .logController => {}
  | .bytesBehind => []
  | .alloc _ _ => some 4096
  | .registerChannel _ _ | .openChannel _ | .sendPacket _ _ => (0 : Int)
  | .stopChannel _ => true
  | .sofStreamOpen _ => some 1
  | .sofStreamConfig _ _ | .sofStreamTrigger _ _ | .sofStreamClose _ => (0 : Int)
  | .sofStreamPollPosition _ | .sofStreamGetFreeSize _ | .sofStreamGetAvailSize _ => (0 : Int)
  | .sofStreamWrite _ _ | .sofStreamRead _ _ => none
  | .logSourceOpen | .logSourceStart => (0 : Int)
  | .logSourceRead _ _ => ⟨0, [], Nat.zero_le _⟩
  | .modifySlot _ _ | .modifyLog _ | .free _ | .sleepMs _ | .joinChannel _ | .logSourceStop => ()

def quiet : Environment Unit := fun cmd _ => (quietReply cmd, ())

def firstSlot : SlotIndex := ⟨0, acTransportAudioMaxStreams_pos⟩

/-- A session that has just been opened on the first slot. -/
def openedSession : SimulatorAudioSession where
  direction := acTransportAudioDirectionPlayback
  streamName := asciiBytes "pcm"
  streamId := 1
  isOpen := true
  controlChannelAcquired := true
  hasManager := true

def openedWorld : LinkWorld Unit where
  controller :=
    { audio := acAudioInit.modify firstSlot fun slot =>
        { slot with
          allocated := true
          direction := acTransportAudioDirectionPlayback
          streamName := asciiBytes "pcm" }
      surroundings := () }
  refs := 1

theorem opened_linked : Linked firstSlot openedSession openedWorld where
  agree := ⟨rfl, rfl, nofun⟩
  numbered := (by decide : ∀ index, (openedWorld.controller.control index).id = slotId index ∧
    (openedWorld.controller.control index).dataChannelId = dataChannel index)
  opened := fun _ => ⟨rfl, rfl⟩
  closed := nofun
  frameBytes := nofun
  playing := nofun
  silent := fun _ => ⟨rfl, nofun⟩

def stereo : AudioStreamParams := {}
def mono : AudioStreamParams := { channels := 1 }

/-! ## Runs of calls -/

def runCalls (session : SimulatorAudioSession) : List SessionCall → HostProc SimulatorAudioSession
  | [] => pure session
  | call :: calls => do
      let session ← call.run session
      runCalls session calls

def SafeCall {τ : Type} (environment : Environment τ) (index : SlotIndex)
    (session : SimulatorAudioSession) (world : LinkWorld τ) : SessionCall → Prop
  | .prepare params => SafePrepare environment index session params world
  | .start | .stop | .close => True

/-- Every call is safe in the state that the calls before it lead to. -/
def SafeCalls {τ : Type} (environment : Environment τ) (index : SlotIndex) :
    List SessionCall → SimulatorAudioSession → LinkWorld τ → Prop
  | [], _, _ => True
  | call :: calls, session, world => SafeCall environment index session world call ∧
      ∀ session' world', (call.run session).run (LinkWorld.handle environment .delivered) world =
        (.done session', world') → SafeCalls environment index calls session' world'

section Runs

variable {τ : Type} {environment : Environment τ} {world : LinkWorld τ} {index : SlotIndex}
  {session : SimulatorAudioSession}

/-- One call keeps session and slot linked. -/
theorem call_linked (hlinked : Linked index session world) {call : SessionCall}
    (hsafe : SafeCall environment index session world call) :
    (call.run session).Meets (LinkWorld.handle environment .delivered) world
      fun session' world' => Linked index session' world' := by
  cases call with
  | prepare params =>
      exact (prepare_linked hlinked hsafe).bind fun _ _ hlinked' => Proc.meets_done hlinked'
  | start => exact (start_linked hlinked).bind fun _ _ hlinked' => Proc.meets_done hlinked'
  | stop => exact (stop_linked hlinked).bind fun _ _ hlinked' => Proc.meets_done hlinked'.1
  | close => exact close_linked hlinked

theorem calls_linked (hlinked : Linked index session world) {calls : List SessionCall}
    (hsafe : SafeCalls environment index calls session world) :
    (runCalls session calls).Meets (LinkWorld.handle environment .delivered) world
      fun session' world' => Linked index session' world' := by
  induction calls generalizing session world with
  | nil => exact Proc.meets_done hlinked
  | cons call calls ih =>
      obtain ⟨session', world', hrun, hlinked'⟩ := call_linked hlinked hsafe.1
      obtain ⟨last, world'', hrun', hlast⟩ := ih hlinked' (hsafe.2 session' world' hrun)
      exact ⟨last, world'', (Proc.run_bind_done _ hrun _).trans hrun', hlast⟩

/-- Every run of safe calls on an open session ends, and with session and slot in
agreement. -/
theorem host_controller_agree (hlinked : Linked index session world) (calls : List SessionCall)
    (hsafe : SafeCalls environment index calls session world) :
    (runCalls session calls).Meets (LinkWorld.handle environment .delivered) world
      fun session' world' => Agree index session' world' :=
  (calls_linked hlinked hsafe).mono fun _ _ hlinked' => hlinked'.agree

end Runs

/-- A run of one stream, from its first preparation to its end. -/
theorem host_controller_agree_example :
    (runCalls openedSession [.prepare stereo, .start, .stop, .close]).Meets
      (LinkWorld.handle quiet .delivered) openedWorld fun session' world' =>
        Agree firstSlot session' world' :=
  host_controller_agree opened_linked [.prepare stereo, .start, .stop, .close]
    ⟨nofun, fun _ _ _ => ⟨trivial, fun _ _ _ => ⟨trivial, fun _ _ _ => ⟨trivial, fun _ _ _ => trivial⟩⟩⟩⟩

/-- The session is prepared again for one channel while its two channels run. -/
def refusedPrepare : Outcome SimulatorAudioSession × LinkWorld Unit :=
  (runCalls openedSession [.prepare stereo, .start, .prepare mono]).run
    (LinkWorld.handle quiet .delivered) openedWorld

/-- The session believes in one channel, its slot has two. -/
theorem refused_prepare_diverges : Linked firstSlot openedSession openedWorld ∧
    ∃ session, refusedPrepare.1 = .done session ∧ ¬ Agree firstSlot session refusedPrepare.2 := by
  refine ⟨opened_linked, { openedSession with
    params := mono, dataChannelId := 4, frameBytes := 2, prepared := true, running := true },
    by decide +kernel, fun hagree => ?_⟩
  have hconfig := (hagree.prepared rfl).2.1
  exact absurd hconfig (by decide +kernel)

end AudioStudio.Simulator
