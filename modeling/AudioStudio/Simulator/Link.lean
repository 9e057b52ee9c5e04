import AudioStudio.Simulator.Session
import AudioStudio.Simulator.Slots
import AudioStudio.Transport.Manager

/-!
# The control link

The host's commands against a controller: an exchange is delivered, or loses its
request or its response.  The control channel is open as long as a session has
acquired it, so that the lookups of `sendSync` find it.
-/

namespace AudioStudio.Simulator

open AudioStudio.Common
open AudioStudio.Controller
open AudioStudio.Transport
open LittleEndian
open Wire

/-- The controller, the host's transport manager, and how many sessions have acquired
the control channel. -/
structure LinkWorld (τ : Type) where
  controller : SlotWorld τ
  manager : TransportManager := {}
  refs : Nat := 0

namespace LinkWorld

variable {τ : Type}

def timedOut : Status := .unavailable "data-link read timed out"

def acquireAudioControlChannel (world : LinkWorld τ) : Result Unit × LinkWorld τ :=
  if world.refs = 0 then
    match world.manager.openChannel acTransportChannelAudioControl "audio-control" with
    | .error status => (.error status, world)
    | .ok manager => (.ok (), { world with manager := manager, refs := 1 })
  else (.ok (), { world with refs := world.refs + 1 })

def closeChannel (id : UInt16) (world : LinkWorld τ) : LinkWorld τ :=
  { world with manager := world.manager.applyOps [.markClosed id, .erase id] }

def releaseAudioControlChannel (world : LinkWorld τ) : LinkWorld τ :=
  if world.refs = 0 then world
  else if world.refs = 1 then closeChannel acTransportChannelAudioControl { world with refs := 0 }
  else { world with refs := world.refs - 1 }

/-- `TransportManager::openChannel`. -/
def openChannel (id : UInt16) (service : String) (world : LinkWorld τ) :
    Result Unit × LinkWorld τ :=
  match world.manager.openChannel id service with
  | .error status => (.error status, world)
  | .ok manager => (.ok (), { world with manager := manager })

/-- `sendSync` on the control channel: the controller decodes the request and its worker
runs the handler of the channel. -/
def sendSync (environment : Environment τ) (outcome : LinkOutcome) (call : SyncCall)
    (world : LinkWorld τ) : Option (Result TransportFrame × LinkWorld τ) :=
  let request := TransportManager.request call world.manager.nextSequence
  let world := { world with
    manager := { world.manager with nextSequence := world.manager.nextSequence + 1 } }
  if outcome = .requestLost then some (.error timedOut, world)
  else
    match acTransportDecode (FrameCodec.encode request) with
    | none => some (.error timedOut, world)
    | some received =>
        match (acAudioControlTransportHandler received).run (SlotWorld.handle environment)
            { world.controller with reply := none } with
        | (.done _, controller) =>
            let response := match controller.reply with
              | none => .error timedOut
              | some packet => FrameCodec.decode packet
            some (if outcome = .responseLost then .error timedOut else response,
              { world with controller := controller })
        | _ => none

def handle (environment : Environment τ) (outcome : LinkOutcome) : Handler HostReply (LinkWorld τ)
  | .isDataLinkConfigured, world => some (world.manager.datalink.isSome, world)
  | .acquireAudioControlChannel, world => some world.acquireAudioControlChannel
  | .releaseAudioControlChannel, world => some ((), world.releaseAudioControlChannel)
  | .sendSync channelId commandId payload timeoutMs, world =>
      if channelId = acTransportChannelAudioControl then
        world.sendSync environment outcome { channelId, commandId, payload, timeoutMs }
      else none
  | .openChannel id service, world => some (world.openChannel id service)
  | .closeChannel id, world => some ((), world.closeChannel id)

end LinkWorld

/-! ## Answers -/

section Answers

variable {τ : Type} {environment : Environment τ} {world before : SlotWorld τ}
  {index : SlotIndex}

/-- The frame that answers a request: what the command brought, or an error. -/
structure Answered {τ : Type} (request : AcTransportFrame) (ret : Int) (payload : Bytes)
    (before world' : SlotWorld τ) : Prop where
  control : world'.control = before.control
  reply : ∃ frame : TransportFrame, world'.reply = some (FrameCodec.encode frame) ∧
    frame.payload.length < 2 ^ 32 ∧
    (ret = 0 → frame.flags &&& kTransportFrameError = 0 ∧ frame.payload = payload) ∧
    (ret ≠ 0 → frame.flags &&& kTransportFrameError ≠ 0)

variable {payload : Bytes}

theorem sendResponse_meets (request : AcTransportFrame) (extraFlags : UInt32)
    (hpayload : payload.length ≤ acTransportMaxPayload) :
    (acTransportSendResponse request extraFlags payload).Meets (SlotWorld.handle environment) world
      fun _ world' => world' = { world with reply := some (FrameCodec.encode
        (request.hostFrame (acTransportFlagResponse ||| acTransportFlagAck ||| extraFlags) payload)) } := by
  rw [acTransportSendResponse_eq request extraFlags hpayload]
  exact ⟨0, _, rfl, rfl⟩

theorem small_of_payload (hpayload : payload.length ≤ acTransportMaxPayload) :
    payload.length < 2 ^ 32 :=
  lt_of_le_of_lt hpayload (by decide)

theorem sendError_answered (request : AcTransportFrame) {message : String} {ret : Int}
    (hret : ret ≠ 0) (payload : Bytes)
    (hmessage : (asciiBytes message).length ≤ acTransportMaxPayload) :
    (acTransportSendError request message).Meets (SlotWorld.handle environment) before
      fun _ world' => Answered request ret payload before world' := by
  refine (sendResponse_meets request acTransportFlagError hmessage).mono ?_
  rintro _ world' rfl
  exact ⟨rfl, _, rfl, small_of_payload hmessage, fun hzero => absurd hzero hret,
    fun _ => (by decide : (acTransportFlagResponse ||| acTransportFlagAck |||
      acTransportFlagError) &&& kTransportFrameError ≠ 0)⟩

theorem sendResponse_answered (request : AcTransportFrame)
    (hpayload : payload.length ≤ acTransportMaxPayload) :
    (acTransportSendResponse request 0 payload).Meets (SlotWorld.handle environment) before
      fun _ world' => Answered request 0 payload before world' := by
  refine (sendResponse_meets request 0 hpayload).mono ?_
  rintro _ world' rfl
  exact ⟨rfl, _, rfl, small_of_payload hpayload, fun _ => ⟨(by decide :
    (acTransportFlagResponse ||| acTransportFlagAck ||| 0) &&& kTransportFrameError = 0), rfl⟩,
    fun hne => absurd rfl hne⟩

/-! ## The handlers -/

/-- A handler comes to a return code, a slot table and the answer to them. -/
def Handles {τ : Type} (request : AcTransportFrame) (payload : Bytes)
    (result : Int → SlotWorld τ → Prop) (world' : SlotWorld τ) : Prop :=
  ∃ ret before, result ret before ∧ Answered request ret payload before world'

theorem configErrorMessage_short (ret : Int) :
    (asciiBytes (acAudioConfigErrorMessage ret)).length ≤ acTransportMaxPayload := by
  unfold acAudioConfigErrorMessage
  repeat' split
  all_goals decide

variable {request : AcTransportFrame} {result : Int → SlotWorld τ → Prop}

theorem acAudioHandleConfig_meets (hlength : 12 ≤ request.payload.length)
    (hconfigure : (acAudioConfigure (word32 request.payload 0) (.ofPayload request.payload)).Meets
      (SlotWorld.handle environment) world result) :
    (acAudioHandleConfig request).Meets (SlotWorld.handle environment) world fun _ world' =>
      Handles request [] result world' := by
  unfold acAudioHandleConfig
  rw [if_neg (Nat.not_lt.mpr hlength)]
  refine hconfigure.bind ?_
  intro ret before hresult
  split
  · next hret =>
      exact (sendError_answered request hret [] (configErrorMessage_short ret)).mono
        fun _ world' hanswered => ⟨ret, before, hresult, hanswered⟩
  · next hret =>
      obtain rfl := not_not.mp hret
      exact (sendResponse_answered request (Nat.zero_le _)).mono
        fun _ world' hanswered => ⟨0, before, hresult, hanswered⟩

/-- What START answers. -/
def startAnswer (index : SlotIndex) : Bytes :=
  le32 (slotId index) ++ le16 (dataChannel index) ++ le16 0

theorem acAudioHandleStart_meets (hnumbered : Numbered world.control)
    (hallocated : (world.control index).allocated = true)
    (hid : word32 request.payload 0 = slotId index) :
    (acAudioHandleStart request).Meets (SlotWorld.handle environment) world fun _ world' =>
      Handles request (startAnswer index) (Runs index true world) world' := by
  unfold acAudioHandleStart
  dsimp only
  rw [hid]
  refine (acAudioStart_meets hnumbered hallocated).bind ?_
  rintro ⟨ret, dataChannelId⟩ before ⟨hresult, hchannel⟩
  dsimp only at hresult hchannel ⊢
  split
  · next hret =>
      exact (sendError_answered request hret (startAnswer index) (by decide)).mono
        fun _ world' hanswered => ⟨ret, before, hresult, hanswered⟩
  · next hret =>
      obtain rfl := not_not.mp hret
      rw [hchannel rfl]
      refine Proc.Meets.mono (sendResponse_answered request (?_ : (startAnswer index).length ≤ _)) ?_
      · exact (by decide : 8 ≤ acTransportMaxPayload)
      · exact fun _ world' hanswered => ⟨0, before, hresult, hanswered⟩

theorem acAudioHandleStop_meets (hnumbered : Numbered world.control)
    (hallocated : (world.control index).allocated = true)
    (hid : word32 request.payload 0 = slotId index) :
    (acAudioHandleStop request).Meets (SlotWorld.handle environment) world fun _ world' =>
      Handles request [] (Runs index false world) world' := by
  unfold acAudioHandleStop
  refine Proc.meets_request_bind rfl ?_
  rw [hid]
  refine (acAudioStop_meets hnumbered hallocated).bind ?_
  intro ret before hresult
  split
  · next hret =>
      exact (sendError_answered request hret [] (by decide)).mono
        fun _ world' hanswered => ⟨ret, before, hresult, hanswered⟩
  · next hret =>
      obtain rfl := not_not.mp hret
      refine (acAudioCloseDataChannel_meets _ _).bind ?_
      intro _ closed hkeeps
      refine (sendResponse_answered request (Nat.zero_le _)).mono ?_
      intro _ world' hanswered
      exact ⟨0, before, hresult, ⟨hanswered.control.trans hkeeps.control, hanswered.reply⟩⟩

theorem acAudioHandleClose_meets (hnumbered : Numbered world.control)
    (hallocated : (world.control index).allocated = true)
    (hid : word32 request.payload 0 = slotId index) :
    (acAudioHandleClose request).Meets (SlotWorld.handle environment) world fun _ world' =>
      Handles request [] (fun ret before => ret = 0 ∧
        Becomes index (world.control index).close world before) world' := by
  unfold acAudioHandleClose
  refine Proc.meets_request_bind rfl ?_
  rw [hid]
  refine (acAudioCloseDataChannel_meets _ _).bind ?_
  intro _ closed hkeeps
  have hsame : closed.control = world.control := hkeeps.control
  refine (acAudioClose_meets (hsame ▸ hnumbered) (hsame ▸ hallocated)).bind ?_
  rintro ret before ⟨rfl, hclosed⟩
  rw [if_neg (not_not.mpr rfl)]
  refine (sendResponse_answered request (Nat.zero_le _)).mono ?_
  intro _ world' hanswered
  rw [hsame] at hclosed
  exact ⟨0, before, ⟨rfl, Keeps.becomes hkeeps hclosed⟩, hanswered⟩

theorem acAudioHandleOpen_meets (hnumbered : Numbered world.control) (request : AcTransportFrame) :
    (acAudioHandleOpen request).Meets (SlotWorld.handle environment) world fun _ world' =>
      ∃ id, Handles request (le32 id) (fun ret before => Opens world (ret, id) before) world' := by
  unfold acAudioHandleOpen
  split
  · refine (sendError_answered request (by decide : (-1 : Int) ≠ 0) (le32 0) (by decide)).mono ?_
    exact fun _ world' hanswered => ⟨0, -1, world, Or.inl ⟨by decide, Keeps.refl world⟩, hanswered⟩
  · refine Proc.meets_request_bind rfl ?_
    dsimp only
    refine Proc.Meets.bind (acAudioOpen_meets (by exact hnumbered) _ _) ?_
    rintro ⟨ret, id⟩ before hopens
    have hresult : Opens world (ret, id) before := by
      rcases hopens with ⟨hret, hkeeps⟩ | ⟨hret, index, hfree, hid, hfresh⟩
      · exact Or.inl ⟨hret, hkeeps.control, hkeeps.reply⟩
      · exact Or.inr ⟨hret, index, hfree, hid, hfresh.control, hfresh.reply⟩
    dsimp only
    split
    · next hret =>
        exact (sendError_answered request hret (le32 id) (by decide)).mono
          fun _ world' hanswered => ⟨id, ret, before, hresult, hanswered⟩
    · next hret =>
        obtain rfl := not_not.mp hret
        refine Proc.Meets.mono (sendResponse_answered request (?_ : (le32 id).length ≤ _)) ?_
        · exact (by decide : 4 ≤ acTransportMaxPayload)
        · exact fun _ world' hanswered => ⟨id, 0, before, hresult, hanswered⟩

end Answers

/-! ## Exchanges -/

section Exchanges

variable {τ : Type} {environment : Environment τ} {outcome : LinkOutcome}
  {world world' : LinkWorld τ} {index : SlotIndex}

/-- What the host gets of an exchange whose request reached the controller. -/
structure Reached {τ : Type} (outcome : LinkOutcome) (payload : Bytes)
    (result : Int → SlotWorld τ → Prop) (world : LinkWorld τ) (response : Result TransportFrame)
    (world' : LinkWorld τ) : Prop where
  manager : world'.manager.channels = world.manager.channels
  lost : outcome = .responseLost → response = .error LinkWorld.timedOut
  result : ∃ ret before, result ret before ∧ world'.controller.control = before.control ∧
    (ret = 0 → outcome = .delivered → ∃ frame, response = .ok frame ∧
      frame.flags &&& kTransportFrameError = 0 ∧ frame.payload = payload) ∧
    (ret ≠ 0 → outcome = .delivered → ∃ frame, response = .ok frame ∧
      frame.flags &&& kTransportFrameError ≠ 0)

theorem sendSync_lost (call : SyncCall) :
    world.sendSync environment .requestLost call = some (.error LinkWorld.timedOut, { world with
      manager := { world.manager with nextSequence := world.manager.nextSequence + 1 } }) := by
  unfold LinkWorld.sendSync
  exact if_pos rfl

/-- An exchange whose request is not lost runs the handler on what was sent. -/
theorem sendSync_reached (houtcome : outcome ≠ .requestLost) (call : SyncCall)
    (hpayload : call.payload.length < 2 ^ 32) {payload : Bytes}
    {result : Int → SlotWorld τ → Prop}
    (hhandler : (acAudioControlTransportHandler
        (TransportManager.request call world.manager.nextSequence).view).Meets
      (SlotWorld.handle environment) { world.controller with reply := none } fun _ controller =>
        Handles (TransportManager.request call world.manager.nextSequence).view payload result controller) :
    ∃ response world', world.sendSync environment outcome call = some (response, world') ∧
      Reached outcome payload result world response world' := by
  obtain ⟨value, controller, hrun, ret, before, hresult, hanswered⟩ := hhandler
  obtain ⟨frame, hreply, hsmall, hdone, hfailed⟩ := hanswered.reply
  have hdecode : acTransportDecode (FrameCodec.encode
      (TransportManager.request call world.manager.nextSequence)) =
        some (TransportManager.request call world.manager.nextSequence).view := by
    rw [acTransportDecode_eq, FrameCodec.decode_encode hpayload]
    rfl
  have hresponse : FrameCodec.decode (FrameCodec.encode frame) =
      .ok { frame with serviceId := frame.channelId } := FrameCodec.decode_encode hsmall
  refine ⟨if outcome = .responseLost then .error LinkWorld.timedOut
      else .ok { frame with serviceId := frame.channelId },
    ⟨controller, { world.manager with nextSequence := world.manager.nextSequence + 1 }, world.refs⟩,
    ?_, rfl, fun hlost => if_pos hlost, ret, before, hresult, hanswered.control, ?_, ?_⟩
  · unfold LinkWorld.sendSync
    dsimp only
    rw [if_neg houtcome, hdecode]
    dsimp only
    rw [hrun]
    dsimp only
    rw [hreply]
    dsimp only
    rw [hresponse]
  · rintro hret rfl
    exact ⟨_, if_neg nofun, (hdone hret).1, (hdone hret).2⟩
  · rintro hret rfl
    exact ⟨_, if_neg nofun, hfailed hret⟩

/-- The exchange of a command of the control channel. -/
theorem exchange_reached (houtcome : outcome ≠ .requestLost) {commandId : UInt16} {payload : Bytes}
    (hpayload : payload.length < 2 ^ 32) {answer : Bytes} {result : Int → SlotWorld τ → Prop}
    (hhandler : ∀ request : AcTransportFrame, request.commandId = commandId →
      request.payload = payload → (acAudioControlTransportHandler request).Meets
        (SlotWorld.handle environment) { world.controller with reply := none } fun _ controller =>
          Handles request answer result controller) (timeoutMs : UInt32) :
    ∃ response world', LinkWorld.handle environment outcome
        (.sendSync acTransportChannelAudioControl commandId payload timeoutMs) world =
          some (response, world') ∧ Reached outcome answer result world response world' := by
  unfold LinkWorld.handle
  dsimp only
  rw [if_pos rfl]
  exact sendSync_reached houtcome ⟨acTransportChannelAudioControl, commandId, payload, timeoutMs, 0, [], []⟩
    hpayload (hhandler _ rfl rfl)

/-- A delivered exchange of `control`. -/
theorem control_meets {commandId : UInt16} {payload : Bytes} (hpayload : payload.length < 2 ^ 32)
    (fallback : String) {answer : Bytes} {result : Int → SlotWorld τ → Prop}
    (hhandler : ∀ request : AcTransportFrame, request.commandId = commandId →
      request.payload = payload → (acAudioControlTransportHandler request).Meets
        (SlotWorld.handle environment) { world.controller with reply := none } fun _ controller =>
          Handles request answer result controller) :
    (control commandId payload fallback).Meets (LinkWorld.handle environment .delivered) world
      fun response world' => world'.manager.channels = world.manager.channels ∧
        ∃ ret before, result ret before ∧ world'.controller.control = before.control ∧
          (ret = 0 → ∃ frame, response = .ok frame ∧ frame.payload = answer) ∧
          (ret ≠ 0 → ∃ status, response = .error status) := by
  obtain ⟨response, world', hhandle, hmanager, _, ret, before, hresult, hcontrol, hdone, hfailed⟩ :=
    @exchange_reached τ environment .delivered world nofun _ _ hpayload _ _ hhandler
      kAudioControlTimeoutMs
  unfold control exchange
  refine Proc.meets_request_bind hhandle ?_
  by_cases hret : ret = 0
  · obtain ⟨frame, rfl, hflags, hanswer⟩ := hdone hret rfl
    dsimp only
    unfold transportPayloadStatus
    rw [if_pos hflags]
    exact Proc.meets_done ⟨hmanager, ret, before, hresult, hcontrol, fun _ => ⟨frame, rfl, hanswer⟩,
      fun hne => absurd hret hne⟩
  · obtain ⟨frame, rfl, hflags⟩ := hfailed hret rfl
    dsimp only
    have hstatus : ∃ status, transportPayloadStatus frame fallback = .error status := by
      unfold transportPayloadStatus
      rw [if_neg hflags]
      split <;> exact ⟨_, rfl⟩
    obtain ⟨status, hstatus⟩ := hstatus
    rw [hstatus]
    exact Proc.meets_done ⟨hmanager, ret, before, hresult, hcontrol, fun hzero => absurd hzero hret,
      fun _ => ⟨status, rfl⟩⟩

end Exchanges

end AudioStudio.Simulator
