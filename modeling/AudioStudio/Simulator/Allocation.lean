import AudioStudio.Simulator.Link

/-!
# Which slots an exchange gives out and takes back

Any request on the control channel, for any stream id: only OPEN gives out a slot, and
says which; CLOSE takes back the slot of its stream id.
-/

namespace AudioStudio.Simulator

open AudioStudio.Common
open AudioStudio.Controller
open AudioStudio.Transport
open LittleEndian
open Wire

/-! ## The handlers on any stream id -/

section Handlers

variable {τ : Type} {environment : Environment τ} {world world' before : SlotWorld τ}
  {index : SlotIndex}

/-- No slot is given out, and those that are to be freed are free. -/
structure Retains {τ : Type} (freed : SlotIndex → Prop) (world world' : SlotWorld τ) : Prop where
  numbered : Numbered world'.control
  allocated : ∀ index, (world'.control index).allocated = true →
    (world.control index).allocated = true ∧ ¬ freed index

variable {freed : SlotIndex → Prop}

theorem Retains.of_keeps (hnumbered : Numbered world.control) (hkeeps : Keeps world world')
    (hfreed : ∀ index, (world.control index).allocated = true → ¬ freed index) :
    Retains freed world world' where
  numbered := hkeeps.control ▸ hnumbered
  allocated := fun index hallocated => by
    rw [hkeeps.control] at hallocated
    exact ⟨hallocated, hfreed index hallocated⟩

theorem Retains.of_becomes (hnumbered : Numbered world.control) {view : SlotControl}
    (hbecomes : Becomes index view world world')
    (hsame : view.id = (world.control index).id ∧
      view.dataChannelId = (world.control index).dataChannelId)
    (hothers : ∀ other, other ≠ index → ¬ freed other)
    (hview : view.allocated = true → (world.control index).allocated = true ∧ ¬ freed index) :
    Retains freed world world' where
  numbered := by
    rw [hbecomes.control]
    refine hnumbered.update ?_
    rw [hsame.1, hsame.2]
    exact hnumbered index
  allocated := fun other hallocated => by
    rw [hbecomes.control] at hallocated
    by_cases hother : other = index
    · subst hother
      rw [Function.update_self] at hallocated
      exact hview hallocated
    · rw [Function.update_of_ne hother] at hallocated
      exact ⟨hallocated, hothers other hother⟩

/-- A stream id that is not found belongs to no allocated slot. -/
theorem find_none (hnumbered : Numbered world.control) {streamId : UInt32}
    (hnone : acAudioFindStream world.audio streamId = none) (index : SlotIndex)
    (hallocated : (world.control index).allocated = true) : slotId index ≠ streamId := by
  rintro rfl
  rw [find_slotId hnumbered, if_pos hallocated] at hnone
  cases hnone

/-- A stream id that is found is that of an allocated slot. -/
theorem find_some (hnumbered : Numbered world.control) {streamId : UInt32}
    (hfound : acAudioFindStream world.audio streamId = some index) :
    streamId = slotId index ∧ (world.control index).allocated = true := by
  unfold acAudioFindStream at hfound
  split at hfound
  · cases hfound
  · have hindex := List.find?_some hfound
    simp only [decide_eq_true_eq] at hindex
    exact ⟨hindex.2.symm.trans (hnumbered index).1, hindex.1⟩

/-- What a request comes to, as far as allocation goes. -/
def Settles {τ : Type} (request : AcTransportFrame) (freed : SlotIndex → Prop)
    (world world' : SlotWorld τ) : Prop :=
  ∃ payload, Handles request payload (fun _ before => Retains freed world before) world'

variable {request : AcTransportFrame}

theorem Settles.of_handles {payload : Bytes} {result : Int → SlotWorld τ → Prop}
    (hhandles : Handles request payload result world')
    (hresult : ∀ ret before, result ret before → Retains freed world before) :
    Settles request freed world world' := by
  obtain ⟨ret, before, hbefore, hanswered⟩ := hhandles
  exact ⟨payload, ret, before, hresult ret before hbefore, hanswered⟩

theorem sendError_settles (hnumbered : Numbered world.control) (request : AcTransportFrame)
    {message : String} (hmessage : (asciiBytes message).length ≤ acTransportMaxPayload)
    (hfreed : ∀ index, (world.control index).allocated = true → ¬ freed index)
    (hkeeps : Keeps world before) :
    (acTransportSendError request message).Meets (SlotWorld.handle environment) before
      fun _ world' => Settles request freed world world' :=
  (sendError_answered request (by decide : (-1 : Int) ≠ 0) [] hmessage).mono
    fun _ _ hanswered => ⟨[], -1, before, Retains.of_keeps hnumbered hkeeps hfreed, hanswered⟩

theorem never_freed : ∀ index, (world.control index).allocated = true → ¬ (fun _ => False) index :=
  fun _ _ => id

theorem runs_retains (hnumbered : Numbered world.control)
    (hallocated : (world.control index).allocated = true) {running : Bool} {ret : Int}
    (hruns : Runs index running world ret before) : Retains (fun _ => False) world before := by
  rcases hruns with ⟨_, hkeeps⟩ | ⟨_, hbecomes⟩
  · exact Retains.of_keeps hnumbered hkeeps never_freed
  · exact Retains.of_becomes hnumbered hbecomes ⟨rfl, rfl⟩ (fun _ _ => id) fun _ => ⟨hallocated, id⟩

theorem config_settles (hnumbered : Numbered world.control) (request : AcTransportFrame) :
    (acAudioHandleConfig request).Meets (SlotWorld.handle environment) world
      fun _ world' => Settles request (fun _ => False) world world' := by
  by_cases hlength : 12 ≤ request.payload.length
  · have hconfigure : (acAudioConfigure (word32 request.payload 0)
        (.ofPayload request.payload)).Meets (SlotWorld.handle environment) world
          fun _ before => Retains (fun _ => False) world before := by
      cases hfound : acAudioFindStream world.audio (word32 request.payload 0) with
      | none =>
          unfold acAudioConfigure
          refine Proc.meets_request_bind rfl ?_
          rw [hfound]
          exact Proc.meets_done (Retains.of_keeps hnumbered (Keeps.refl world) never_freed)
      | some index =>
          obtain ⟨hid, hallocated⟩ := find_some hnumbered hfound
          rw [hid]
          refine (acAudioConfigure_meets hnumbered hallocated _).mono ?_
          intro ret before hresult
          by_cases hret : ret = 0
          · exact Retains.of_becomes hnumbered (hresult.done hret).1 ⟨rfl, rfl⟩ (fun _ _ => id)
              fun _ => ⟨hallocated, id⟩
          · cases hrunning : (world.control index).running with
            | true => exact Retains.of_keeps hnumbered (hresult.running hrunning).2 never_freed
            | false =>
                exact Retains.of_becomes hnumbered (hresult.failed hrunning hret) ⟨rfl, rfl⟩
                  (fun _ _ => id) fun _ => ⟨hallocated, id⟩
    exact (acAudioHandleConfig_meets hlength hconfigure).mono
      fun _ _ hhandles => Settles.of_handles hhandles fun _ _ hretains => hretains
  · unfold acAudioHandleConfig
    rw [if_pos (by omega)]
    exact sendError_settles hnumbered request (by decide) never_freed (Keeps.refl world)

theorem start_settles (hnumbered : Numbered world.control) (request : AcTransportFrame) :
    (acAudioHandleStart request).Meets (SlotWorld.handle environment) world
      fun _ world' => Settles request (fun _ => False) world world' := by
  cases hfound : acAudioFindStream world.audio (word32 request.payload 0) with
  | none =>
      unfold acAudioHandleStart acAudioStart
      dsimp only
      rw [Proc.bind_assoc]
      refine Proc.meets_request_bind rfl ?_
      rw [hfound]
      exact sendError_settles hnumbered request
        (by decide : (asciiBytes "audio start failed").length ≤ acTransportMaxPayload) never_freed
        (Keeps.refl world)
  | some index =>
      obtain ⟨hid, hallocated⟩ := find_some hnumbered hfound
      exact (acAudioHandleStart_meets hnumbered hallocated hid).mono fun _ _ hhandles =>
        Settles.of_handles hhandles fun _ _ hruns => runs_retains hnumbered hallocated hruns

theorem stop_settles (hnumbered : Numbered world.control) (request : AcTransportFrame) :
    (acAudioHandleStop request).Meets (SlotWorld.handle environment) world
      fun _ world' => Settles request (fun _ => False) world world' := by
  cases hfound : acAudioFindStream world.audio (word32 request.payload 0) with
  | none =>
      unfold acAudioHandleStop acAudioStop
      refine Proc.meets_request_bind rfl ?_
      rw [Proc.bind_assoc]
      refine Proc.meets_request_bind rfl ?_
      rw [hfound]
      exact sendError_settles hnumbered request
        (by decide : (asciiBytes "audio stop failed").length ≤ acTransportMaxPayload) never_freed
        (Keeps.refl world)
  | some index =>
      obtain ⟨hid, hallocated⟩ := find_some hnumbered hfound
      exact (acAudioHandleStop_meets hnumbered hallocated hid).mono fun _ _ hhandles =>
        Settles.of_handles hhandles fun _ _ hruns => runs_retains hnumbered hallocated hruns

theorem close_settles (hnumbered : Numbered world.control) (request : AcTransportFrame) :
    (acAudioHandleClose request).Meets (SlotWorld.handle environment) world
      fun _ world' => Settles request (fun index => slotId index = word32 request.payload 0)
        world world' := by
  cases hfound : acAudioFindStream world.audio (word32 request.payload 0) with
  | none =>
      unfold acAudioHandleClose acAudioClose
      refine Proc.meets_request_bind rfl ?_
      rw [hfound]
      refine Proc.meets_request_bind rfl ?_
      dsimp only [Proc.bind]
      rw [hfound]
      exact sendError_settles hnumbered request
        (by decide : (asciiBytes "audio close failed").length ≤ acTransportMaxPayload)
        (find_none hnumbered hfound) (Keeps.refl world)
  | some index =>
      obtain ⟨hid, hallocated⟩ := find_some hnumbered hfound
      refine (acAudioHandleClose_meets hnumbered hallocated hid).mono fun _ _ hhandles =>
        Settles.of_handles hhandles ?_
      rintro _ before ⟨_, hbecomes⟩
      refine Retains.of_becomes hnumbered hbecomes ⟨rfl, rfl⟩ ?_ nofun
      intro other hother hsame
      exact hother (slotId_injective other index (hsame.trans hid))

/-- The slots that a request is to free. -/
def FreedBy (commandId : UInt16) (payload : Bytes) (index : SlotIndex) : Prop :=
  commandId = acTransportAudioClose ∧ payload = le32 (slotId index)

/-- A slot has been given out, and the answer is its id. -/
def Allots {τ : Type} (request : AcTransportFrame) (world world' : SlotWorld τ) : Prop :=
  ∃ index, Handles request (le32 (slotId index)) (fun ret before => ret = 0 ∧
    Becomes index (world.control index).fresh world before) world'

/-- OPEN requests that the controller refuses: too short, no such direction, no name, or
no slot that is free. -/
def OpenRefused (audio : AcAudioController) (payload : Bytes) : Prop :=
  payload.length < 4 ∨ acAudioValidDirection (word32 payload 0) = false ∨
    (payload.drop 4).head? = some 0 ∨ audio.find (!·.allocated) = none

theorem acAudioOpen_refused {direction : UInt32} {streamName : Bytes}
    (hrefused : acAudioValidDirection direction = false ∨ streamName = [] ∨
      world.audio.find (!·.allocated) = none) :
    (acAudioOpen direction streamName).Meets (SlotWorld.handle environment) world
      fun result before => result.1 ≠ 0 ∧ Keeps world before := by
  unfold acAudioOpen
  split
  · exact Proc.meets_done ⟨by decide, rfl, rfl⟩
  · next haccepted =>
      rcases hrefused with hdirection | hname | hfull
      · exact absurd (Or.inl (by rw [hdirection]; rfl)) haccepted
      · exact absurd (Or.inr hname) haccepted
      · refine Proc.meets_request_bind rfl ?_
        rw [hfull]
        exact Proc.meets_done ⟨by decide, rfl, rfl⟩

theorem open_refused (hnumbered : Numbered world.control)
    (hrefused : OpenRefused world.audio request.payload) :
    (acAudioHandleOpen request).Meets (SlotWorld.handle environment) world
      fun _ world' => Settles request (fun _ => False) world world' := by
  unfold acAudioHandleOpen
  rcases hrefused with hlength | hrefused
  · rw [if_pos hlength]
    exact sendError_settles hnumbered request
      (by decide : (asciiBytes "bad audio open request").length ≤ acTransportMaxPayload)
      never_freed (Keeps.refl world)
  split
  · exact sendError_settles hnumbered request
      (by decide : (asciiBytes "bad audio open request").length ≤ acTransportMaxPayload)
      never_freed (Keeps.refl world)
  refine Proc.meets_request_bind rfl ?_
  dsimp only
  refine Proc.Meets.bind (acAudioOpen_refused (hrefused.imp_right (Or.imp_left ?_))) ?_
  · intro hname
    cases hdrop : request.payload.drop 4 with
    | nil =>
        rw [hdrop] at hname
        cases hname
    | cons first rest =>
        rw [hdrop] at hname
        cases hname
        rfl
  · rintro ⟨ret, id⟩ before ⟨hret, hkeeps⟩
    dsimp only at hret ⊢
    rw [if_pos hret]
    exact sendError_settles hnumbered request
      (by decide : (asciiBytes "audio open failed").length ≤ acTransportMaxPayload)
      never_freed ⟨hkeeps.control, hkeeps.reply⟩

theorem open_settles (hnumbered : Numbered world.control) (request : AcTransportFrame) :
    (acAudioHandleOpen request).Meets (SlotWorld.handle environment) world
      fun _ world' => Settles request (fun _ => False) world world' ∨
        ¬ OpenRefused world.audio request.payload ∧ Allots request world world' := by
  by_cases hrefused : OpenRefused world.audio request.payload
  · exact (open_refused hnumbered hrefused).mono fun _ _ hsettles => Or.inl hsettles
  refine (acAudioHandleOpen_meets hnumbered request).mono ?_
  rintro _ world' ⟨id, ret, before, ⟨hret, hkeeps⟩ | ⟨hret, index, hfree, hid, hfresh⟩, hanswered⟩
  · exact Or.inl ⟨le32 id, ret, before, Retains.of_keeps hnumbered hkeeps never_freed, hanswered⟩
  · dsimp only at hret hid
    subst hid
    exact Or.inr ⟨hrefused, index, ret, before, ⟨hret, hfresh⟩, hanswered⟩

theorem Settles.weaken {freed' : SlotIndex → Prop} (hsettles : Settles request freed world world')
    (hweaker : ∀ index, freed' index → freed index) : Settles request freed' world world' := by
  obtain ⟨payload, ret, before, hretains, hanswered⟩ := hsettles
  exact ⟨payload, ret, before, ⟨hretains.numbered, fun index hallocated =>
    ⟨(hretains.allocated index hallocated).1,
      fun hfreed => (hretains.allocated index hallocated).2 (hweaker index hfreed)⟩⟩, hanswered⟩

/-- Any request on the control channel. -/
theorem handler_allocates (hnumbered : Numbered world.control) (request : AcTransportFrame) :
    (acAudioControlTransportHandler request).Meets (SlotWorld.handle environment) world
      fun _ world' => Settles request (FreedBy request.commandId request.payload) world world' ∨
        request.commandId = acTransportAudioOpen ∧
          ¬ OpenRefused world.audio request.payload ∧ Allots request world world' := by
  have hother : request.commandId ≠ acTransportAudioClose → ∀ index,
      FreedBy request.commandId request.payload index → False :=
    fun hcommand _ hfreed => hcommand hfreed.1
  unfold acAudioControlTransportHandler
  by_cases hopen : request.commandId = acTransportAudioOpen
  · rw [if_pos hopen]
    refine (open_settles hnumbered request).mono ?_
    rintro _ world' (hsettles | hallots)
    · exact Or.inl (hsettles.weaken (hother (by rw [hopen]; decide)))
    · exact Or.inr ⟨hopen, hallots⟩
  rw [if_neg hopen]
  refine Proc.Meets.mono ?_ fun _ _ hsettles => Or.inl hsettles
  by_cases hlength : request.payload.length < 4
  · rw [if_pos hlength]
    refine sendError_settles hnumbered request
      (by decide : (asciiBytes "bad audio stream request").length ≤ acTransportMaxPayload)
      ?_ (Keeps.refl world)
    rintro index _ ⟨_, hpayload⟩
    rw [hpayload] at hlength
    exact absurd hlength (by simp)
  rw [if_neg hlength]
  by_cases hconfig : request.commandId = acTransportAudioConfig
  · rw [if_pos hconfig]
    exact (config_settles hnumbered request).mono fun _ _ hsettles =>
      hsettles.weaken (hother (by rw [hconfig]; decide))
  rw [if_neg hconfig]
  by_cases hstart : request.commandId = acTransportAudioStart
  · rw [if_pos hstart]
    exact (start_settles hnumbered request).mono fun _ _ hsettles =>
      hsettles.weaken (hother (by rw [hstart]; decide))
  rw [if_neg hstart]
  by_cases hstop : request.commandId = acTransportAudioStop
  · rw [if_pos hstop]
    exact (stop_settles hnumbered request).mono fun _ _ hsettles =>
      hsettles.weaken (hother (by rw [hstop]; decide))
  rw [if_neg hstop]
  by_cases hclose : request.commandId = acTransportAudioClose
  · rw [if_pos hclose]
    refine (close_settles hnumbered request).mono fun _ _ hsettles => hsettles.weaken ?_
    rintro index ⟨_, hpayload⟩
    rw [hpayload]
    exact (word32_le32 (slotId index) []).symm
  · rw [if_neg hclose]
    exact sendError_settles hnumbered request
      (by decide : (asciiBytes "bad audio control command").length ≤ acTransportMaxPayload)
      (fun index _ => hother hclose index) (Keeps.refl world)

end Handlers

/-! ## Exchanges -/

section Exchanges

variable {τ : Type} {environment : Environment τ} {outcome : LinkOutcome}
  {world world' : LinkWorld τ}

/-- The slot is given out. -/
def LinkWorld.Allocated {τ : Type} (world : LinkWorld τ) (index : SlotIndex) : Prop :=
  (world.controller.control index).allocated = true

/-- What becomes of the slots over an exchange, and what the host learns of it. -/
inductive Exchanged {τ : Type} (outcome : LinkOutcome) (commandId : UInt16) (payload : Bytes)
    (world world' : LinkWorld τ) (response : Result TransportFrame) : Prop where
  | kept (hkept : ∀ index, world'.Allocated index → world.Allocated index ∧
      (FreedBy commandId payload index → outcome = .requestLost))
  | given (index : SlotIndex) (hopen : commandId = acTransportAudioOpen)
      (haccepted : ¬ OpenRefused world.controller.audio payload)
      (hgiven : ∀ other, world'.Allocated other → other = index ∨ world.Allocated other)
      (hlearns : outcome ≠ .responseLost → ∃ frame, response = .ok frame ∧
        frame.flags &&& kTransportFrameError = 0 ∧ frame.payload = le32 (slotId index))

/-- A packet that is decoded is no longer than its size field can say. -/
theorem small_of_decode {frame : TransportFrame} {received : AcTransportFrame}
    (hdecode : acTransportDecode (FrameCodec.encode frame) = some received) :
    frame.payload.length < 2 ^ 32 := by
  unfold acTransportDecode at hdecode
  split at hdecode
  · cases hdecode
  split at hdecode
  · cases hdecode
  split at hdecode
  · cases hdecode
  dsimp only at hdecode
  split at hdecode
  · cases hdecode
  · next hsize =>
      have hlength := not_not.mp hsize
      rw [FrameCodec.encode_length] at hlength
      have hfield := (word32 (FrameCodec.encode frame) 24).toNat_lt
      omega

theorem sendSync_exchanged (hnumbered : Numbered world.controller.control) {call : SyncCall}
    {response : Result TransportFrame}
    (hsend : world.sendSync environment outcome call = some (response, world')) :
    Numbered world'.controller.control ∧
      Exchanged outcome call.commandId call.payload world world' response := by
  by_cases hlost : outcome = .requestLost
  · subst hlost
    rw [sendSync_lost] at hsend
    cases hsend
    exact ⟨hnumbered, .kept fun _ hallocated => ⟨hallocated, fun _ => rfl⟩⟩
  by_cases hsmall : call.payload.length < 2 ^ 32
  · obtain ⟨value, controller, hrun, hallocates⟩ := @handler_allocates τ environment
      { world.controller with reply := none } hnumbered
      (TransportManager.request call world.manager.nextSequence).view
    rcases hallocates with ⟨payload, hhandles⟩ | ⟨hopen, haccepted, index, hhandles⟩
    · obtain ⟨_, _, hsend', hreached⟩ :=
        sendSync_reached hlost call hsmall ⟨value, controller, hrun, hhandles⟩
      rw [hsend] at hsend'
      cases hsend'
      obtain ⟨_, before, hretains, hcontrol, _⟩ := hreached.result
      refine ⟨hcontrol ▸ hretains.numbered, .kept fun index hallocated => ?_⟩
      unfold LinkWorld.Allocated at hallocated
      rw [hcontrol] at hallocated
      obtain ⟨hbefore, hstays⟩ := hretains.allocated index hallocated
      exact ⟨hbefore, fun hfreed => absurd hfreed hstays⟩
    · obtain ⟨_, _, hsend', hreached⟩ :=
        sendSync_reached hlost call hsmall ⟨value, controller, hrun, hhandles⟩
      rw [hsend] at hsend'
      cases hsend'
      obtain ⟨_, before, ⟨rfl, hfresh⟩, hcontrol, hanswer, _⟩ := hreached.result
      refine ⟨?_, .given index hopen haccepted (fun other hallocated => ?_) ?_⟩
      · rw [hcontrol, hfresh.control]
        exact Numbered.update (by exact hnumbered) (hnumbered index)
      · unfold LinkWorld.Allocated at hallocated
        rw [hcontrol, hfresh.control] at hallocated
        by_cases hother : other = index
        · exact Or.inl hother
        · rw [Function.update_of_ne hother] at hallocated
          exact Or.inr hallocated
      · intro harrives
        refine hanswer rfl ?_
        cases outcome with
        | delivered => rfl
        | requestLost => exact absurd rfl hlost
        | responseLost => exact absurd rfl harrives
  · have hdecode : acTransportDecode (FrameCodec.encode
        (TransportManager.request call world.manager.nextSequence)) = none := by
      cases hreceived : acTransportDecode (FrameCodec.encode
          (TransportManager.request call world.manager.nextSequence)) with
      | none => rfl
      | some received => exact absurd (small_of_decode hreceived) hsmall
    unfold LinkWorld.sendSync at hsend
    dsimp only at hsend
    rw [if_neg hlost, hdecode] at hsend
    cases hsend
    refine ⟨hnumbered, .kept fun index hallocated => ⟨hallocated, ?_⟩⟩
    rintro ⟨_, hpayload⟩
    rw [hpayload] at hsmall
    exact absurd (by simp : (le32 (slotId index)).length < 2 ^ 32) hsmall

end Exchanges

end AudioStudio.Simulator
