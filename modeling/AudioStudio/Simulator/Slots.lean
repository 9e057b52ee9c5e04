import AudioStudio.Controller.World
import AudioStudio.Wire.TransportCodec

/-!
# What the control commands do to the slots

The part of a slot that the host keeps a copy of, and how each command of the control
channel changes it, whatever the driver, the allocator and SOF answer.
-/

namespace AudioStudio.Simulator

open AudioStudio.Controller
open LittleEndian
open Wire

/-! ## The view of a slot -/

/-- The fields of a slot that decide what it is and whether it plays. -/
structure SlotControl where
  id : UInt32
  dataChannelId : UInt16
  allocated : Bool
  running : Bool
  configured : Bool
  config : AcAudioStreamConfig
  frameBytes : UInt16
  deriving DecidableEq, Repr

def slotControl (slot : AcAudioStreamSlot) :
    SlotControl where
  id := slot.id
  dataChannelId := slot.dataChannelId
  allocated := slot.allocated
  running := slot.running
  configured := slot.configured
  config := slot.config
  frameBytes := slot.frameBytes

/-- What answers the commands that do not concern the slots. -/
abbrev Environment (τ : Type) := (cmd : ControllerCmd) → τ → ControllerReply cmd × τ

/-- The controller's slots, what surrounds them, and the packet sent last. -/
structure SlotWorld (τ : Type) where
  audio : AcAudioController
  surroundings : τ
  reply : Option Bytes := none

namespace SlotWorld

variable {τ : Type}

def control (world : SlotWorld τ) (index : SlotIndex) : SlotControl :=
  slotControl (world.audio.streams index)

def handle (environment : Environment τ) : Handler ControllerReply (SlotWorld τ)
  | .streams, world => some (world.audio, world)
  | .modifySlot index change, world =>
      some ((), { world with audio := world.audio.modify index change })
  | .sendPacket packet _, world => some (0, { world with reply := some packet })
  | cmd, world =>
      let answer := environment cmd world.surroundings
      some (answer.1, { world with surroundings := answer.2 })

end SlotWorld

section Control

variable {τ : Type} {environment : Environment τ} {world world' world'' : SlotWorld τ}
  {index : SlotIndex}

/-- The slots are as before, to the view. -/
structure Keeps {τ : Type} (world world' : SlotWorld τ) : Prop where
  control : world'.control = world.control
  reply : world'.reply = world.reply

/-- One slot looks as given, the others as before. -/
structure Becomes {τ : Type} (index : SlotIndex) (view : SlotControl)
    (world world' : SlotWorld τ) : Prop where
  control : world'.control = Function.update world.control index view
  reply : world'.reply = world.reply

theorem Keeps.refl (world : SlotWorld τ) : Keeps world world :=
  ⟨rfl, rfl⟩

theorem Keeps.trans (hfirst : Keeps world world') (hsecond : Keeps world' world'') :
    Keeps world world'' :=
  ⟨hsecond.control.trans hfirst.control, hsecond.reply.trans hfirst.reply⟩

variable {view : SlotControl}

theorem Keeps.becomes (hfirst : Keeps world world') (hsecond : Becomes index view world' world'') :
    Becomes index view world world'' :=
  ⟨by rw [hsecond.control, hfirst.control], hsecond.reply.trans hfirst.reply⟩

theorem Becomes.keeps (hfirst : Becomes index view world world') (hsecond : Keeps world' world'') :
    Becomes index view world world'' :=
  ⟨hsecond.control.trans hfirst.control, hsecond.reply.trans hfirst.reply⟩

theorem Becomes.trans {view' : SlotControl} (hfirst : Becomes index view world world')
    (hsecond : Becomes index view' world' world'') : Becomes index view' world world'' :=
  ⟨by rw [hsecond.control, hfirst.control, Function.update_idem], hsecond.reply.trans hfirst.reply⟩

theorem control_modify (change : AcAudioStreamSlot → AcAudioStreamSlot) :
    SlotWorld.control { world with audio := world.audio.modify index change } =
      Function.update world.control index (slotControl (change (world.audio.streams index))) := by
  funext other
  by_cases hother : other = index
  · subst hother
    simp [SlotWorld.control, AcAudioController.modify]
  · simp [SlotWorld.control, AcAudioController.modify, hother]

/-! ## Steps of the programs -/

theorem meets_modifySlot (change : AcAudioStreamSlot → AcAudioStreamSlot) :
    (modifySlot index change).Meets (SlotWorld.handle environment) world fun _ world' =>
      Becomes index (slotControl (change (world.audio.streams index))) world world' :=
  ⟨(), _, rfl, control_modify change, rfl⟩

/-- A store to fields that are not in the view. -/
theorem meets_modifyHidden {change : AcAudioStreamSlot → AcAudioStreamSlot}
    (hhidden : ∀ slot, slotControl (change slot) = slotControl slot) :
    (modifySlot index change).Meets (SlotWorld.handle environment) world fun _ world' =>
      Keeps world world' := by
  refine (meets_modifySlot change).mono fun _ world' hbecomes => ⟨?_, hbecomes.reply⟩
  rw [hbecomes.control, hhidden]
  exact Function.update_eq_self index world.control

theorem freeBuffer_meets (raw : Option Nat) :
    (freeBuffer raw).Meets (SlotWorld.handle environment) world fun _ world' =>
      Keeps world world' := by
  cases raw with
  | none => exact Proc.meets_done (Keeps.refl world)
  | some raw => exact ⟨_, _, rfl, rfl, rfl⟩

theorem acAudioFreeDma_meets : (acAudioFreeDma index).Meets (SlotWorld.handle environment) world
    fun _ world' => Keeps world world' := by
  unfold acAudioFreeDma
  refine Proc.meets_request_bind rfl ((freeBuffer_meets _).bind ?_)
  intro _ world' hkeeps
  refine Proc.Meets.mono (meets_modifyHidden ?_) fun _ _ hkeeps' => hkeeps.trans hkeeps'
  exact fun _ => rfl

theorem acAudioPrepareDma_meets (frameBytes : UInt32) :
    (acAudioPrepareDma index frameBytes).Meets (SlotWorld.handle environment) world
      fun _ world' => Keeps world world' := by
  unfold acAudioPrepareDma
  refine Proc.meets_request_bind rfl ?_
  dsimp only
  cases acAudioDmaSizes (world.audio.streams index).config.sampleRate frameBytes with
  | none => exact Proc.meets_done (Keeps.refl world)
  | some sizes =>
      refine acAudioFreeDma_meets.bind ?_
      intro _ world' hkeeps
      refine Proc.meets_request_bind rfl ?_
      split
      · exact Proc.meets_done ⟨hkeeps.control, hkeeps.reply⟩
      · refine Proc.Meets.bind (meets_modifyHidden (by exact fun _ => rfl)) ?_
        intro _ world'' hkeeps'
        exact Proc.meets_done (hkeeps.trans ⟨hkeeps'.control, hkeeps'.reply⟩)

theorem acAudioOpenSofStream_meets :
    (acAudioOpenSofStream index).Meets (SlotWorld.handle environment) world
      fun _ world' => Keeps world world' := by
  unfold acAudioOpenSofStream
  refine Proc.meets_request_bind rfl ?_
  cases (world.audio.streams index).stream with
  | some stream => exact Proc.meets_done (Keeps.refl world)
  | none =>
      refine Proc.meets_request_bind rfl
        (Proc.Meets.bind (meets_modifyHidden (by exact fun _ => rfl)) ?_)
      intro _ world' hkeeps
      exact Proc.meets_done ⟨hkeeps.control, hkeeps.reply⟩

/-- A slot that has been configured with what it holds. -/
def SlotControl.configure (view : SlotControl) : SlotControl :=
  { view with frameBytes := view.config.frameBytes.toUInt16, configured := true }

/-- What a preparation of the slot comes to. -/
structure PrepareResult {τ : Type} (index : SlotIndex) (world : SlotWorld τ) (ret : Int)
    (world' : SlotWorld τ) : Prop where
  failed : ret ≠ 0 → Keeps world world'
  done : ret = 0 → Becomes index (world.control index).configure world world'
  fits : ret = 0 → (world.control index).config.frameBytes ≤ 65535

theorem PrepareResult.of_failed {ret : Int} (hret : ret ≠ 0) (hkeeps : Keeps world world') :
    PrepareResult index world ret world' :=
  ⟨fun _ => hkeeps, fun hdone => absurd hdone hret, fun hdone => absurd hdone hret⟩

theorem acAudioPrepareSofStream_meets :
    (acAudioPrepareSofStream index).Meets (SlotWorld.handle environment) world
      fun ret world' => PrepareResult index world ret world' := by
  unfold acAudioPrepareSofStream
  refine Proc.meets_request_bind rfl ?_
  dsimp only
  split
  · exact Proc.meets_done (.of_failed (by decide) (Keeps.refl world))
  split
  · exact Proc.meets_done (.of_failed (by decide) (Keeps.refl world))
  split
  · exact Proc.meets_done (.of_failed (by decide) (Keeps.refl world))
  split
  · exact Proc.meets_done (.of_failed (by decide) (Keeps.refl world))
  next hframe =>
  refine acAudioOpenSofStream_meets.bind ?_
  intro stream world' hkeeps
  cases stream with
  | none => exact Proc.meets_done (.of_failed (by decide) hkeeps)
  | some stream =>
      refine (acAudioPrepareDma_meets _).bind ?_
      intro dma world'' hkeeps'
      have hprepared := hkeeps.trans hkeeps'
      cases dma with
      | none => exact Proc.meets_done (.of_failed (by decide) hprepared)
      | some dma =>
          refine Proc.meets_request_bind rfl ?_
          split
          · refine acAudioFreeDma_meets.bind ?_
            intro _ last hkeeps''
            exact Proc.meets_done (.of_failed (by decide)
              (hprepared.trans ⟨hkeeps''.control, hkeeps''.reply⟩))
          · refine (meets_modifySlot _).bind ?_
            intro _ last hbecomes
            refine Proc.meets_done ⟨nofun, fun _ => ⟨?_, ?_⟩, fun _ => ?_⟩
            · refine hbecomes.control.trans ?_
              change Function.update world''.control index
                { world''.control index with
                  frameBytes := (world.control index).config.frameBytes.toUInt16
                  configured := true } = _
              rw [hprepared.control]
              rfl
            · exact hbecomes.reply.trans hprepared.reply
            · exact UInt32.not_lt.mp fun hlarge => hframe (Or.inr hlarge)

/-! ## The commands -/

/-- The stream id of a slot. -/
def slotId (index : SlotIndex) : UInt32 := index.val.toUInt32 + 1

theorem slotId_injective : ∀ index other, slotId index = slotId other → index = other := by
  decide

theorem slotId_ne_zero : ∀ index, slotId index ≠ 0 := by
  decide

theorem dataChannel_ne_zero : ∀ index, dataChannel index ≠ 0 := by
  decide

/-- The slots have the ids and channels that `ac_audio_init` gave them. -/
def Numbered (control : SlotIndex → SlotControl) : Prop :=
  ∀ index, (control index).id = slotId index ∧ (control index).dataChannelId = dataChannel index

theorem Numbered.update {control : SlotIndex → SlotControl} (hnumbered : Numbered control)
    (hview : view.id = slotId index ∧ view.dataChannelId = dataChannel index) :
    Numbered (Function.update control index view) := by
  intro other
  by_cases hother : other = index
  · subst hother
    rwa [Function.update_self]
  · rw [Function.update_of_ne hother]
    exact hnumbered other

/-- A stream id finds the slot of that number, while that is allocated. -/
theorem find_slotId (hnumbered : Numbered world.control) (index : SlotIndex) :
    acAudioFindStream world.audio (slotId index) =
      if (world.control index).allocated then some index else none := by
  have hid : ∀ other, (world.audio.streams other).id = slotId other := fun other => (hnumbered other).1
  unfold acAudioFindStream AcAudioController.find
  rw [if_neg (slotId_ne_zero index)]
  split
  · next hallocated =>
      cases hfound : (List.finRange acTransportAudioMaxStreams).find? fun other =>
          decide ((world.audio.streams other).allocated ∧ (world.audio.streams other).id = slotId index) with
      | none =>
          have hnone := List.find?_eq_none.mp hfound index (List.mem_finRange index)
          simp only [decide_eq_true_eq] at hnone
          exact absurd ⟨hallocated, hid index⟩ hnone
      | some other =>
          have hother := List.find?_some hfound
          simp only [decide_eq_true_eq] at hother
          rw [slotId_injective other index ((hid other).symm.trans hother.2)]
  · next hfree =>
      refine List.find?_eq_none.mpr fun other _ hother => hfree ?_
      simp only [decide_eq_true_eq] at hother
      rw [← slotId_injective other index ((hid other).symm.trans hother.2)]
      exact hother.1

/-- A CONFIG command for a slot: refused while it runs, else the configuration is
stored, and the slot prepared if that succeeds. -/
structure ConfigureResult {τ : Type} (index : SlotIndex) (config : AcAudioStreamConfig)
    (world : SlotWorld τ) (ret : Int) (world' : SlotWorld τ) : Prop where
  running : (world.control index).running = true → ret ≠ 0 ∧ Keeps world world'
  failed : (world.control index).running = false → ret ≠ 0 →
    Becomes index { world.control index with config := config } world world'
  done : ret = 0 →
    Becomes index { world.control index with config := config }.configure world world' ∧
      config.frameBytes ≤ 65535

theorem acAudioConfigure_meets (hnumbered : Numbered world.control)
    (hallocated : (world.control index).allocated = true) (config : AcAudioStreamConfig) :
    (acAudioConfigure (slotId index) config).Meets (SlotWorld.handle environment) world
      fun ret world' => ConfigureResult index config world ret world' := by
  unfold acAudioConfigure
  refine Proc.meets_request_bind rfl ?_
  rw [find_slotId hnumbered, if_pos hallocated]
  dsimp only
  split
  · next hrunning =>
      exact Proc.meets_done ⟨fun _ => ⟨by decide, Keeps.refl world⟩,
        fun hstopped => absurd (hrunning.symm.trans hstopped) (by decide), nofun⟩
  · next hstopped =>
      refine (meets_modifySlot _).bind ?_
      intro _ world' hstored
      refine acAudioPrepareSofStream_meets.mono ?_
      intro ret world'' hprepare
      have hview : world'.control index = { world.control index with config := config } := by
        rw [hstored.control, Function.update_self]
        rfl
      refine ⟨fun hrunning => absurd hrunning hstopped, fun _ hret => ?_, fun hret => ⟨?_, ?_⟩⟩
      · exact Becomes.keeps hstored (hprepare.failed hret)
      · rw [← hview]
        exact hstored.trans (hprepare.done hret)
      · have hfits := hprepare.fits hret
        rwa [hview] at hfits

theorem acAudioRegisterDataChannel_meets (slot : AcAudioStreamSlot) :
    (acAudioRegisterDataChannel index slot).Meets (SlotWorld.handle environment) world
      fun _ world' => Keeps world world' := by
  unfold acAudioRegisterDataChannel
  split
  · exact Proc.meets_done (Keeps.refl world)
  · refine Proc.meets_request_bind rfl ?_
    split
    · exact Proc.meets_done ⟨rfl, rfl⟩
    · refine Proc.Meets.bind (meets_modifyHidden (by exact fun _ => rfl)) ?_
      intro _ world' hkeeps
      exact Proc.meets_done ⟨hkeeps.control, hkeeps.reply⟩

/-- A command that lets a slot run, or leaves everything as it was. -/
def Runs {τ : Type} (index : SlotIndex) (running : Bool) (world : SlotWorld τ) (ret : Int)
    (world' : SlotWorld τ) : Prop :=
  ret ≠ 0 ∧ Keeps world world' ∨
    ret = 0 ∧ Becomes index { world.control index with running := running } world world'

theorem acAudioTriggerStart_meets {slot : AcAudioStreamSlot} (index : SlotIndex) (stream : Nat)
    (hslot : slot.running = (world.control index).running) :
    (acAudioTriggerStart index slot stream).Meets (SlotWorld.handle environment) world
      fun ret world' => Runs index true world ret world' := by
  unfold acAudioTriggerStart
  split
  · next hrunning =>
      refine Proc.meets_done (Or.inr ⟨rfl, ?_, rfl⟩)
      rw [← hrunning, hslot]
      exact (Function.update_eq_self index world.control).symm
  · refine Proc.meets_request_bind rfl ?_
    split
    · exact Proc.meets_done (Or.inl ⟨by decide, rfl, rfl⟩)
    · refine Proc.Meets.bind (meets_modifySlot _) ?_
      intro _ world' hbecomes
      exact Proc.meets_done (Or.inr ⟨rfl, hbecomes.control, hbecomes.reply⟩)

theorem acAudioStart_meets (hnumbered : Numbered world.control)
    (hallocated : (world.control index).allocated = true) :
    (acAudioStart (slotId index)).Meets (SlotWorld.handle environment) world
      fun result world' => Runs index true world result.1 world' ∧
        (result.1 = 0 → result.2 = dataChannel index) := by
  have hrefused : ∀ world' : SlotWorld τ, Keeps world world' →
      (Proc.done (-1, 0) : ControllerProc (Int × UInt16)).Meets (SlotWorld.handle environment) world'
        fun result world' => Runs index true world result.1 world' ∧
          (result.1 = 0 → result.2 = dataChannel index) :=
    fun world' hkeeps => Proc.meets_done ⟨Or.inl ⟨by decide, hkeeps⟩, nofun⟩
  unfold acAudioStart
  refine Proc.meets_request_bind rfl ?_
  dsimp only
  rw [find_slotId hnumbered, if_pos hallocated]
  dsimp only
  cases hstream : (world.audio.streams index).stream with
  | none => exact hrefused world (Keeps.refl world)
  | some stream =>
      dsimp only
      split
      · exact hrefused world (Keeps.refl world)
      · refine (acAudioRegisterDataChannel_meets _).bind ?_
        intro ret world' hkeeps
        split
        · exact hrefused world' hkeeps
        · refine Proc.meets_request_bind rfl ?_
          split
          · exact hrefused _ ⟨hkeeps.control, hkeeps.reply⟩
          · refine (acAudioTriggerStart_meets index stream ?_).bind ?_
            · exact (congrArg SlotControl.running (congrFun hkeeps.control index)).symm
            · intro ret world'' hruns
              have hruns' : Runs index true world ret world'' := by
                rcases hruns with ⟨hret, hsame⟩ | ⟨hret, hbecomes⟩
                · exact Or.inl ⟨hret, hkeeps.trans ⟨hsame.control, hsame.reply⟩⟩
                · refine Or.inr ⟨hret, Keeps.becomes hkeeps ⟨?_, hbecomes.reply⟩⟩
                  rw [hbecomes.control]
                  exact congrArg (fun view => Function.update world'.control index
                    { view with running := true }) (congrFun hkeeps.control index)
              split
              · next hret => exact Proc.meets_done ⟨Or.inl ⟨by decide, (hruns'.resolve_right
                  fun hdone => hret hdone.1).2⟩, nofun⟩
              · next hret =>
                  exact Proc.meets_done ⟨Or.inr ⟨rfl, (hruns'.resolve_left
                    fun hfail => hret hfail.1).2⟩, fun _ => (hnumbered index).2⟩

theorem acAudioTriggerStop_meets (slot : AcAudioStreamSlot) :
    (acAudioTriggerStop slot).Meets (SlotWorld.handle environment) world
      fun _ world' => Keeps world world' := by
  unfold acAudioTriggerStop
  split
  · exact Proc.meets_done (Keeps.refl world)
  · split
    · exact Proc.meets_done (Keeps.refl world)
    · exact ⟨_, _, rfl, rfl, rfl⟩

theorem acAudioStop_meets (hnumbered : Numbered world.control)
    (hallocated : (world.control index).allocated = true) :
    (acAudioStop (slotId index)).Meets (SlotWorld.handle environment) world
      fun ret world' => Runs index false world ret world' := by
  unfold acAudioStop
  refine Proc.meets_request_bind rfl ?_
  rw [find_slotId hnumbered, if_pos hallocated]
  refine (acAudioTriggerStop_meets _).bind ?_
  intro ret world' hkeeps
  split
  · exact Proc.meets_done (Or.inl ⟨by decide, hkeeps⟩)
  · refine Proc.Meets.bind (meets_modifySlot _) ?_
    intro _ world'' hbecomes
    refine Proc.meets_done (Or.inr ⟨rfl, Keeps.becomes hkeeps ⟨?_, hbecomes.reply⟩⟩)
    rw [hbecomes.control]
    exact congrArg (fun view => Function.update world'.control index { view with running := false })
      (congrFun hkeeps.control index)

theorem acAudioCloseSofStream_meets (stream : Option Nat) :
    (acAudioCloseSofStream index stream).Meets (SlotWorld.handle environment) world
      fun _ world' => Keeps world world' := by
  cases stream with
  | none => exact Proc.meets_done (Keeps.refl world)
  | some stream =>
      refine Proc.meets_request_bind rfl ?_
      refine Proc.Meets.mono (meets_modifyHidden (by exact fun _ => rfl)) ?_
      exact fun _ _ hkeeps => ⟨hkeeps.control, hkeeps.reply⟩

/-- A slot that has been closed keeps its number and its last configuration. -/
def SlotControl.close (view : SlotControl) : SlotControl :=
  { view with allocated := false, configured := false, running := false, frameBytes := 0 }

theorem acAudioClose_meets (hnumbered : Numbered world.control)
    (hallocated : (world.control index).allocated = true) :
    (acAudioClose (slotId index)).Meets (SlotWorld.handle environment) world
      fun ret world' => ret = 0 ∧ Becomes index (world.control index).close world world' := by
  unfold acAudioClose
  refine Proc.meets_request_bind rfl ?_
  rw [find_slotId hnumbered, if_pos hallocated]
  refine (acAudioStop_meets hnumbered hallocated).bind ?_
  intro ret world' hruns
  refine (acAudioCloseSofStream_meets _).bind ?_
  intro _ world'' hkeeps
  refine acAudioFreeDma_meets.bind ?_
  intro _ freed hkeeps'
  refine Proc.Meets.bind (meets_modifySlot _) ?_
  intro _ last hbecomes
  have hfreed : Becomes index { (freed.control index) with
      allocated := false, configured := false, running := false, frameBytes := 0 } freed last :=
    hbecomes
  -- a failed stop leaves the slot as it was, which the store then overwrites
  have hbefore : ∃ running, Becomes index { world.control index with running := running } world freed := by
    rcases hruns with ⟨_, hsame⟩ | ⟨_, hstopped⟩
    · refine ⟨(world.control index).running, ?_, (hsame.trans (hkeeps.trans hkeeps')).reply⟩
      rw [(hsame.trans (hkeeps.trans hkeeps')).control]
      exact (Function.update_eq_self index world.control).symm
    · exact ⟨false, Becomes.keeps hstopped (hkeeps.trans hkeeps')⟩
  obtain ⟨running, hbefore⟩ := hbefore
  refine Proc.meets_done ⟨rfl, ?_⟩
  have hview : freed.control index = { world.control index with running := running } := by
    rw [hbefore.control, Function.update_self]
  rw [hview] at hfreed
  exact hbefore.trans hfreed

/-- A free slot that has just been given out. -/
def SlotControl.fresh (view : SlotControl) : SlotControl where
  id := view.id
  dataChannelId := view.dataChannelId
  allocated := true
  running := false
  configured := false
  config := {}
  frameBytes := 0

/-- An OPEN command gives out a free slot, or leaves everything as it was. -/
def Opens {τ : Type} (world : SlotWorld τ) (result : Int × UInt32) (world' : SlotWorld τ) : Prop :=
  result.1 ≠ 0 ∧ Keeps world world' ∨
    result.1 = 0 ∧ ∃ index, (world.control index).allocated = false ∧ result.2 = slotId index ∧
      Becomes index (world.control index).fresh world world'

theorem acAudioResetSlot_meets : (acAudioResetSlot index).Meets (SlotWorld.handle environment) world
    fun _ world' => Becomes index
      { (world.control index).fresh with allocated := false } world world' := by
  unfold acAudioResetSlot
  refine acAudioFreeDma_meets.bind ?_
  intro _ world' hkeeps
  refine Proc.Meets.mono (meets_modifySlot _) ?_
  intro _ world'' hbecomes
  refine Keeps.becomes hkeeps ⟨?_, hbecomes.reply⟩
  rw [hbecomes.control]
  exact congrArg (fun view : SlotControl => Function.update world'.control index
    { view.fresh with allocated := false }) (congrFun hkeeps.control index)

theorem acAudioOpen_meets (hnumbered : Numbered world.control) (direction : UInt32)
    (streamName : Bytes) :
    (acAudioOpen direction streamName).Meets (SlotWorld.handle environment) world
      fun result world' => Opens world result world' := by
  unfold acAudioOpen
  split
  · exact Proc.meets_done (Or.inl ⟨by decide, Keeps.refl world⟩)
  · refine Proc.meets_request_bind rfl ?_
    cases hfound : world.audio.find (!·.allocated) with
    | none => exact Proc.meets_done (Or.inl ⟨by decide, Keeps.refl world⟩)
    | some index =>
        have hfree : (world.control index).allocated = false := by
          have hindex := List.find?_some hfound
          change (world.audio.streams index).allocated = false
          simpa using hindex
        refine acAudioResetSlot_meets.bind ?_
        intro _ world' hreset
        refine Proc.Meets.bind (meets_modifySlot _) ?_
        intro _ world'' hbecomes
        refine Proc.meets_done (Or.inr ⟨rfl, index, hfree, (hnumbered index).1, ?_⟩)
        have hstored : Becomes index { world'.control index with allocated := true } world' world'' :=
          hbecomes
        have hview : world'.control index = { (world.control index).fresh with allocated := false } := by
          rw [hreset.control, Function.update_self]
        rw [hview] at hstored
        exact hreset.trans hstored

theorem acTransportCloseChannel_meets (id : UInt16) :
    (acTransportCloseChannel id).Meets (SlotWorld.handle environment) world
      fun _ world' => Keeps world world' := by
  unfold acTransportCloseChannel
  refine Proc.meets_request_bind rfl ?_
  split
  · exact ⟨_, _, rfl, rfl, rfl⟩
  · exact Proc.meets_done ⟨rfl, rfl⟩

theorem acAudioCloseDataChannel_meets (audio : AcAudioController) (index : Option SlotIndex) :
    (acAudioCloseDataChannel audio index).Meets (SlotWorld.handle environment) world
      fun _ world' => Keeps world world' := by
  cases index with
  | none => exact Proc.meets_done (Keeps.refl world)
  | some index =>
      unfold acAudioCloseDataChannel
      dsimp only
      split
      · exact acTransportCloseChannel_meets _
      · exact Proc.meets_done (Keeps.refl world)

end Control

end AudioStudio.Simulator
