import AudioStudio.Controller.Configure
import AudioStudio.Controller.LockDiscipline

/-!
# The stream slots of the firmware

What holds of every slot after any commands of the audio control channel, as long as no
configured stream is given a configuration that is refused, and no start is refused by SOF
after its data channel was opened.
-/

namespace AudioStudio.Controller

open LittleEndian
open Wire

/-! ## Sound slots -/

/-- What a slot is to be at all times. -/
structure SlotSound (world : World) (index : SlotIndex) : Prop where
  id : (world.slot index).id = index.val.toUInt32 + 1
  dataChannelId : (world.slot index).dataChannelId = dataChannel index
  running : (world.slot index).running = true → (world.slot index).allocated = true ∧
    (world.slot index).configured = true ∧
    ∃ stream, (world.slot index).stream = some stream ∧ (world.sofStreams stream).isSome
  configured : (world.slot index).configured = true → Configured world index
  unallocated : (world.slot index).allocated = false →
    (world.slot index).stream = none ∧ (world.slot index).dmaRaw = none
  channel : world.channels.isOpen (dataChannel index) = true →
    (world.slot index).running = true

/-- A sound slot whose stream and buffer are its own. -/
structure Holds (world : World) (index : SlotIndex) : Prop where
  sound : SlotSound world index
  stream : ∀ stream, (world.slot index).stream = some stream → (world.sofStreams stream).isSome
  buffer : ∀ raw, (world.slot index).dmaRaw = some raw → raw ∈ world.heap
  idle : (world.slot index).allocated = false → (world.slot index).configured = false
  registered : world.channels.isOpen (dataChannel index) = true →
    (world.slot index).channelRegistered = true

/-- All slots hold, and no two share a stream or a buffer. -/
structure SlotsHold (world : World) : Prop where
  holds : ∀ index, Holds world index
  streams : ∀ index other stream, index ≠ other → (world.slot index).stream = some stream →
    (world.slot other).stream ≠ some stream
  buffers : ∀ index other raw, index ≠ other → (world.slot index).dmaRaw = some raw →
    (world.slot other).dmaRaw ≠ some raw

section Slots

variable {driver : DriverOps} {answers : Answers} {world world' world'' : World}
  {index other : SlotIndex}

variable {channels : ChannelTable} {id : UInt16}

theorem isOpen_of_find {channels' : ChannelTable}
    (hfind : acTransportFindChannel channels' id = acTransportFindChannel channels id) :
    channels'.isOpen id = channels.isOpen id := by
  rw [ChannelTable.isOpen, ChannelTable.isOpen, hfind]

/-- A configuration stays while the fields that it is about do, the stream and the buffer. -/
theorem Configured.keep (hconfigured : Configured world index)
    (hstream : (world'.slot index).stream = (world.slot index).stream)
    (hconfig : (world'.slot index).config = (world.slot index).config)
    (hdmaRaw : (world'.slot index).dmaRaw = (world.slot index).dmaRaw)
    (hdmaSize : (world'.slot index).dmaBufferSize = (world.slot index).dmaBufferSize)
    (hframeBytes : (world'.slot index).frameBytes = (world.slot index).frameBytes)
    (hsof : ∀ stream, (world.slot index).stream = some stream →
      world'.sofStreams stream = world.sofStreams stream)
    (hheap : ∀ raw, (world.slot index).dmaRaw = some raw → raw ∈ world'.heap) :
    Configured world' index := by
  obtain ⟨⟨stream, frameFmt, hostPeriodBytes, dmaBuffer, hown, hformat, hparams,
    ⟨raw, hraw, _, haddress⟩, hsize⟩, hproduct⟩ := hconfigured
  constructor
  · refine ⟨stream, frameFmt, hostPeriodBytes, dmaBuffer, hstream.trans hown, ?_, ?_, ?_⟩
    · rw [hconfig]
      exact hformat
    · rw [hconfig, hsof stream hown]
      exact hparams
    · exact ⟨⟨raw, hdmaRaw.trans hraw, hheap raw hraw, haddress⟩, hsize.trans hdmaSize.symm⟩
  · rw [hframeBytes, hconfig]
    exact hproduct

/-- A slot holds on while a command is about another one. -/
theorem Holds.untouched (hholds : Holds world other) (hne : other ≠ index)
    (htouches : Touches index world world')
    (hstream : ∀ stream, (world.slot other).stream = some stream →
      (world.slot index).stream ≠ some stream)
    (hbuffer : ∀ raw, (world.slot other).dmaRaw = some raw →
      (world.slot index).dmaRaw ≠ some raw) : Holds world' other := by
  have hslot := htouches.slots other hne
  have hchannel : world'.channels.isOpen (dataChannel other) =
      world.channels.isOpen (dataChannel other) :=
    isOpen_of_find (htouches.channels _ fun heq => hne (dataChannel_injective other index heq))
  have hsof : ∀ stream, (world.slot other).stream = some stream →
      world'.sofStreams stream = world.sofStreams stream :=
    fun stream hown => htouches.streams stream (hholds.stream stream hown) (hstream stream hown)
  have hheap : ∀ raw, (world.slot other).dmaRaw = some raw → raw ∈ world'.heap :=
    fun raw hown => htouches.buffers raw (hholds.buffer raw hown) (hbuffer raw hown)
  have hsound := hholds.sound
  constructor
  · constructor
    · rw [hslot]
      exact hsound.id
    · rw [hslot]
      exact hsound.dataChannelId
    · intro hrunning
      rw [hslot] at hrunning ⊢
      obtain ⟨hallocated, hconfigured, stream, hown, hopen⟩ := hsound.running hrunning
      exact ⟨hallocated, hconfigured, stream, hown, hsof stream hown ▸ hopen⟩
    · intro hconfigured
      rw [hslot] at hconfigured
      apply (hsound.configured hconfigured).keep _ _ _ _ _ hsof hheap <;> rw [hslot]
    · rw [hslot]
      exact hsound.unallocated
    · rw [hslot, hchannel]
      exact hsound.channel
  · intro stream hown
    rw [hslot] at hown
    exact hsof stream hown ▸ hholds.stream stream hown
  · intro raw hown
    rw [hslot] at hown
    exact hheap raw hown
  · rw [hslot]
    exact hholds.idle
  · rw [hslot, hchannel]
    exact hholds.registered

/-- A command about one slot keeps all slots when it keeps this one. -/
theorem SlotsHold.touches (hslots : SlotsHold world) (htouches : Touches index world world')
    (hholds : Holds world' index) : SlotsHold world' := by
  have hnewStream : ∀ other, other ≠ index → ∀ stream, (world.slot other).stream = some stream →
      (world'.slot index).stream ≠ some stream := by
    intro other hne stream hown hnew
    obtain hold | hfresh := htouches.newStream stream hnew
    · exact hslots.streams other index stream hne hown hold
    · have hopen := (hslots.holds other).stream stream hown
      rw [hfresh] at hopen
      exact absurd hopen nofun
  have hnewBuffer : ∀ other, other ≠ index → ∀ raw, (world.slot other).dmaRaw = some raw →
      (world'.slot index).dmaRaw ≠ some raw := by
    intro other hne raw hown hnew
    obtain hold | hfresh := htouches.newBuffer raw hnew
    · exact hslots.buffers other index raw hne hown hold
    · exact hfresh ((hslots.holds other).buffer raw hown)
  constructor
  · intro other
    by_cases heq : other = index
    · subst heq
      exact hholds
    · exact (hslots.holds other).untouched heq htouches (hslots.streams other index · heq)
        (hslots.buffers other index · heq)
  · intro first second stream hne hfirst hsecond
    by_cases hindex : first = index
    · subst hindex
      rw [htouches.slots second hne.symm] at hsecond
      exact hnewStream second hne.symm stream hsecond hfirst
    · rw [htouches.slots first hindex] at hfirst
      by_cases hindex' : second = index
      · subst hindex'
        exact hnewStream first hindex stream hfirst hsecond
      · rw [htouches.slots second hindex'] at hsecond
        exact hslots.streams first second stream hne hfirst hsecond
  · intro first second raw hne hfirst hsecond
    by_cases hindex : first = index
    · subst hindex
      rw [htouches.slots second hne.symm] at hsecond
      exact hnewBuffer second hne.symm raw hsecond hfirst
    · rw [htouches.slots first hindex] at hfirst
      by_cases hindex' : second = index
      · subst hindex'
        exact hnewBuffer first hindex raw hfirst hsecond
      · rw [htouches.slots second hindex'] at hsecond
        exact hslots.buffers first second raw hne hfirst hsecond

/-! ## Answers and lookups -/

theorem found_slot {streamId : UInt32}
    (hfound : acAudioFindStream world.audio streamId = some index) :
    (world.slot index).allocated = true ∧ (world.slot index).id = streamId := by
  unfold acAudioFindStream at hfound
  split at hfound
  · cases hfound
  · have hwanted := List.find?_some hfound
    exact of_decide_eq_true hwanted

variable {request : AcTransportFrame}

theorem acTransportSendResponse_ensures {extraFlags : UInt32} {payload : Bytes}
    {post : Int → World → Prop} (hpost : ∀ ret, post ret world) :
    (acTransportSendResponse request extraFlags payload).Ensures (World.effect driver answers)
      world post := by
  unfold acTransportSendResponse
  dsimp only
  split
  · exact hpost _
  · exact (ensures_command rfl).mpr (hpost _)

theorem acTransportCloseChannel_ensures {post : Unit → World → Prop}
    (hpost : ∀ channels : ChannelTable, (∀ other, other ≠ id →
        acTransportFindChannel channels other = acTransportFindChannel world.channels other) →
      channels.isOpen id = false → post () { world with channels := channels }) :
    (acTransportCloseChannel id).Ensures (World.effect driver answers) world post := by
  unfold acTransportCloseChannel
  rw [Proc.ensures_bind, ensures_command rfl]
  cases hfind : acTransportFindChannel world.channels id with
  | none =>
      rw [Option.isSome_none, if_neg (by decide)]
      refine hpost _ (fun other hother => find_update_of_ne hother fun _ => rfl) ?_
      rw [ChannelTable.isOpen, stopChannel, find_update (by intro channel; rfl), hfind]
      rfl
  | some channel =>
      rw [Option.isSome_some, if_pos rfl, ensures_command rfl]
      refine hpost _ (fun other hother => find_close_of_ne hother) ?_
      rw [ChannelTable.isOpen, find_close_self, hfind]
      rfl

/-- An open that fails leaves its channel closed. -/
theorem openChannel_failed {threadCreated : Bool}
    (hfailed : (acTransportOpenChannel driver threadCreated id channels).1 ≠ 0) :
    ChannelTable.isOpen (acTransportOpenChannel driver threadCreated id channels).2 id = false := by
  rw [ChannelTable.isOpen, find_open_self]
  cases hfind : acTransportFindChannel channels id with
  | none => rfl
  | some channel =>
      rw [Option.map_some, Option.any_some, openedChannel]
      dsimp only
      unfold acTransportOpenChannel at hfailed
      simp only [hfind] at hfailed
      cases hthread : channel.threadStarted
      · cases hthreads : driver.threads
        · simp [hthread, hthreads] at hfailed
        · cases threadCreated
          · rfl
          · simp [hthread, hthreads] at hfailed
      · simp [hthread] at hfailed

/-! ## Starting and stopping -/

/-- A step that changes no more than whether the slot runs, and its data channel. -/
structure Restarts (index : SlotIndex) (world world' : World) : Prop where
  slots : ∀ other, other ≠ index → world'.slot other = world.slot other
  slot : world'.slot index =
    { world.slot index with
      channelRegistered := (world'.slot index).channelRegistered
      running := (world'.slot index).running }
  channels : ∀ id, id ≠ dataChannel index →
    acTransportFindChannel world'.channels id = acTransportFindChannel world.channels id
  sofStreams : world'.sofStreams = world.sofStreams
  heap : world'.heap = world.heap

theorem Restarts.refl (index : SlotIndex) (world : World) : Restarts index world world where
  slots := fun _ _ => rfl
  slot := rfl
  channels := fun _ _ => rfl
  sofStreams := rfl
  heap := rfl

theorem Restarts.trans (hfirst : Restarts index world world')
    (hsecond : Restarts index world' world'') : Restarts index world world'' where
  slots := fun other hne => (hsecond.slots other hne).trans (hfirst.slots other hne)
  slot := by
    rw [hsecond.slot, hfirst.slot]
  channels := fun id hne => (hsecond.channels id hne).trans (hfirst.channels id hne)
  sofStreams := hsecond.sofStreams.trans hfirst.sofStreams
  heap := hsecond.heap.trans hfirst.heap

theorem Restarts.ofChannels (hothers : ∀ id, id ≠ dataChannel index →
      acTransportFindChannel channels id = acTransportFindChannel world.channels id) :
    Restarts index world { world with channels := channels } where
  slots := fun _ _ => rfl
  slot := rfl
  channels := hothers
  sofStreams := rfl
  heap := rfl

theorem Restarts.setRunning (running : Bool) :
    Restarts index world (world.modify index ({ · with running := running })) where
  slots := fun _ hne => slot_modify_of_ne hne
  slot := by
    rw [slot_modify]
  channels := fun _ _ => rfl
  sofStreams := rfl
  heap := rfl

theorem Restarts.setRegistered :
    Restarts index world (world.modify index ({ · with channelRegistered := true })) where
  slots := fun _ hne => slot_modify_of_ne hne
  slot := by
    rw [slot_modify]
  channels := fun _ _ => rfl
  sofStreams := rfl
  heap := rfl

theorem Restarts.touches (hrestarts : Restarts index world world') :
    Touches index world world' where
  slots := hrestarts.slots
  channels := hrestarts.channels
  streams := fun stream _ _ => by rw [hrestarts.sofStreams]
  buffers := fun raw hraw _ => hrestarts.heap ▸ hraw
  newStream := by
    intro stream hstream
    rw [hrestarts.slot] at hstream
    exact .inl hstream
  newBuffer := by
    intro raw hraw
    rw [hrestarts.slot] at hraw
    exact .inl hraw

/-- A slot holds after it was started or stopped, if it only runs when it is configured and
its channel is only open while it runs. -/
theorem Restarts.holds (hrestarts : Restarts index world world') (hholds : Holds world index)
    (hrunning : (world'.slot index).running = true →
      (world.slot index).allocated = true ∧ (world.slot index).configured = true)
    (hchannel : world'.channels.isOpen (dataChannel index) = true →
      (world'.slot index).running = true ∧ (world'.slot index).channelRegistered = true) :
    Holds world' index := by
  have hslot := hrestarts.slot
  have hsound := hholds.sound
  constructor
  · constructor
    · rw [hslot]
      exact hsound.id
    · rw [hslot]
      exact hsound.dataChannelId
    · intro hruns
      obtain ⟨hallocated, hconfigured⟩ := hrunning hruns
      obtain ⟨⟨stream, _, _, _, hown, _⟩, _⟩ := hsound.configured hconfigured
      rw [hslot, hrestarts.sofStreams]
      exact ⟨hallocated, hconfigured, stream, hown, hholds.stream stream hown⟩
    · intro hconfigured
      rw [hslot] at hconfigured
      have hsof : ∀ stream, (world.slot index).stream = some stream →
          world'.sofStreams stream = world.sofStreams stream := fun _ _ => by
        rw [hrestarts.sofStreams]
      have hheap : ∀ raw, (world.slot index).dmaRaw = some raw → raw ∈ world'.heap :=
        fun raw hraw => hrestarts.heap ▸ hholds.buffer raw hraw
      apply (hsound.configured hconfigured).keep _ _ _ _ _ hsof hheap <;> rw [hslot]
    · rw [hslot]
      exact hsound.unallocated
    · exact fun hopen => (hchannel hopen).1
  · intro stream hown
    rw [hslot] at hown
    rw [hrestarts.sofStreams]
    exact hholds.stream stream hown
  · intro raw hown
    rw [hslot] at hown
    rw [hrestarts.heap]
    exact hholds.buffer raw hown
  · rw [hslot]
    exact hholds.idle
  · exact fun hopen => (hchannel hopen).2

/-! ## The commands -/

/-- What a command about a stream id may do: nothing, or something to the slot with this id,
which holds afterwards when the command is orderly. -/
def Confined (streamId : UInt32) (orderly : Prop) (world world' : World) : Prop :=
  world' = world ∨ ∃ index, (world.slot index).id = streamId ∧ Touches index world world' ∧
    (orderly → Holds world' index)

/-- A slot holds after a configuration that was accepted, or refused before it was ever
configured. -/
theorem Holds.reconfigured (hholds : Holds world index) {config : AcAudioStreamConfig} {ret : Int}
    (hallocated : (world.slot index).allocated = true)
    (hrunning : (world.slot index).running = false)
    (hprepared : Prepared answers index (world.modify index ({ · with config := config })) ret world')
    (horderly : (world.slot index).configured = true → config.Accepted answers) :
    Holds world' index := by
  have hslot : (world.modify index ({ · with config := config })).slot index =
      { world.slot index with config := config } := slot_modify
  have hsound := hholds.sound
  have hkept : (world'.slot index).id = (world.slot index).id ∧
      (world'.slot index).dataChannelId = (world.slot index).dataChannelId ∧
      (world'.slot index).running = false ∧ (world'.slot index).allocated = true ∧
      (world'.slot index).channelRegistered = (world.slot index).channelRegistered := by
    by_cases hret : ret = 0
    · rw [hprepared.ready hret, hslot]
      exact ⟨rfl, rfl, hrunning, hallocated, rfl⟩
    · rw [hprepared.slot hret, hslot]
      exact ⟨rfl, rfl, hrunning, hallocated, rfl⟩
  obtain ⟨hid, hdataChannelId, hstopped, hstays, hregistered⟩ := hkept
  have hchannel : world'.channels.isOpen (dataChannel index) =
      world.channels.isOpen (dataChannel index) := by
    rw [hprepared.channels]
    rfl
  have hclosed : world'.channels.isOpen (dataChannel index) = true → False := by
    intro hopen
    have hruns := hsound.channel (hchannel ▸ hopen)
    exact absurd (hrunning.symm.trans hruns) nofun
  constructor
  · constructor
    · exact hid.trans hsound.id
    · exact hdataChannelId.trans hsound.dataChannelId
    · exact fun hruns => absurd (hstopped.symm.trans hruns) nofun
    · intro hconfigured
      by_cases hret : ret = 0
      · exact hprepared.configured hret
      · have hslot' := hprepared.slot hret
        rw [hslot] at hslot'
        rw [hslot'] at hconfigured
        obtain ⟨⟨stream, _, _, _, hown, _⟩, _⟩ := hsound.configured hconfigured
        have hrefused := hprepared.accepted hret
        rw [hslot] at hrefused
        exact absurd (horderly hconfigured)
          (hrefused fun hnone => absurd (hown.symm.trans hnone) nofun)
    · exact fun hfree => absurd (hstays.symm.trans hfree) nofun
    · exact fun hopen => (hclosed hopen).elim
  · exact hprepared.stream
  · exact hprepared.buffer
  · exact fun hfree => absurd (hstays.symm.trans hfree) nofun
  · exact fun hopen => (hclosed hopen).elim

/-- A configuration of a configured slot is accepted. -/
def ConfigOrderly (answers : Answers) (world : World) (streamId : UInt32)
    (config : AcAudioStreamConfig) : Prop :=
  ∀ index, acAudioFindStream world.audio streamId = some index →
    (world.slot index).configured = true → (world.slot index).running = false →
      config.Accepted answers

theorem acAudioConfigure_ensures (hslots : SlotsHold world) (streamId : UInt32)
    (config : AcAudioStreamConfig) :
    (acAudioConfigure streamId config).Ensures (World.effect driver answers) world
      fun _ world' => Confined streamId (ConfigOrderly answers world streamId config)
        world world' := by
  unfold acAudioConfigure
  rw [Proc.ensures_bind, ensures_streams]
  cases hfound : acAudioFindStream world.audio streamId with
  | none => exact .inl rfl
  | some index =>
      obtain ⟨hallocated, hid⟩ := found_slot hfound
      have hholds := hslots.holds index
      dsimp only
      rw [streams_eq_slot]
      cases hrunning : (world.slot index).running with
      | true => exact .inl rfl
      | false =>
          rw [if_neg (by decide), Proc.ensures_bind, ensures_modifySlot]
          have hslot : (world.modify index ({ · with config := config })).slot index =
              { world.slot index with config := config } := slot_modify
          refine (acAudioPrepareSofStream_ensures ?_ ?_ ?_).mono ?_
          · rw [hslot]
            exact hallocated
          · rw [hslot]
            exact hholds.stream
          · rw [hslot]
            exact hholds.buffer
          · intro ret world' hprepared
            refine .inr ⟨index, hid, ?_, fun horderly => ?_⟩
            · exact (Touches.modify (Or.inl rfl) (Or.inl rfl)).trans hprepared.touches
            · exact hholds.reconfigured hallocated hrunning hprepared
                (horderly index hfound · hrunning)

/-- The registration of a slot's data channel. -/
def World.register (world : World) (driver : DriverOps) (answers : Answers) (index : SlotIndex) :
    Int × ChannelTable :=
  if (world.slot index).channelRegistered then (0, world.channels)
  else acTransportRegisterChannel driver answers.mutexCreated (world.slot index).dataChannelId
    .audioData world.channels

/-- Whether a start comes to open the slot's data channel. -/
def World.opensChannel (world : World) (driver : DriverOps) (answers : Answers)
    (index : SlotIndex) : Prop :=
  (world.register driver answers index).1 = 0 ∧
    (acTransportOpenChannel driver answers.threadCreated (world.slot index).dataChannelId
      (world.register driver answers index).2).1 = 0

/-- SOF starts the stream of a slot whose data channel is opened. -/
def StartOrderly (driver : DriverOps) (answers : Answers) (world : World) (streamId : UInt32) :
    Prop :=
  ∀ index stream, acAudioFindStream world.audio streamId = some index →
    (world.slot index).stream = some stream → (world.slot index).configured = true →
      (world.slot index).running = false → world.opensChannel driver answers index →
        answers.trigger stream = 0

/-- A registration leaves the slot as it was, or with a registered channel. -/
theorem acAudioRegisterDataChannel_ensures (hholds : Holds world index) :
    (acAudioRegisterDataChannel index (world.slot index)).Ensures (World.effect driver answers)
      world fun ret world' => (ret ≠ 0 ∧ world' = world) ∨
        (ret = 0 ∧ Restarts index world world' ∧ (world.register driver answers index).1 = 0 ∧
          world'.channels = (world.register driver answers index).2 ∧
          (world'.slot index).running = (world.slot index).running ∧
          (world'.slot index).channelRegistered = true) := by
  unfold acAudioRegisterDataChannel World.register
  cases hregistered : (world.slot index).channelRegistered with
  | true =>
      rw [if_pos rfl, if_pos rfl]
      exact .inr ⟨rfl, Restarts.refl index world, rfl, rfl, rfl, hregistered⟩
  | false =>
      rw [if_neg (by decide), if_neg (by decide), Proc.ensures_bind, ensures_command rfl]
      obtain hrefused | ⟨hunknown, hcreated⟩ := find_register driver
        (world.slot index).dataChannelId .audioData answers.mutexCreated world.channels
      · rw [hrefused]
        exact .inl ⟨by decide, rfl⟩
      · rw [hcreated, if_neg fun hne => hne rfl, Proc.ensures_bind, ensures_modifySlot]
        have hothers : ∀ id, id ≠ dataChannel index →
            acTransportFindChannel (world.channels ++
              [{ id := (world.slot index).dataChannelId, handler := .audioData,
                 mutexCreated := driver.mutexes }]) id =
              acTransportFindChannel world.channels id := by
          intro id hne
          rw [find_append id _ hunknown, if_neg]
          exact fun heq => hne (heq.symm.trans hholds.sound.dataChannelId)
        refine .inr ⟨rfl, (Restarts.ofChannels hothers).trans Restarts.setRegistered, rfl, rfl, ?_, ?_⟩
        · rw [slot_modify]
          rfl
        · rw [slot_modify]

/-- The stream runs already, or SOF refuses to start it, or it runs from now on. -/
theorem acAudioTriggerStart_ensures {slot : AcAudioStreamSlot} {stream : Nat} :
    (acAudioTriggerStart index slot stream).Ensures (World.effect driver answers) world
      fun ret world' => (slot.running = true ∧ ret = 0 ∧ world' = world) ∨
        (slot.running = false ∧ answers.trigger stream ≠ 0 ∧ ret ≠ 0 ∧ world' = world) ∨
        (ret = 0 ∧ world' = world.modify index ({ · with running := true })) := by
  unfold acAudioTriggerStart
  cases hrunning : slot.running with
  | true => exact .inl ⟨rfl, rfl, rfl⟩
  | false =>
      rw [if_neg (by decide), Proc.ensures_bind, ensures_command rfl]
      split
      · next htrigger => exact .inr (.inl ⟨rfl, htrigger, by decide, rfl⟩)
      · rw [Proc.ensures_bind, ensures_modifySlot]
        exact .inr (.inr ⟨rfl, rfl⟩)

theorem acAudioStart_ensures (hslots : SlotsHold world) (streamId : UInt32) :
    (acAudioStart streamId).Ensures (World.effect driver answers) world
      fun _ world' => Confined streamId (StartOrderly driver answers world streamId)
        world world' := by
  unfold acAudioStart
  rw [Proc.ensures_bind, ensures_streams]
  cases hfound : acAudioFindStream world.audio streamId with
  | none => exact .inl rfl
  | some index =>
      obtain ⟨hallocated, hid⟩ := found_slot hfound
      have hholds := hslots.holds index
      dsimp only
      rw [streams_eq_slot]
      cases hstream : (world.slot index).stream with
      | none => exact .inl rfl
      | some stream =>
          dsimp only
          cases hconfigured : (world.slot index).configured with
          | false => exact .inl rfl
          | true =>
              rw [if_neg (by decide)]
              refine (acAudioRegisterDataChannel_ensures hholds).bind fun ret registered hresult => ?_
              obtain ⟨hret, rfl⟩ | ⟨rfl, hrestarts, hregister, hchannels, hrunning, hregistered⟩ :=
                hresult
              · rw [if_pos hret]
                exact .inl rfl
              · have hdata := hholds.sound.dataChannelId
                rw [if_neg (by decide), hdata, Proc.ensures_bind, ensures_command rfl]
                have hothers : ∀ id, id ≠ dataChannel index → acTransportFindChannel
                    (acTransportOpenChannel driver answers.threadCreated (dataChannel index)
                      registered.channels).2 id = acTransportFindChannel registered.channels id :=
                  fun id hne => find_open_of_ne hne
                have hopened := hrestarts.trans (Restarts.ofChannels hothers)
                split
                · next hfailed =>
                    have hclosed := openChannel_failed hfailed
                    refine .inr ⟨index, hid, hopened.touches, fun _ => hopened.holds hholds ?_ ?_⟩
                    · exact fun _ => ⟨hallocated, hconfigured⟩
                    · exact fun hopen => absurd (hclosed.symm.trans hopen) nofun
                · next hopens =>
                    refine acAudioTriggerStart_ensures.bind fun ret started htriggered => ?_
                    obtain ⟨hruns, rfl, rfl⟩ | ⟨hstopped, htrigger, hret, rfl⟩ | ⟨rfl, rfl⟩ :=
                      htriggered
                    · rw [if_neg (by decide)]
                      refine .inr ⟨index, hid, hopened.touches, fun _ => hopened.holds hholds ?_ ?_⟩
                      · exact fun _ => ⟨hallocated, hconfigured⟩
                      · exact fun _ => ⟨hrunning.trans hruns, hregistered⟩
                    · rw [if_pos hret]
                      refine .inr ⟨index, hid, hopened.touches, fun horderly => ?_⟩
                      refine absurd (horderly index stream hfound hstream hconfigured hstopped ?_)
                        htrigger
                      refine ⟨hregister, ?_⟩
                      rw [← hchannels, hdata]
                      exact not_not.mp hopens
                    · rw [if_neg (by decide)]
                      have hstarted := hopened.trans (Restarts.setRunning true)
                      refine .inr ⟨index, hid, hstarted.touches, fun _ => ?_⟩
                      apply hstarted.holds hholds
                      · exact fun _ => ⟨hallocated, hconfigured⟩
                      · intro _
                        rw [slot_modify]
                        exact ⟨rfl, hregistered⟩

/-! ### Stopping and closing -/

theorem acAudioCloseDataChannel_ensures (hholds : Holds world index) {post : Unit → World → Prop}
    (hpost : ∀ channels : ChannelTable, (∀ id, id ≠ dataChannel index →
        acTransportFindChannel channels id = acTransportFindChannel world'.channels id) →
      channels.isOpen (dataChannel index) = false → post () { world' with channels := channels })
    (hchannel : world'.channels.isOpen (dataChannel index) =
      world.channels.isOpen (dataChannel index)) :
    (acAudioCloseDataChannel world.audio (some index)).Ensures (World.effect driver answers)
      world' post := by
  unfold acAudioCloseDataChannel
  dsimp only
  rw [streams_eq_slot, hholds.sound.dataChannelId]
  split
  · exact acTransportCloseChannel_ensures hpost
  · next hunregistered =>
      refine hpost world'.channels (fun _ _ => rfl) ?_
      rw [hchannel]
      exact Bool.eq_false_of_not_eq_true fun hopen => hunregistered (hholds.registered hopen)

/-- A stop that SOF refuses changes nothing. -/
theorem acAudioStop_ensures (streamId : UInt32) :
    (acAudioStop streamId).Ensures (World.effect driver answers) world fun ret world' =>
      (ret ≠ 0 ∧ world' = world) ∨ ∃ index, acAudioFindStream world.audio streamId = some index ∧
        ret = 0 ∧ world' = world.modify index ({ · with running := false }) := by
  unfold acAudioStop
  rw [Proc.ensures_bind, ensures_streams]
  cases hfound : acAudioFindStream world.audio streamId with
  | none => exact .inl ⟨by decide, rfl⟩
  | some index =>
      have hstops : ∀ ret : Int, (do
          if ret ≠ 0 then pure (-1)
          else do
            modifySlot index ({ · with running := false })
            pure 0 : ControllerProc Int).Ensures (World.effect driver answers) world
            fun ret world' => (ret ≠ 0 ∧ world' = world) ∨ ∃ found, some index = some found ∧
              ret = 0 ∧ world' = world.modify found ({ · with running := false }) := by
        intro ret
        split
        · exact .inl ⟨by decide, rfl⟩
        · rw [Proc.ensures_bind, ensures_modifySlot]
          exact .inr ⟨index, rfl, rfl, rfl⟩
      dsimp only
      rw [streams_eq_slot, Proc.ensures_bind, acAudioTriggerStop]
      split
      · exact hstops 0
      · split
        · exact hstops 0
        · rw [ensures_command rfl]
          exact hstops _

/-- What is left of a slot that was closed. -/
structure Closed (index : SlotIndex) (world world' : World) : Prop where
  touches : Touches index world world'
  channels : world'.channels = world.channels
  slot : world'.slot index =
    { world.slot index with
      stream := none, dmaRaw := none, dmaAligned := 0, dmaBufferSize := 0, allocated := false,
      configured := false, running := false, direction := 0, streamName := [], frameBytes := 0,
      framesWritten := 0, framesRead := 0 }

/-- A slot with nothing in it holds, allocated or not. -/
theorem holds_of_empty (hid : (world.slot index).id = index.val.toUInt32 + 1)
    (hdata : (world.slot index).dataChannelId = dataChannel index)
    (hrunning : (world.slot index).running = false)
    (hconfigured : (world.slot index).configured = false)
    (hstream : (world.slot index).stream = none) (hdmaRaw : (world.slot index).dmaRaw = none)
    (hclosed : world.channels.isOpen (dataChannel index) = false) : Holds world index where
  sound :=
    { id := hid
      dataChannelId := hdata
      running := fun hruns => absurd (hrunning.symm.trans hruns) nofun
      configured := fun hset => absurd (hconfigured.symm.trans hset) nofun
      unallocated := fun _ => ⟨hstream, hdmaRaw⟩
      channel := fun hopen => absurd (hclosed.symm.trans hopen) nofun }
  stream := fun _ hown => absurd (hstream.symm.trans hown) nofun
  buffer := fun _ hown => absurd (hdmaRaw.symm.trans hown) nofun
  idle := fun _ => hconfigured
  registered := fun hopen => absurd (hclosed.symm.trans hopen) nofun

theorem Closed.holds (hclosed : Closed index world world') (hholds : Holds world index)
    (hchannel : world.channels.isOpen (dataChannel index) = false) : Holds world' index := by
  have hslot := hclosed.slot
  apply holds_of_empty
  · rw [hslot]
    exact hholds.sound.id
  · rw [hslot]
    exact hholds.sound.dataChannelId
  · rw [hslot]
  · rw [hslot]
  · rw [hslot]
  · rw [hslot]
  · rw [hclosed.channels]
    exact hchannel

/-- A change of a stream that the slot holds. -/
theorem setSofStream_touches {stream : Nat} {state : Option (Option SofStreamParams)}
    (hown : (world.slot index).stream = some stream) :
    Touches index world (world.setSofStream stream state) where
  slots := fun _ _ => rfl
  channels := fun _ _ => rfl
  streams := by
    intro other _ hother
    refine Function.update_of_ne (fun heq => hother ?_) _ _
    rw [heq, hown]
  buffers := fun _ hraw _ => hraw
  newStream := fun _ hstream => .inl hstream
  newBuffer := fun _ hraw => .inl hraw

theorem acAudioCloseSofStream_ensures {stream : Option Nat}
    (hstream : (world.slot index).stream = stream) :
    (acAudioCloseSofStream index stream).Ensures (World.effect driver answers) world
      fun _ world' => Touches index world world' ∧ world'.channels = world.channels ∧
        world'.slot index = { world.slot index with stream := none } := by
  cases stream with
  | none =>
      refine ⟨Touches.refl index world, rfl, ?_⟩
      rw [← hstream]
  | some stream =>
      rw [acAudioCloseSofStream, Proc.ensures_bind, ensures_command rfl, ensures_modifySlot]
      refine ⟨(setSofStream_touches hstream).trans (Touches.modify (Or.inr rfl) (Or.inl rfl)), rfl,
        ?_⟩
      rw [slot_modify]
      rfl

theorem acAudioClose_ensures (streamId : UInt32) :
    (acAudioClose streamId).Ensures (World.effect driver answers) world fun ret world' =>
      (ret ≠ 0 ∧ world' = world) ∨ ∃ index, acAudioFindStream world.audio streamId = some index ∧
        ret = 0 ∧ Closed index world world' := by
  unfold acAudioClose
  rw [Proc.ensures_bind, ensures_streams]
  cases hfound : acAudioFindStream world.audio streamId with
  | none => exact .inl ⟨by decide, rfl⟩
  | some index =>
      dsimp only
      rw [streams_eq_slot]
      refine (acAudioStop_ensures streamId).bind fun ret stopped hstopped => ?_
      have hstops : Restarts index world stopped ∧ stopped.channels = world.channels ∧
          stopped.slot index =
            { world.slot index with running := (stopped.slot index).running } := by
        obtain ⟨_, rfl⟩ | ⟨found, hsame, _, rfl⟩ := hstopped
        · exact ⟨Restarts.refl index stopped, rfl, rfl⟩
        · obtain rfl := Option.some.inj (hfound.symm.trans hsame)
          exact ⟨Restarts.setRunning false, rfl, by rw [slot_modify]⟩
      obtain ⟨hrestarts, hchannels, hkept⟩ := hstops
      have hstream : (stopped.slot index).stream = (world.slot index).stream := by
        rw [hrestarts.slot]
      refine (acAudioCloseSofStream_ensures hstream).bind fun _ closed hclosed => ?_
      obtain ⟨htouches, hchannels', hslot⟩ := hclosed
      rw [Proc.ensures_bind, acAudioFreeDma_ensures, Proc.ensures_bind, ensures_modifySlot]
      refine .inr ⟨index, rfl, rfl, ?_⟩
      constructor
      · exact ((hrestarts.touches.trans htouches).trans freeDma_prepares.touches).trans
          (Touches.modify (Or.inl rfl) (Or.inl rfl))
      · exact (freeDma_channels.trans hchannels').trans hchannels
      · rw [slot_modify, slot_freeDma, hslot]
        conv_lhs => rw [hkept]

theorem acAudioHandleStop_ensures (hslots : SlotsHold world) (request : AcTransportFrame) :
    (acAudioHandleStop request).Ensures (World.effect driver answers) world
      fun _ world' => Confined (word32 request.payload 0) True world world' := by
  unfold acAudioHandleStop
  dsimp only
  rw [Proc.ensures_bind, ensures_streams]
  refine (acAudioStop_ensures _).bind fun ret stopped hstopped => ?_
  obtain ⟨hret, rfl⟩ | ⟨index, hfound, rfl, rfl⟩ := hstopped
  · rw [if_pos hret]
    exact acTransportSendResponse_ensures fun _ => .inl rfl
  · obtain ⟨hallocated, hid⟩ := found_slot hfound
    have hholds := hslots.holds index
    rw [if_neg (by decide), hfound, Proc.ensures_bind]
    apply acAudioCloseDataChannel_ensures hholds
    · intro channels hothers hclosed
      apply acTransportSendResponse_ensures
      intro _
      have hstops : Restarts index world
          { world.modify index ({ · with running := false }) with channels := channels } :=
        (Restarts.setRunning false).trans (Restarts.ofChannels hothers)
      refine .inr ⟨index, hid, hstops.touches, fun _ => hstops.holds hholds ?_ ?_⟩
      · intro hruns
        have hstopped : ((world.modify index ({ · with running := false })).slot index).running =
            false := by
          rw [slot_modify]
        exact absurd (hstopped.symm.trans hruns) nofun
      · exact fun hopen => absurd (hclosed.symm.trans hopen) nofun
    · rfl

theorem acAudioHandleClose_ensures (hslots : SlotsHold world) (request : AcTransportFrame) :
    (acAudioHandleClose request).Ensures (World.effect driver answers) world
      fun _ world' => Confined (word32 request.payload 0) True world world' := by
  unfold acAudioHandleClose
  dsimp only
  rw [Proc.ensures_bind, ensures_streams]
  cases hfound : acAudioFindStream world.audio (word32 request.payload 0) with
  | none =>
      rw [Proc.ensures_bind]
      refine (acAudioClose_ensures _).bind fun ret closed hclosed => ?_
      obtain ⟨hret, rfl⟩ | ⟨index, hsome, _⟩ := hclosed
      · rw [if_pos hret]
        exact acTransportSendResponse_ensures fun _ => .inl rfl
      · exact absurd (hfound.symm.trans hsome) nofun
  | some index =>
      obtain ⟨hallocated, hid⟩ := found_slot hfound
      have hholds := hslots.holds index
      rw [Proc.ensures_bind]
      apply acAudioCloseDataChannel_ensures hholds
      · intro channels hothers hshut
        have hcloses : Touches index world { world with channels := channels } :=
          Touches.ofChannels hothers
        have hheld : Holds { world with channels := channels } index := by
          apply (Restarts.ofChannels hothers).holds hholds
          · exact fun hruns => ⟨hallocated, (hholds.sound.running hruns).2.1⟩
          · exact fun hopen => absurd (hshut.symm.trans hopen) nofun
        refine (acAudioClose_ensures _).bind fun ret closed hclosed => ?_
        obtain ⟨hret, rfl⟩ | ⟨found, hsame, rfl, hclosed⟩ := hclosed
        · rw [if_pos hret]
          refine acTransportSendResponse_ensures fun _ => .inr ⟨index, hid, hcloses, fun _ => hheld⟩
        · obtain rfl := Option.some.inj (hfound.symm.trans hsame)
          rw [if_neg (by decide)]
          refine acTransportSendResponse_ensures fun _ => .inr ⟨index, hid, ?_, fun _ => ?_⟩
          · exact hcloses.trans hclosed.touches
          · exact hclosed.holds hheld hshut
      · rfl

/-! ### The other commands -/

theorem acAudioHandleConfig_ensures (hslots : SlotsHold world) (hlong : 12 ≤ request.payload.length)
    :
    (acAudioHandleConfig request).Ensures (World.effect driver answers) world
      fun _ world' => Confined (word32 request.payload 0)
        (ConfigOrderly answers world (word32 request.payload 0) (.ofPayload request.payload))
        world world' := by
  unfold acAudioHandleConfig
  rw [if_neg (Nat.not_lt.mpr hlong)]
  refine (acAudioConfigure_ensures hslots _ _).bind fun ret configured hconfigured => ?_
  split
  · exact acTransportSendResponse_ensures fun _ => hconfigured
  · exact acTransportSendResponse_ensures fun _ => hconfigured

theorem acAudioHandleStart_ensures (hslots : SlotsHold world) (request : AcTransportFrame) :
    (acAudioHandleStart request).Ensures (World.effect driver answers) world
      fun _ world' => Confined (word32 request.payload 0)
        (StartOrderly driver answers world (word32 request.payload 0)) world world' := by
  unfold acAudioHandleStart
  refine (acAudioStart_ensures hslots _).bind fun result started hstarted => ?_
  obtain ⟨ret, dataChannelId⟩ := result
  dsimp only
  split
  · exact acTransportSendResponse_ensures fun _ => hstarted
  · exact acTransportSendResponse_ensures fun _ => hstarted

/-- An open takes a slot that was unallocated. -/
theorem acAudioOpen_ensures (hslots : SlotsHold world) (direction : UInt32) (streamName : Bytes) :
    (acAudioOpen direction streamName).Ensures (World.effect driver answers) world
      fun _ world' => SlotsHold world' := by
  unfold acAudioOpen
  split
  · exact hslots
  · rw [Proc.ensures_bind, ensures_streams]
    cases hfound : world.audio.find (!·.allocated) with
    | none => exact hslots
    | some index =>
        have hfree : (world.slot index).allocated = false := by
          have hwanted := List.find?_some hfound
          simpa only [Bool.not_eq_true', streams_eq_slot] using hwanted
        have hholds := hslots.holds index
        have hidle : (world.slot index).running = false := by
          refine Bool.eq_false_of_not_eq_true fun hruns => ?_
          exact absurd (hfree.symm.trans (hholds.sound.running hruns).1) nofun
        have hshut : world.channels.isOpen (dataChannel index) = false := by
          refine Bool.eq_false_of_not_eq_true fun hopen => ?_
          exact absurd (hidle.symm.trans (hholds.sound.channel hopen)) nofun
        dsimp only
        rw [acAudioResetSlot, Proc.ensures_bind, Proc.ensures_bind, acAudioFreeDma_ensures,
          ensures_modifySlot, Proc.ensures_bind, ensures_modifySlot]
        apply hslots.touches
        · exact (freeDma_prepares.touches.trans (Touches.modify (Or.inr rfl) (Or.inr rfl))).trans
            (Touches.modify (Or.inl rfl) (Or.inl rfl))
        · have hslot := @slot_freeDma world index
          apply holds_of_empty
          · rw [slot_modify, slot_modify, hslot]
            exact hholds.sound.id
          · rw [slot_modify, slot_modify, hslot]
            exact hholds.sound.dataChannelId
          · rw [slot_modify, slot_modify]
          · rw [slot_modify, slot_modify]
          · rw [slot_modify, slot_modify]
          · rw [slot_modify, slot_modify]
          · rw [World.modify, World.modify]
            dsimp only
            rw [freeDma_channels]
            exact hshut

theorem acAudioHandleOpen_ensures (hslots : SlotsHold world) (request : AcTransportFrame) :
    (acAudioHandleOpen request).Ensures (World.effect driver answers) world
      fun _ world' => SlotsHold world' := by
  unfold acAudioHandleOpen
  split
  · exact acTransportSendResponse_ensures fun _ => hslots
  · rw [Proc.ensures_bind, ensures_command rfl]
    refine (acAudioOpen_ensures hslots _ _).bind fun result opened hopened => ?_
    obtain ⟨ret, streamId⟩ := result
    dsimp only
    split
    · exact acTransportSendResponse_ensures fun _ => hopened
    · exact acTransportSendResponse_ensures fun _ => hopened

/-- The end of the controller, with the data channels closed before. -/
theorem acAudioDeinitFrom_ensures (indices : List SlotIndex) (hslots : SlotsHold world)
    (hshut : ∀ index, world.channels.isOpen (dataChannel index) = false) :
    (acAudioDeinitFrom indices).Ensures (World.effect driver answers) world
      fun _ world' => SlotsHold world' := by
  induction indices generalizing world with
  | nil => exact hslots
  | cons index indices ih =>
      rw [acAudioDeinitFrom, Proc.ensures_bind, ensures_streams]
      dsimp only
      rw [streams_eq_slot]
      split
      · refine (acAudioClose_ensures _).bind fun ret closed hclosed => ?_
        obtain ⟨_, rfl⟩ | ⟨found, _, _, hclosed⟩ := hclosed
        · exact ih hslots hshut
        · apply ih
          · exact hslots.touches hclosed.touches (hclosed.holds (hslots.holds found) (hshut found))
          · intro other
            rw [hclosed.channels]
            exact hshut other
      · exact ih hslots hshut

/-! ## One request -/

/-- What a confined command leaves alone, and what it keeps when it is orderly. -/
theorem Confined.result {streamId : UInt32} {orderly : Prop} (hslots : SlotsHold world)
    (hconfined : Confined streamId orderly world world') :
    (orderly → SlotsHold world') ∧ ∀ other, (world.slot other).id ≠ streamId →
      world'.slot other = world.slot other ∧
        acTransportFindChannel world'.channels (dataChannel other) =
          acTransportFindChannel world.channels (dataChannel other) := by
  obtain rfl | ⟨index, hid, htouches, hholds⟩ := hconfined
  · exact ⟨fun _ => hslots, fun _ _ => ⟨rfl, rfl⟩⟩
  · refine ⟨fun horderly => hslots.touches htouches (hholds horderly), ?_⟩
    intro other hother
    have hne : other ≠ index := fun heq => hother (heq ▸ hid)
    exact ⟨htouches.slots other hne,
      htouches.channels _ fun heq => hne (dataChannel_injective other index heq)⟩

/-- The configuration or the start that a request asks for is orderly. -/
structure RequestOrderly (driver : DriverOps) (answers : Answers) (world : World)
    (request : AcTransportFrame) : Prop where
  config : request.commandId = acTransportAudioConfig → 12 ≤ request.payload.length →
    ConfigOrderly answers world (word32 request.payload 0) (.ofPayload request.payload)
  start : request.commandId = acTransportAudioStart → 4 ≤ request.payload.length →
    StartOrderly driver answers world (word32 request.payload 0)

theorem handler_ensures (hslots : SlotsHold world) (request : AcTransportFrame) :
    (acAudioControlTransportHandler request).Ensures (World.effect driver answers) world
      fun _ world' => (RequestOrderly driver answers world request → SlotsHold world') ∧
        (request.commandId ≠ acTransportAudioOpen → ∀ other,
          (world.slot other).id ≠ word32 request.payload 0 →
            world'.slot other = world.slot other ∧
              acTransportFindChannel world'.channels (dataChannel other) =
                acTransportFindChannel world.channels (dataChannel other)) := by
  unfold acAudioControlTransportHandler
  split
  · next hopen =>
      refine (acAudioHandleOpen_ensures hslots request).mono fun _ world' hslots' => ?_
      exact ⟨fun _ => hslots', fun hne => absurd hopen hne⟩
  · split
    · exact acTransportSendResponse_ensures fun _ => ⟨fun _ => hslots, fun _ _ _ => ⟨rfl, rfl⟩⟩
    · next hlong =>
        split
        · next hconfig =>
            by_cases hshort : request.payload.length < 12
            · unfold acAudioHandleConfig
              rw [if_pos hshort]
              exact acTransportSendResponse_ensures fun _ =>
                ⟨fun _ => hslots, fun _ _ _ => ⟨rfl, rfl⟩⟩
            · refine (acAudioHandleConfig_ensures hslots (Nat.not_lt.mp hshort)).mono ?_
              intro _ world' hconfined
              obtain ⟨hkeeps, hleaves⟩ := hconfined.result hslots
              exact ⟨fun horderly => hkeeps (horderly.config hconfig (Nat.not_lt.mp hshort)),
                fun _ => hleaves⟩
        · split
          · next hstart =>
              refine (acAudioHandleStart_ensures hslots request).mono ?_
              intro _ world' hconfined
              obtain ⟨hkeeps, hleaves⟩ := hconfined.result hslots
              exact ⟨fun horderly => hkeeps (horderly.start hstart (Nat.not_lt.mp hlong)),
                fun _ => hleaves⟩
          · split
            · refine (acAudioHandleStop_ensures hslots request).mono fun _ world' hconfined => ?_
              obtain ⟨hkeeps, hleaves⟩ := hconfined.result hslots
              exact ⟨fun _ => hkeeps trivial, fun _ => hleaves⟩
            · split
              · refine (acAudioHandleClose_ensures hslots request).mono fun _ world' hconfined => ?_
                obtain ⟨hkeeps, hleaves⟩ := hconfined.result hslots
                exact ⟨fun _ => hkeeps trivial, fun _ => hleaves⟩
              · exact acTransportSendResponse_ensures fun _ =>
                  ⟨fun _ => hslots, fun _ _ _ => ⟨rfl, rfl⟩⟩

end Slots

/-! ## Runs -/

/-- A request on the audio control channel, or the end of the controller, with what the
environment answers meanwhile. -/
inductive AudioEvent where
  | request (request : AcTransportFrame) (answers : Answers)
  | deinit (answers : Answers)

namespace AudioEvent

/-- The world after an event. -/
def next (driver : DriverOps) (world : World) : AudioEvent → Option World
  | .request frame answers =>
      match (acAudioControlTransportHandler frame).run (World.handle driver answers) world with
      | (.done _, world) => some world
      | _ => none
  | .deinit answers =>
      match acAudioDeinit.run (World.handle driver answers) world with
      | (.done _, world) => some world
      | _ => none

/-- An event whose request is orderly; the controller ends with its data channels closed, as
`audio_controller_destroy` sees to. -/
def Orderly (driver : DriverOps) (world : World) : AudioEvent → Prop
  | .request frame answers => RequestOrderly driver answers world frame
  | .deinit _ => ∀ index, world.channels.isOpen (dataChannel index) = false

end AudioEvent

/-- The controller right after `ac_audio_init`, whatever else is allocated or open. -/
structure AudioInitial (world : World) : Prop where
  audio : world.audio = acAudioInit
  channels : ∀ index, world.channels.isOpen (dataChannel index) = false

/-- What can be reached by orderly events. -/
inductive SlotsReach (driver : DriverOps) : World → Prop where
  | start (world : World) (hinitial : AudioInitial world) : SlotsReach driver world
  | step (world world' : World) (event : AudioEvent) (hreach : SlotsReach driver world)
      (horderly : event.Orderly driver world) (hnext : event.next driver world = some world') :
      SlotsReach driver world'

section Runs

variable {driver : DriverOps} {world world' : World} {request : AcTransportFrame}

theorem next_request {answers : Answers}
    (hnext : (AudioEvent.request request answers).next driver world = some world') :
    ∃ ret, (acAudioControlTransportHandler request).run (World.handle driver answers) world =
      (.done ret, world') := by
  simp only [AudioEvent.next] at hnext
  split at hnext
  · next ret _ hrun =>
      cases hnext
      exact ⟨ret, hrun⟩
  · cases hnext

theorem AudioInitial.slotsHold (hinitial : AudioInitial world) : SlotsHold world := by
  have hslot : ∀ index, world.slot index =
      { id := index.val.toUInt32 + 1, dataChannelId := dataChannel index } := by
    intro index
    rw [World.slot, hinitial.audio]
    rfl
  constructor
  · intro index
    apply holds_of_empty
    · rw [hslot]
    · rw [hslot]
    · rw [hslot]
    · rw [hslot]
    · rw [hslot]
    · rw [hslot]
    · exact hinitial.channels index
  · intro index other stream _ hown
    rw [hslot] at hown
    cases hown
  · intro index other raw _ hown
    rw [hslot] at hown
    cases hown

theorem SlotsHold.next (hslots : SlotsHold world) {event : AudioEvent}
    (horderly : event.Orderly driver world) (hnext : event.next driver world = some world') :
    SlotsHold world' := by
  cases event with
  | request request answers =>
      obtain ⟨ret, hrun⟩ := next_request hnext
      exact ((handler_ensures hslots request).of_run hrun).1 horderly
  | deinit answers =>
      simp only [AudioEvent.next] at hnext
      split at hnext
      · next hrun =>
          cases hnext
          exact (acAudioDeinitFrom_ensures _ hslots horderly).of_run hrun
      · cases hnext

theorem SlotsReach.slotsHold (hreach : SlotsReach driver world) : SlotsHold world := by
  induction hreach with
  | start world hinitial => exact hinitial.slotsHold
  | step world world' event _ horderly hnext ih => exact ih.next horderly hnext

end Runs

/-- In every state that orderly events lead to, each slot is sound, and a request that names
a stream id changes no other slot and no other data channel, orderly or not. -/
theorem slots_sound (driver : DriverOps) (world : World) (hreach : SlotsReach driver world) :
    (∀ index, SlotSound world index) ∧
    ∀ (request : AcTransportFrame) (answers : Answers) (world' : World),
      (AudioEvent.request request answers).next driver world = some world' →
      request.commandId ≠ acTransportAudioOpen →
      ∀ other, (world.slot other).id ≠ word32 request.payload 0 →
        world'.slot other = world.slot other ∧
          acTransportFindChannel world'.channels (dataChannel other) =
            acTransportFindChannel world.channels (dataChannel other) := by
  have hslots := hreach.slotsHold
  refine ⟨fun index => (hslots.holds index).sound, ?_⟩
  intro request answers world' hnext hcommand
  obtain ⟨ret, hrun⟩ := next_request hnext
  exact ((handler_ensures hslots request).of_run hrun).2 hcommand

/-! ## Three runs -/

def freshWorld : World where
  audio := acAudioInit
  channels := []
  heap := []
  sofStreams := fun _ => none

theorem freshWorld_initial : AudioInitial freshWorld where
  audio := rfl
  channels := fun _ => rfl

/-- Every call that is answered this way succeeds. -/
def granted : Answers := { buffer := some 4096, stream := some 1 }

def openRequest : AcTransportFrame :=
  { channelId := 3, commandId := acTransportAudioOpen, payload := le32 1 ++ [80, 0] }

def configRequest : AcTransportFrame :=
  { channelId := 3, commandId := acTransportAudioConfig
    payload := le32 1 ++ le32 48000 ++ le16 2 ++ le16 2 }

def startRequest : AcTransportFrame :=
  { channelId := 3, commandId := acTransportAudioStart, payload := le32 1 }

/-- The world after events that can all happen. -/
def after (events : List AudioEvent) : Option World :=
  events.foldlM (fun world event => event.next ⟨true, true⟩ world) freshWorld

/-- The first slot. -/
def firstSlot : SlotIndex := ⟨0, acTransportAudioMaxStreams_pos⟩

theorem configRequest_accepted :
    (AcAudioStreamConfig.ofPayload configRequest.payload).Accepted granted where
  sampleRate := by decide
  channels := by decide
  format := by decide
  frameBytes := by decide
  sizes := by decide +kernel
  buffer := by decide
  config := rfl

theorem openRequest_orderly (world : World) :
    (AudioEvent.request openRequest granted).Orderly ⟨true, true⟩ world where
  config := fun hcommand => absurd hcommand (by decide)
  start := fun hcommand => absurd hcommand (by decide)

theorem configRequest_orderly (world : World) :
    (AudioEvent.request configRequest granted).Orderly ⟨true, true⟩ world where
  config := fun _ _ _ _ _ _ => configRequest_accepted
  start := fun hcommand => absurd hcommand (by decide)

theorem slots_sound_configured : ∃ world,
    after [.request openRequest granted, .request configRequest granted] = some world ∧
      (world.slot firstSlot).configured = true ∧ SlotSound world firstSlot := by
  have hconfigured : (after [.request openRequest granted, .request configRequest granted]).map
      (fun world => (world.slot firstSlot).configured) = some true := by
    decide +kernel
  obtain ⟨world, hafter, hset⟩ := Option.map_eq_some_iff.mp hconfigured
  refine ⟨world, hafter, hset, ?_⟩
  simp only [after, List.foldlM_cons, List.foldlM_nil, Option.bind_eq_bind] at hafter
  obtain ⟨opened, hopen, hafter⟩ := Option.bind_eq_some_iff.mp hafter
  obtain ⟨configured, hconfig, hafter⟩ := Option.bind_eq_some_iff.mp hafter
  obtain rfl : configured = world := Option.some.inj hafter
  have hfirst : SlotsReach ⟨true, true⟩ opened :=
    .step _ _ _ (.start freshWorld freshWorld_initial) (openRequest_orderly _) hopen
  exact (slots_sound ⟨true, true⟩ configured
    (.step _ _ _ hfirst (configRequest_orderly _) hconfig)).1 firstSlot

/-- A configured stream whose second configuration finds no memory. -/
def starvedEvents : List AudioEvent :=
  [.request openRequest granted, .request configRequest granted,
    .request configRequest { granted with buffer := none }]

/-- A configured stream that SOF does not start. -/
def unstartedEvents : List AudioEvent :=
  [.request openRequest granted, .request configRequest granted,
    .request startRequest { granted with trigger := fun _ => -1 }]

/-- The first stream is left configured without a buffer, the second stopped behind an open
data channel. -/
theorem slots_unsound :
    (∃ world, after starvedEvents = some world ∧ ¬SlotSound world firstSlot) ∧
    ∃ world, after unstartedEvents = some world ∧ ¬SlotSound world firstSlot := by
  constructor
  · have hstarved : (after starvedEvents).map (fun world =>
        ((world.slot firstSlot).configured, (world.slot firstSlot).dmaRaw)) =
          some (true, none) := by
      decide +kernel
    obtain ⟨world, hafter, heq⟩ := Option.map_eq_some_iff.mp hstarved
    refine ⟨world, hafter, fun hsound => ?_⟩
    obtain ⟨hconfigured, hdmaRaw⟩ := Prod.mk.injEq .. ▸ heq
    obtain ⟨⟨_, _, _, _, _, _, _, ⟨raw, hraw, _⟩, _⟩, _⟩ := hsound.configured hconfigured
    exact absurd (hdmaRaw.symm.trans hraw) nofun
  · have hunstarted : (after unstartedEvents).map (fun world =>
        (world.channels.isOpen (dataChannel firstSlot), (world.slot firstSlot).running)) =
          some (true, false) := by
      decide +kernel
    obtain ⟨world, hafter, heq⟩ := Option.map_eq_some_iff.mp hunstarted
    refine ⟨world, hafter, fun hsound => ?_⟩
    obtain ⟨hopen, hrunning⟩ := Prod.mk.injEq .. ▸ heq
    exact absurd (hrunning.symm.trans (hsound.channel hopen)) nofun

end AudioStudio.Controller
