import AudioStudio.Controller.Audio
import AudioStudio.Core.Ensures

/-!
# The world of the stream slots

What the control commands act on: the slots, the channel table, the allocated
buffers and the open SOF streams, each with the parameters of its last successful
configuration.  Every call that can fail is answered by the environment.
-/

namespace AudioStudio.Controller

open LittleEndian
open Wire

structure World where
  audio : AcAudioController
  channels : ChannelTable
  heap : List Nat
  sofStreams : Nat → Option (Option SofStreamParams)

/-- What the environment answers during one command. -/
structure Answers where
  mutexCreated : Bool := true
  threadCreated : Bool := true
  buffer : Option Nat := none
  stream : Option Nat := none
  config : Int := 0
  trigger : Nat → Int := fun _ => 0
  close : Nat → Int := fun _ => 0
  sent : Int := 0
  behind : Bytes := []

namespace World

def slot (world : World) (index : SlotIndex) : AcAudioStreamSlot :=
  world.audio.streams index

def modify (world : World) (index : SlotIndex)
    (change : AcAudioStreamSlot → AcAudioStreamSlot) : World :=
  { world with audio := world.audio.modify index change }

def setSofStream (world : World) (stream : Nat) (state : Option (Option SofStreamParams)) :
    World :=
  { world with sofStreams := Function.update world.sofStreams stream state }

/-- The allocator returns a buffer that is free: no other answer is one. -/
def alloc (answers : Answers) (world : World) : Option (Option Nat × World) :=
  match answers.buffer with
  | none => some (none, world)
  | some raw =>
      if raw ∈ world.heap then none
      else some (some raw, { world with heap := raw :: world.heap })

/-- SOF returns a stream that is not open: no other answer is one. -/
def sofStreamOpen (answers : Answers) (world : World) : Option (Option Nat × World) :=
  match answers.stream with
  | none => some (none, world)
  | some stream =>
      if (world.sofStreams stream).isSome then none
      else some (some stream, world.setSofStream stream (some none))

/-- A stream that is not open cannot be configured. -/
def sofStreamConfig (answers : Answers) (stream : Nat) (params : SofStreamParams)
    (world : World) : Int × World :=
  if (world.sofStreams stream).isNone then (-1, world)
  else if answers.config ≠ 0 then (answers.config, world)
  else (0, world.setSofStream stream (some (some params)))

def handle (driver : DriverOps) (answers : Answers) : Handler ControllerReply World
  | .streams, world => some (world.audio, world)
  | .modifySlot index change, world => some ((), world.modify index change)
  | .bytesBehind, world => some (answers.behind, world)
  | .alloc _ _, world => world.alloc answers
  | .free raw, world => some ((), { world with heap := world.heap.filter (· ≠ raw) })
  | .registerChannel id handler, world =>
      let result :=
        acTransportRegisterChannel driver answers.mutexCreated id handler world.channels
      some (result.1, { world with channels := result.2 })
  | .openChannel id, world =>
      let result := acTransportOpenChannel driver answers.threadCreated id world.channels
      some (result.1, { world with channels := result.2 })
  | .stopChannel id, world =>
      some ((acTransportFindChannel world.channels id).isSome,
        { world with channels := stopChannel id world.channels })
  | .joinChannel id, world =>
      some ((), { world with channels := joinChannel id world.channels })
  | .sendPacket _ _, world => some (answers.sent, world)
  | .sofStreamOpen _, world => world.sofStreamOpen answers
  | .sofStreamConfig stream params, world => some (world.sofStreamConfig answers stream params)
  | .sofStreamTrigger stream _, world => some (answers.trigger stream, world)
  | .sofStreamClose stream, world =>
      some (answers.close stream, world.setSofStream stream none)
  | _, _ => none

end World

/-! ## Effects of the commands -/

section Effects

variable {driver : DriverOps} {answers : Answers} {world : World}

/-- The effect of a world under given answers. -/
abbrev World.effect (driver : DriverOps) (answers : Answers) : Effect ControllerReply World :=
  (World.handle driver answers).effect

/-- A command that is always answered ensures what holds of its answer. -/
theorem ensures_command {cmd : ControllerCmd} {reply : ControllerReply cmd} {world' : World}
    (hhandle : World.handle driver answers cmd world = some (reply, world'))
    {post : ControllerReply cmd → World → Prop} :
    (command cmd).Ensures (World.effect driver answers) world post ↔ post reply world' := by
  constructor
  · exact fun hensures => hensures reply world' hhandle
  · intro hpost reply' world'' heffect
    cases (Option.some.inj (hhandle.symm.trans heffect))
    exact hpost

@[simp] theorem ensures_streams {post : AcAudioController → World → Prop} :
    streams.Ensures (World.effect driver answers) world post ↔ post world.audio world :=
  ensures_command rfl

@[simp] theorem ensures_modifySlot {index : SlotIndex}
    {change : AcAudioStreamSlot → AcAudioStreamSlot} {post : Unit → World → Prop} :
    (modifySlot index change).Ensures (World.effect driver answers) world post ↔
      post () (world.modify index change) :=
  ensures_command rfl

theorem ensures_alloc {size : Nat} {alignment : UInt32} {post : Option Nat → World → Prop}
    (hnone : answers.buffer = none → post none world)
    (hsome : ∀ raw, answers.buffer = some raw → raw ∉ world.heap →
      post (some raw) { world with heap := raw :: world.heap }) :
    (command (.alloc size alignment)).Ensures (World.effect driver answers) world post := by
  intro reply world' heffect
  have halloc : world.alloc answers = some (reply, world') := heffect
  unfold World.alloc at halloc
  cases hbuffer : answers.buffer with
  | none =>
      simp only [hbuffer] at halloc
      cases halloc
      exact hnone hbuffer
  | some raw =>
      simp only [hbuffer] at halloc
      split at halloc
      · cases halloc
      · next hfresh =>
          cases halloc
          exact hsome raw hbuffer hfresh

theorem ensures_sofStreamOpen {name : Bytes} {post : Option Nat → World → Prop}
    (hnone : answers.stream = none → post none world)
    (hsome : ∀ stream, world.sofStreams stream = none →
      post (some stream) (world.setSofStream stream (some none))) :
    (command (.sofStreamOpen name)).Ensures (World.effect driver answers) world post := by
  intro reply world' heffect
  have hopened : world.sofStreamOpen answers = some (reply, world') := heffect
  unfold World.sofStreamOpen at hopened
  cases hstream : answers.stream with
  | none =>
      simp only [hstream] at hopened
      cases hopened
      exact hnone hstream
  | some stream =>
      simp only [hstream] at hopened
      split at hopened
      · cases hopened
      · next hfresh =>
          cases hopened
          exact hsome stream (Option.not_isSome_iff_eq_none.mp hfresh)

theorem ensures_sofStreamConfig {stream : Nat} {params : SofStreamParams}
    {post : Int → World → Prop} (hopen : (world.sofStreams stream).isSome)
    (hfailed : answers.config ≠ 0 → post answers.config world)
    (haccepted : answers.config = 0 →
      post 0 (world.setSofStream stream (some (some params)))) :
    (command (.sofStreamConfig stream params)).Ensures (World.effect driver answers)
      world post := by
  intro reply world' heffect
  have hreply : world.sofStreamConfig answers stream params = (reply, world') :=
    Option.some.inj heffect
  unfold World.sofStreamConfig at hreply
  rw [if_neg (by rw [Option.isNone_iff_eq_none]; exact Option.isSome_iff_ne_none.mp hopen)]
    at hreply
  split at hreply
  · next hconfig =>
      cases hreply
      exact hfailed hconfig
  · next hconfig =>
      cases hreply
      exact haccepted (not_not.mp hconfig)

end Effects

/-! ## What a command for one slot leaves alone -/

/-- The data channel of a slot. -/
def dataChannel (index : SlotIndex) : UInt16 :=
  (acTransportAudioDataChannelFirst + index.val).toUInt16

theorem dataChannel_injective : ∀ index other, dataChannel index = dataChannel other →
    index = other := by
  decide

/-- The second world differs from the first only in one slot, its data channel, its
stream and its buffer; a stream or buffer the slot has got was free before. -/
structure Touches (index : SlotIndex) (world world' : World) : Prop where
  slots : ∀ other, other ≠ index → world'.slot other = world.slot other
  channels : ∀ id, id ≠ dataChannel index →
    acTransportFindChannel world'.channels id = acTransportFindChannel world.channels id
  streams : ∀ stream, (world.sofStreams stream).isSome →
    (world.slot index).stream ≠ some stream →
    world'.sofStreams stream = world.sofStreams stream
  buffers : ∀ raw ∈ world.heap, (world.slot index).dmaRaw ≠ some raw → raw ∈ world'.heap
  newStream : ∀ stream, (world'.slot index).stream = some stream →
    (world.slot index).stream = some stream ∨ world.sofStreams stream = none
  newBuffer : ∀ raw, (world'.slot index).dmaRaw = some raw →
    (world.slot index).dmaRaw = some raw ∨ raw ∉ world.heap

namespace Touches

variable {index : SlotIndex} {world world' world'' : World}

theorem refl (index : SlotIndex) (world : World) : Touches index world world where
  slots := fun _ _ => rfl
  channels := fun _ _ => rfl
  streams := fun _ _ _ => rfl
  buffers := fun _ hraw _ => hraw
  newStream := fun _ hstream => Or.inl hstream
  newBuffer := fun _ hraw => Or.inl hraw

theorem trans (hfirst : Touches index world world') (hsecond : Touches index world' world'') :
    Touches index world world'' where
  slots := fun other hother => (hsecond.slots other hother).trans (hfirst.slots other hother)
  channels := fun id hid => (hsecond.channels id hid).trans (hfirst.channels id hid)
  streams := by
    intro stream hopen hown
    have hkept := hfirst.streams stream hopen hown
    refine (hsecond.streams stream (by rwa [hkept]) fun hstream => ?_).trans hkept
    rcases hfirst.newStream stream hstream with hold | hfresh
    · exact hown hold
    · simp [hfresh] at hopen
  buffers := by
    intro raw hraw hown
    refine hsecond.buffers raw (hfirst.buffers raw hraw hown) fun hbuffer => ?_
    rcases hfirst.newBuffer raw hbuffer with hold | hfresh
    · exact hown hold
    · exact hfresh hraw
  newStream := by
    intro stream hstream
    rcases hsecond.newStream stream hstream with hold | hfresh
    · exact hfirst.newStream stream hold
    · by_cases hown : (world.slot index).stream = some stream
      · exact Or.inl hown
      · refine Or.inr (Option.not_isSome_iff_eq_none.mp fun hopen => ?_)
        rw [← hfirst.streams stream hopen hown, hfresh] at hopen
        cases hopen
  newBuffer := by
    intro raw hraw
    rcases hsecond.newBuffer raw hraw with hold | hfresh
    · exact hfirst.newBuffer raw hold
    · by_cases hown : (world.slot index).dmaRaw = some raw
      · exact Or.inl hown
      · exact Or.inr fun hraw' => hfresh (hfirst.buffers raw hraw' hown)

end Touches

/-! ### The world operations -/

section Operations

variable {index other : SlotIndex} {world : World}
  {change : AcAudioStreamSlot → AcAudioStreamSlot}

theorem streams_eq_slot : world.audio.streams index = world.slot index := rfl

@[simp] theorem slot_modify : (world.modify index change).slot index = change (world.slot index) := by
  simp [World.slot, World.modify, AcAudioController.modify]

theorem slot_modify_of_ne (hne : other ≠ index) :
    (world.modify index change).slot other = world.slot other := by
  simp [World.slot, World.modify, AcAudioController.modify, hne]

/-- A store that gives the slot no new stream or buffer. -/
theorem Touches.modify
    (hstream : (change (world.slot index)).stream = (world.slot index).stream ∨
      (change (world.slot index)).stream = none)
    (hraw : (change (world.slot index)).dmaRaw = (world.slot index).dmaRaw ∨
      (change (world.slot index)).dmaRaw = none) :
    Touches index world (world.modify index change) where
  slots := fun _ hother => slot_modify_of_ne hother
  channels := fun _ _ => rfl
  streams := fun _ _ _ => rfl
  buffers := fun _ hraw _ => hraw
  newStream := by
    intro stream hnew
    rw [slot_modify] at hnew
    rcases hstream with hsame | hnone
    · exact Or.inl (hsame ▸ hnew)
    · rw [hnone] at hnew
      cases hnew
  newBuffer := by
    intro raw hnew
    rw [slot_modify] at hnew
    rcases hraw with hsame | hnone
    · exact Or.inl (hsame ▸ hnew)
    · rw [hnone] at hnew
      cases hnew

/-- A change of the channel table at the slot's own data channel. -/
theorem Touches.ofChannels {channels : ChannelTable}
    (hothers : ∀ id, id ≠ dataChannel index →
      acTransportFindChannel channels id = acTransportFindChannel world.channels id) :
    Touches index world { world with channels := channels } where
  slots := fun _ _ => rfl
  channels := hothers
  streams := fun _ _ _ => rfl
  buffers := fun _ hraw _ => hraw
  newStream := fun _ hstream => Or.inl hstream
  newBuffer := fun _ hraw => Or.inl hraw

end Operations

end AudioStudio.Controller
