import AudioStudio.Controller.World

/-!
# Configuring a slot

What the functions behind the CONFIG command do to the world, whatever the
allocator and SOF answer.
-/

namespace AudioStudio.Controller

open LittleEndian
open Wire

variable {driver : DriverOps} {answers : Answers} {world world' world'' : World}
  {index : SlotIndex}

/-- A step that changes no more of the slot than its stream and its buffer, and
after which these are open and allocated if they were before. -/
structure Prepares (index : SlotIndex) (world world' : World) : Prop where
  touches : Touches index world world'
  channels : world'.channels = world.channels
  slot : world'.slot index =
    { world.slot index with
      stream := (world'.slot index).stream
      dmaRaw := (world'.slot index).dmaRaw
      dmaAligned := (world'.slot index).dmaAligned
      dmaBufferSize := (world'.slot index).dmaBufferSize }
  stream : (∀ stream, (world.slot index).stream = some stream →
      (world.sofStreams stream).isSome) →
    ∀ stream, (world'.slot index).stream = some stream → (world'.sofStreams stream).isSome
  buffer : (∀ raw, (world.slot index).dmaRaw = some raw → raw ∈ world.heap) →
    ∀ raw, (world'.slot index).dmaRaw = some raw → raw ∈ world'.heap

namespace Prepares

theorem refl (index : SlotIndex) (world : World) : Prepares index world world where
  touches := Touches.refl index world
  channels := rfl
  slot := rfl
  stream := id
  buffer := id

theorem trans (hfirst : Prepares index world world') (hsecond : Prepares index world' world'') :
    Prepares index world world'' where
  touches := hfirst.touches.trans hsecond.touches
  channels := hsecond.channels.trans hfirst.channels
  slot := by
    rw [hsecond.slot, hfirst.slot]
  stream := fun hopen => hsecond.stream (hfirst.stream hopen)
  buffer := fun howned => hsecond.buffer (hfirst.buffer howned)

end Prepares

/-! ## The DMA buffer -/

/-- The world after a buffer has been freed. -/
def World.release (world : World) : Option Nat → World
  | none => world
  | some raw => { world with heap := world.heap.filter (· ≠ raw) }

/-- The world after `ac_audio_free_dma`. -/
def World.freeDma (world : World) (index : SlotIndex) : World :=
  (world.release (world.slot index).dmaRaw).modify index
    ({ · with dmaRaw := none, dmaAligned := 0, dmaBufferSize := 0 })

theorem freeBuffer_ensures (raw : Option Nat) {post : Unit → World → Prop} :
    (freeBuffer raw).Ensures (World.effect driver answers) world post ↔
      post () (world.release raw) := by
  cases raw with
  | none => exact Iff.rfl
  | some raw => exact ensures_command rfl

theorem acAudioFreeDma_ensures {post : Unit → World → Prop} :
    (acAudioFreeDma index).Ensures (World.effect driver answers) world post ↔
      post () (world.freeDma index) := by
  unfold acAudioFreeDma
  rw [Proc.ensures_bind, ensures_streams, Proc.ensures_bind, freeBuffer_ensures,
    ensures_modifySlot]
  rfl

theorem slot_release (raw : Option Nat) : (world.release raw).slot index = world.slot index := by
  cases raw <;> rfl

theorem slot_freeDma : (world.freeDma index).slot index =
    { world.slot index with dmaRaw := none, dmaAligned := 0, dmaBufferSize := 0 } := by
  rw [World.freeDma, slot_modify, slot_release]

theorem freeDma_sofStreams : (world.freeDma index).sofStreams = world.sofStreams := by
  unfold World.freeDma World.modify
  cases (world.slot index).dmaRaw <;> rfl

theorem freeDma_channels : (world.freeDma index).channels = world.channels := by
  unfold World.freeDma World.modify
  cases (world.slot index).dmaRaw <;> rfl

theorem release_touches : Touches index world (world.release (world.slot index).dmaRaw) where
  slots := fun other _ => slot_release _
  channels := fun _ _ => by cases (world.slot index).dmaRaw <;> rfl
  streams := fun _ _ _ => by cases (world.slot index).dmaRaw <;> rfl
  buffers := by
    intro other hother hown
    cases hraw : (world.slot index).dmaRaw with
    | none => exact hother
    | some raw =>
        rw [hraw] at hown
        exact List.mem_filter.mpr ⟨hother, by simpa using fun heq => hown (congrArg some heq.symm)⟩
  newStream := fun _ hstream => Or.inl (slot_release _ ▸ hstream)
  newBuffer := fun _ hbuffer => Or.inl (slot_release _ ▸ hbuffer)

theorem freeDma_prepares : Prepares index world (world.freeDma index) where
  touches := release_touches.trans (Touches.modify (Or.inl rfl) (Or.inr rfl))
  channels := freeDma_channels
  slot := by
    rw [slot_freeDma]
  stream := by
    intro hopen stream hstream
    rw [slot_freeDma] at hstream
    rw [freeDma_sofStreams]
    exact hopen stream hstream
  buffer := by
    intro _ raw hraw
    rw [slot_freeDma] at hraw
    cases hraw

/-- The slot holds the buffer that the parameters describe. -/
structure Buffered (index : SlotIndex) (dmaBuffer : SofDmaBuffer) (world : World) : Prop where
  buffer : ∃ raw, (world.slot index).dmaRaw = some raw ∧ raw ∈ world.heap ∧
    dmaBuffer.addr = alignedAddress raw
  size : dmaBuffer.size = (world.slot index).dmaBufferSize

/-- The world after a fresh buffer has been allocated for a slot. -/
def World.takeDma (world : World) (index : SlotIndex) (raw : Nat) (size : UInt32) : World :=
  World.modify { world with heap := raw :: world.heap } index
    ({ · with dmaRaw := some raw, dmaAligned := alignedAddress raw, dmaBufferSize := size })

theorem slot_takeDma {raw : Nat} {size : UInt32} : (world.takeDma index raw size).slot index =
    { world.slot index with
      dmaRaw := some raw, dmaAligned := alignedAddress raw, dmaBufferSize := size } :=
  slot_modify

theorem takeDma_prepares {raw : Nat} {size : UInt32} (hfresh : raw ∉ world.heap) :
    Prepares index world (world.takeDma index raw size) where
  touches :=
    { slots := fun _ hother => slot_modify_of_ne hother
      channels := fun _ _ => rfl
      streams := fun _ _ _ => rfl
      buffers := fun _ hraw _ => List.mem_cons_of_mem raw hraw
      newStream := fun _ hstream => Or.inl (by rwa [slot_takeDma] at hstream)
      newBuffer := by
        intro other hother
        rw [slot_takeDma] at hother
        exact Or.inr (Option.some.inj hother ▸ hfresh) }
  channels := rfl
  slot := by
    rw [slot_takeDma]
  stream := by
    intro hopen stream hstream
    rw [slot_takeDma] at hstream
    exact hopen stream hstream
  buffer := by
    intro _ other hother
    rw [slot_takeDma] at hother
    exact Option.some.inj hother ▸ List.mem_cons_self

theorem acAudioPrepareDma_ensures (frameBytes : UInt32) :
    (acAudioPrepareDma index frameBytes).Ensures (World.effect driver answers) world
      fun result world' => Prepares index world world' ∧
        world'.sofStreams = world.sofStreams ∧
        (world'.slot index).stream = (world.slot index).stream ∧
        match result with
        | none => acAudioDmaSizes (world.slot index).config.sampleRate frameBytes = none ∨
            answers.buffer = none
        | some (_, dmaBuffer) => Buffered index dmaBuffer world' := by
  unfold acAudioPrepareDma
  rw [Proc.ensures_bind, ensures_streams, streams_eq_slot]
  cases hsizes : acAudioDmaSizes (world.slot index).config.sampleRate frameBytes with
  | none => exact ⟨Prepares.refl index world, rfl, rfl, Or.inl rfl⟩
  | some sizes =>
      obtain ⟨periodBytes, dmaBufSize⟩ := sizes
      rw [Proc.ensures_bind, acAudioFreeDma_ensures, Proc.ensures_bind]
      have hfree : Prepares index world (world.freeDma index) := freeDma_prepares
      have hstream : ((world.freeDma index).slot index).stream = (world.slot index).stream := by
        rw [slot_freeDma]
      refine ensures_alloc (fun hnone => ⟨hfree, freeDma_sofStreams, hstream, Or.inr hnone⟩) ?_
      intro raw _ hfresh
      rw [Proc.ensures_bind, ensures_modifySlot]
      have halloc : Prepares index (world.freeDma index)
          ((world.freeDma index).takeDma index raw dmaBufSize) := takeDma_prepares hfresh
      refine ⟨hfree.trans halloc, freeDma_sofStreams, ?_, ?_⟩
      · rw [slot_modify]
        exact hstream
      · refine ⟨⟨raw, by rw [slot_modify], List.mem_cons_self, rfl⟩, by rw [slot_modify]⟩

/-! ## The SOF stream -/

variable {stream : Nat}

/-- A change of the state of an open stream that the slot holds. -/
theorem setSofStream_prepares {state : Option SofStreamParams}
    (hown : (world.slot index).stream = some stream) :
    Prepares index world (world.setSofStream stream (some state)) where
  touches :=
    { slots := fun _ _ => rfl
      channels := fun _ _ => rfl
      streams := by
        intro other _ hother
        refine Function.update_of_ne (fun heq => hother ?_) _ _
        rw [heq, hown]
      buffers := fun _ hraw _ => hraw
      newStream := fun _ hstream => Or.inl hstream
      newBuffer := fun _ hraw => Or.inl hraw }
  channels := rfl
  slot := rfl
  stream := by
    intro _ other hother
    have hsame : stream = other := Option.some.inj (hown.symm.trans hother)
    rw [← hsame]
    simp [World.setSofStream]
  buffer := id

/-- The world after a fresh stream has been opened for a slot. -/
def World.takeStream (world : World) (index : SlotIndex) (stream : Nat) : World :=
  (world.setSofStream stream (some none)).modify index ({ · with stream := some stream })

theorem slot_takeStream : (world.takeStream index stream).slot index =
    { world.slot index with stream := some stream } :=
  slot_modify

theorem takeStream_prepares (hfresh : world.sofStreams stream = none) :
    Prepares index world (world.takeStream index stream) where
  touches :=
    { slots := fun _ hother => slot_modify_of_ne hother
      channels := fun _ _ => rfl
      streams := by
        intro other hopen _
        refine Function.update_of_ne (fun heq => ?_) _ _
        rw [heq, hfresh] at hopen
        cases hopen
      buffers := fun _ hraw _ => hraw
      newStream := by
        intro other hother
        rw [slot_takeStream] at hother
        exact Or.inr (Option.some.inj hother ▸ hfresh)
      newBuffer := fun _ hraw => Or.inl (by rwa [slot_takeStream] at hraw) }
  channels := rfl
  slot := by
    rw [slot_takeStream]
  stream := by
    intro _ other hother
    rw [slot_takeStream] at hother
    have hsame : stream = other := Option.some.inj hother
    rw [← hsame]
    simp [World.takeStream, World.modify, World.setSofStream]
  buffer := by
    intro howned raw hraw
    rw [slot_takeStream] at hraw
    exact howned raw hraw

theorem dropStream_prepares :
    Prepares index world (world.modify index ({ · with stream := none })) where
  touches := Touches.modify (Or.inr rfl) (Or.inl rfl)
  channels := rfl
  slot := by
    rw [slot_modify]
  stream := by
    intro _ stream hstream
    rw [slot_modify] at hstream
    cases hstream
  buffer := by
    intro howned raw hraw
    rw [slot_modify] at hraw
    exact howned raw hraw

theorem acAudioOpenSofStream_ensures :
    (acAudioOpenSofStream index).Ensures (World.effect driver answers) world
      fun result world' => Prepares index world world' ∧
        (world'.slot index).stream = result ∧
        (result = none → (world.slot index).stream = none) := by
  unfold acAudioOpenSofStream
  rw [Proc.ensures_bind, ensures_streams, streams_eq_slot]
  cases hstream : (world.slot index).stream with
  | some stream => exact ⟨Prepares.refl index world, hstream, nofun⟩
  | none =>
      rw [Proc.ensures_bind]
      refine ensures_sofStreamOpen (fun _ => ?_) fun stream hfresh => ?_
      · rw [Proc.ensures_bind, ensures_modifySlot]
        exact ⟨dropStream_prepares, by rw [slot_modify], fun _ => rfl⟩
      · rw [Proc.ensures_bind, ensures_modifySlot]
        exact ⟨takeStream_prepares hfresh, by rw [slot_modify], nofun⟩

/-! ## The whole configuration -/

/-- The slot is configured: its stream was last configured with the parameters of
`config`, and the buffer in them is the one the slot holds. -/
structure Configured (world : World) (index : SlotIndex) : Prop where
  stream : ∃ stream frameFmt hostPeriodBytes dmaBuffer,
    (world.slot index).stream = some stream ∧
    acAudioFrameFormat (world.slot index).config.bytesPerSample = some frameFmt ∧
    world.sofStreams stream = some (some
      ((world.slot index).config.params frameFmt hostPeriodBytes dmaBuffer)) ∧
    Buffered index dmaBuffer world
  frameBytes : (world.slot index).frameBytes.toNat =
    (world.slot index).config.channels.toNat * (world.slot index).config.bytesPerSample.toNat

/-- The checks that a configuration has to pass, and the calls that have to succeed. -/
structure AcAudioStreamConfig.Accepted (config : AcAudioStreamConfig) (answers : Answers) :
    Prop where
  sampleRate : config.sampleRate ≠ 0
  channels : config.channels ≠ 0
  format : acAudioFrameFormat config.bytesPerSample ≠ none
  frameBytes : config.frameBytes ≠ 0 ∧ config.frameBytes ≤ 65535
  sizes : acAudioDmaSizes config.sampleRate config.frameBytes ≠ none
  buffer : answers.buffer ≠ none
  config : answers.config = 0

/-- What is left of a slot after its preparation returned `ret`. -/
structure Prepared (answers : Answers) (index : SlotIndex) (world : World) (ret : Int)
    (world' : World) : Prop where
  touches : Touches index world world'
  channels : world'.channels = world.channels
  slot : ret ≠ 0 → world'.slot index =
    { world.slot index with
      stream := (world'.slot index).stream
      dmaRaw := (world'.slot index).dmaRaw
      dmaAligned := (world'.slot index).dmaAligned
      dmaBufferSize := (world'.slot index).dmaBufferSize }
  ready : ret = 0 → world'.slot index =
    { world.slot index with
      stream := (world'.slot index).stream
      dmaRaw := (world'.slot index).dmaRaw
      dmaAligned := (world'.slot index).dmaAligned
      dmaBufferSize := (world'.slot index).dmaBufferSize
      frameBytes := (world'.slot index).frameBytes
      configured := true }
  stream : ∀ stream, (world'.slot index).stream = some stream → (world'.sofStreams stream).isSome
  buffer : ∀ raw, (world'.slot index).dmaRaw = some raw → raw ∈ world'.heap
  configured : ret = 0 → Configured world' index
  accepted : ret ≠ 0 → (world.slot index).stream ≠ none →
    ¬ (world.slot index).config.Accepted answers

/-- A preparation that fails after no more than changes of the stream and the buffer. -/
theorem Prepares.failed {ret : Int} (hprepares : Prepares index world world') (hret : ret ≠ 0)
    (hstream : ∀ stream, (world.slot index).stream = some stream →
      (world.sofStreams stream).isSome)
    (hbuffer : ∀ raw, (world.slot index).dmaRaw = some raw → raw ∈ world.heap)
    (hrefused : (world.slot index).stream ≠ none →
      ¬(world.slot index).config.Accepted answers) :
    Prepared answers index world ret world' where
  touches := hprepares.touches
  channels := hprepares.channels
  slot := fun _ => hprepares.slot
  ready := fun hzero => absurd hzero hret
  stream := hprepares.stream hstream
  buffer := hprepares.buffer hbuffer
  configured := fun hzero => absurd hzero hret
  accepted := fun _ => hrefused

/-- The 16-bit frame size is the product that was computed in 32 bits. -/
theorem frameBytes_product {config : AcAudioStreamConfig}
    (hframe : ¬(config.frameBytes = 0 ∨ config.frameBytes > 65535)) :
    config.frameBytes.toUInt16.toNat = config.channels.toNat * config.bytesPerSample.toNat := by
  have hsmall : config.frameBytes.toNat ≤ 65535 :=
    UInt32.le_iff_toNat_le.mp (UInt32.not_lt.mp fun hlarge => hframe (.inr hlarge))
  have hproduct : config.channels.toNat * config.bytesPerSample.toNat < 2 ^ 32 := by
    have hchannels := config.channels.toNat_lt
    have hbytes := config.bytesPerSample.toNat_lt
    calc config.channels.toNat * config.bytesPerSample.toNat
        < 2 ^ 16 * 2 ^ 16 := Nat.mul_lt_mul'' hchannels hbytes
      _ = 2 ^ 32 := rfl
  have hexact : config.frameBytes.toNat =
      config.channels.toNat * config.bytesPerSample.toNat := by
    rw [AcAudioStreamConfig.frameBytes, UInt32.toNat_mul, UInt16.toNat_toUInt32,
      UInt16.toNat_toUInt32, Nat.mod_eq_of_lt hproduct]
  rw [UInt32.toNat_toUInt16, ← hexact]
  exact Nat.mod_eq_of_lt (by omega)

/-- A preparation that succeeds: SOF has taken the parameters. -/
theorem Prepares.configured {buffered : World} {frameFmt : SofFrame}
    {hostPeriodBytes : UInt32} {dmaBuffer : SofDmaBuffer}
    (hprepares : Prepares index world buffered)
    (hown : (buffered.slot index).stream = some stream)
    (hformat : acAudioFrameFormat (world.slot index).config.bytesPerSample = some frameFmt)
    (hframe : ¬((world.slot index).config.frameBytes = 0 ∨
      (world.slot index).config.frameBytes > 65535))
    (hbuffered : Buffered index dmaBuffer buffered)
    (hstream : ∀ stream, (world.slot index).stream = some stream →
      (world.sofStreams stream).isSome)
    (hbuffer : ∀ raw, (world.slot index).dmaRaw = some raw → raw ∈ world.heap) :
    Prepared answers index world 0
      ((buffered.setSofStream stream (some (some
        ((world.slot index).config.params frameFmt hostPeriodBytes dmaBuffer)))).modify index
          ({ · with
            frameBytes := (world.slot index).config.frameBytes.toUInt16, configured := true })) := by
  have hconfig : (buffered.slot index).config = (world.slot index).config := by
    rw [hprepares.slot]
  have hsets : Prepares index world (buffered.setSofStream stream (some (some
      ((world.slot index).config.params frameFmt hostPeriodBytes dmaBuffer)))) :=
    hprepares.trans (setSofStream_prepares hown)
  constructor
  · exact hsets.touches.trans (Touches.modify (Or.inl rfl) (Or.inl rfl))
  · exact hsets.channels
  · exact fun hne => absurd rfl hne
  · intro _
    rw [slot_modify]
    conv_lhs => rw [hsets.slot]
  · intro other hother
    rw [slot_modify] at hother
    exact hsets.stream hstream other hother
  · intro raw hraw
    rw [slot_modify] at hraw
    exact hsets.buffer hbuffer raw hraw
  · intro _
    constructor
    · refine ⟨stream, frameFmt, hostPeriodBytes, dmaBuffer, ?_, ?_, ?_, ?_⟩
      · rw [slot_modify]
        exact hown
      · rw [slot_modify]
        exact hconfig ▸ hformat
      · rw [slot_modify]
        dsimp only [World.modify, World.setSofStream]
        rw [Function.update_self]
        exact congrArg (fun config => some (some (AcAudioStreamConfig.params config frameFmt
          hostPeriodBytes dmaBuffer))) hconfig.symm
      · obtain ⟨⟨raw, hraw, hheap, haddress⟩, hsize⟩ := hbuffered
        refine ⟨⟨raw, ?_, hheap, haddress⟩, ?_⟩
        · rw [slot_modify]
          exact hraw
        · rw [slot_modify]
          exact hsize
    · rw [slot_modify]
      dsimp only
      rw [frameBytes_product hframe]
      exact congrArg (fun config : AcAudioStreamConfig =>
        config.channels.toNat * config.bytesPerSample.toNat) hconfig.symm
  · exact fun hne => absurd rfl hne

theorem acAudioPrepareSofStream_ensures (hallocated : (world.slot index).allocated = true)
    (hstream : ∀ stream, (world.slot index).stream = some stream →
      (world.sofStreams stream).isSome)
    (hbuffer : ∀ raw, (world.slot index).dmaRaw = some raw → raw ∈ world.heap) :
    (acAudioPrepareSofStream index).Ensures (World.effect driver answers) world
      fun ret world' => Prepared answers index world ret world' := by
  have hsame : Prepares index world world := Prepares.refl index world
  unfold acAudioPrepareSofStream
  rw [Proc.ensures_bind, ensures_streams, streams_eq_slot]
  dsimp only
  rw [if_neg (by simp [hallocated])]
  split
  · next hzero =>
      refine hsame.failed (by decide) hstream hbuffer fun _ haccepted => ?_
      obtain hrate | hchannels | hbytes := hzero
      · exact haccepted.sampleRate hrate
      · exact haccepted.channels hchannels
      · exact haccepted.format (by rw [hbytes]; rfl)
  · split
    · next hformat =>
        exact hsame.failed (by decide) hstream hbuffer fun _ haccepted => haccepted.format hformat
    · next frameFmt hformat =>
        split
        · next hframe =>
            refine hsame.failed (by decide) hstream hbuffer fun _ haccepted => ?_
            obtain hzero | hlarge := hframe
            · exact haccepted.frameBytes.1 hzero
            · exact absurd haccepted.frameBytes.2 (UInt32.not_le.mpr hlarge)
        · next hframe =>
            refine acAudioOpenSofStream_ensures.bind fun result opened hopened => ?_
            obtain ⟨hopens, hholds, hnone⟩ := hopened
            cases result with
            | none =>
                refine hopens.failed (by decide) hstream hbuffer fun hsome => ?_
                exact absurd (hnone rfl) hsome
            | some stream =>
                have hslot := hopens.slot
                have hconfig : (opened.slot index).config = (world.slot index).config := by
                  rw [hslot]
                refine (acAudioPrepareDma_ensures _).bind fun result buffered hprepared => ?_
                obtain ⟨hprepares, hsofStreams, hkeeps, hresult⟩ := hprepared
                have hboth := hopens.trans hprepares
                cases result with
                | none =>
                    refine hboth.failed (by decide) hstream hbuffer fun _ haccepted => ?_
                    rw [hconfig] at hresult
                    obtain hsizes | hanswer := hresult
                    · exact haccepted.sizes hsizes
                    · exact haccepted.buffer hanswer
                | some sizes =>
                    obtain ⟨hostPeriodBytes, dmaBuffer⟩ := sizes
                    have hown : (buffered.slot index).stream = some stream := hkeeps.trans hholds
                    have hisOpen := hboth.stream hstream stream hown
                    refine Proc.ensures_bind.mpr (ensures_sofStreamConfig hisOpen ?_ ?_)
                    · intro hfailed
                      rw [if_pos hfailed, Proc.ensures_bind, acAudioFreeDma_ensures]
                      refine (hboth.trans freeDma_prepares).failed (by decide) hstream hbuffer ?_
                      exact fun _ haccepted => hfailed haccepted.config
                    · intro _
                      rw [if_neg (by decide), Proc.ensures_bind, ensures_modifySlot]
                      exact hboth.configured hown hformat hframe hresult hstream hbuffer

end AudioStudio.Controller
