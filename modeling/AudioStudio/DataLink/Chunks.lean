import AudioStudio.DataLink.FirmwareTracking

/-!
# Frames in chunks

What `ac_datalink_read_frame` makes of a stream of frames that the device hands out in
chunks.  The magic test looks at four bytes of the stream buffer however few of them
count, so a short first chunk is taken for noise.
-/

namespace AudioStudio.DataLink

open LittleEndian
open Wire
open DataLinkFrameCodec

/-- The bytes `ASDL`. -/
def magicBytes : Bytes := [0x41, 0x53, 0x44, 0x4c]

variable {data : Bytes}

theorem acDatalinkIsMagic_iff_take (hlength : 4 ≤ data.length) :
    acDatalinkIsMagic data = true ↔ data.take 4 = magicBytes := by
  match data, hlength with
  | b₀ :: b₁ :: b₂ :: b₃ :: rest, _ =>
      simp [acDatalinkIsMagic, byteAt, magicBytes, and_assoc]

theorem encode_take_magic (frame : DataLinkFrame) (rest : Bytes) :
    (encode frame ++ rest).take 4 = magicBytes := by
  have hlong : 4 ≤ (encode frame ++ rest).length := by
    rw [List.length_append, encode_length, dataLinkHeaderSize]
    omega
  have hlength : 4 ≤ (encode frame).length := by
    rw [encode_length, dataLinkHeaderSize]
    omega
  rw [← acDatalinkIsMagic_iff_take hlong]
  have hmagic := acDatalinkIsMagic_take frame hlength rest
  rwa [List.take_length] at hmagic

/-- The bytes of frames one after another. -/
def frameStream (frames : List DataLinkFrame) : Bytes :=
  (frames.map encode).flatten

variable {frames : List DataLinkFrame} {front : Bytes}

/-- The beginning of a stream of frames begins with the magic. -/
theorem frameStream_take_magic {rest : Bytes} (hstream : front ++ rest = frameStream frames) :
    front.take 4 = magicBytes.take front.length := by
  cases frames with
  | nil =>
      obtain ⟨rfl, _⟩ := List.append_eq_nil_iff.mp hstream
      rfl
  | cons frame frames =>
      have hmagic : (front ++ rest).take 4 = magicBytes := by
        rw [hstream]
        exact encode_take_magic frame _
      rw [← hmagic, List.take_take, Nat.min_comm, ← List.take_take, List.take_left]

/-- Bytes written over the front of a buffer, with what they leave of it behind them. -/
def overlay (front buffer : Bytes) : Bytes :=
  front ++ buffer.drop front.length

theorem overlay_take_magic {buffer : Bytes} (hbuffer : buffer.take 4 = magicBytes)
    (hfront : front.take 4 = magicBytes.take front.length) :
    (overlay front buffer).take 4 = magicBytes := by
  unfold overlay
  rw [List.take_append, hfront]
  have hbehind : (buffer.drop front.length).take (4 - front.length) =
      magicBytes.drop front.length := by
    rw [← hbuffer, List.drop_take]
  rw [hbehind, List.take_append_drop]

theorem overlay_length {buffer : Bytes} (hfits : front.length ≤ buffer.length) :
    (overlay front buffer).length = buffer.length := by
  unfold overlay
  rw [List.length_append, List.length_drop]
  omega

namespace AcDatalinkController

/-- The bytes that count. -/
def buffered (datalink : AcDatalinkController) : Bytes :=
  datalink.rxStream.take datalink.rxStreamSize

/-- The stream buffer has its size, and the bytes that count lie in it. -/
structure Sound (datalink : AcDatalinkController) : Prop where
  length : datalink.rxStream.length = acDatalinkRxStreamSize
  size_le : datalink.rxStreamSize ≤ acDatalinkRxStreamSize

variable {datalink : AcDatalinkController}

theorem Sound.buffered_length (hsound : datalink.Sound) :
    datalink.buffered.length = datalink.rxStreamSize := by
  unfold buffered
  rw [List.length_take, hsound.length, Nat.min_eq_left hsound.size_le]

theorem Sound.rxStream_eq :
    datalink.rxStream = datalink.buffered ++ datalink.rxStream.drop datalink.rxStreamSize :=
  (List.take_append_drop _ _).symm

theorem Sound.store_eq (hsound : datalink.Sound) (chunk : Bytes) : (datalink.store chunk).rxStream =
      overlay (datalink.buffered ++ chunk) datalink.rxStream := by
  unfold store poke overlay
  dsimp only
  rw [List.length_append, hsound.buffered_length]
  rfl

theorem Sound.discard_eq (hsound : datalink.Sound) (count : Nat) :
    (datalink.discard count).rxStream =
      overlay (datalink.buffered.drop count) datalink.rxStream := by
  unfold discard overlay buffered
  dsimp only
  rw [List.length_drop, List.length_take, hsound.length, Nat.min_eq_left hsound.size_le,
    List.drop_take]

theorem Sound.discard (hsound : datalink.Sound) (count : Nat) : (datalink.discard count).Sound := by
  have hsize : (datalink.discard count).rxStreamSize ≤ acDatalinkRxStreamSize :=
    (Nat.sub_le _ _).trans hsound.size_le
  refine ⟨?_, hsize⟩
  rw [hsound.discard_eq, overlay_length, hsound.length]
  rw [List.length_drop, hsound.buffered_length, hsound.length]
  exact hsize

theorem Sound.buffered_discard (hsound : datalink.Sound) (count : Nat) :
    (datalink.discard count).buffered = datalink.buffered.drop count := by
  have hsize : (datalink.discard count).rxStreamSize = (datalink.buffered.drop count).length := by
    rw [List.length_drop, hsound.buffered_length]
    rfl
  have hbuffered : (datalink.discard count).buffered =
      (datalink.discard count).rxStream.take (datalink.discard count).rxStreamSize := rfl
  rw [hbuffered, hsize, hsound.discard_eq, overlay, List.take_left]

theorem Sound.store {datalink : AcDatalinkController} (hsound : datalink.Sound) {chunk : Bytes}
    (hfits : datalink.rxStreamSize + chunk.length ≤ acDatalinkRxStreamSize) :
    (datalink.store chunk).Sound := by
  refine ⟨?_, hfits⟩
  rw [hsound.store_eq, overlay_length, hsound.length]
  rw [List.length_append, hsound.buffered_length, hsound.length]
  exact hfits

theorem Sound.buffered_store (hsound : datalink.Sound) (chunk : Bytes) :
    (datalink.store chunk).buffered = datalink.buffered ++ chunk := by
  have hsize : (datalink.store chunk).rxStreamSize = (datalink.buffered ++ chunk).length := by
    rw [List.length_append, hsound.buffered_length]
    rfl
  have hbuffered : (datalink.store chunk).buffered =
      (datalink.store chunk).rxStream.take (datalink.store chunk).rxStreamSize := rfl
  rw [hbuffered, hsize, hsound.store_eq, overlay, List.take_left]

/-- A stream that begins with the magic, or an empty one, has no noise to skip. -/
theorem skipNoise_of_magic
    (hfront : datalink.rxStreamSize = 0 ∨ acDatalinkIsMagic datalink.rxStream = true) (size : Nat) :
    datalink.skipNoise size = datalink := by
  cases size with
  | zero => rfl
  | succ size =>
      rw [skipNoise, if_neg]
      rintro ⟨hpositive, hnoise⟩
      rcases hfront with hempty | hmagic
      · omega
      · rw [hmagic] at hnoise
        cases hnoise

end AcDatalinkController

open AcDatalinkController

/-- The reads of a device, one chunk each. -/
def chunkReads {ε : Type} (chunks : List Bytes) : List (LinkEvent ε) :=
  chunks.map .message

variable {frame : DataLinkFrame}

/-- The size of a frame shows once the header has arrived, however many bytes follow it. -/
theorem acDatalinkFrameSize_front {behind : Bytes} {size : Nat}
    (hpayload : frame.payload.length < 2 ^ 32) (hdata : data = encode frame ++ behind)
    (hsize : (encode frame).length ≤ size) :
    acDatalinkFrameSize data size = (encode frame).length := by
  have hlength := encode_length frame
  have hwhole := acDatalinkFrameSize_take hpayload (Nat.le_refl (encode frame).length) behind
  rw [List.take_length, if_neg (by omega)] at hwhole
  unfold acDatalinkFrameSize at hwhole ⊢
  rw [if_neg (by omega)] at hwhole ⊢
  rw [hdata]
  exact hwhole

/-- A controller in the middle of a stream of frames: what it holds and what its device
still hands out are those frames, and the magic test does not fail. -/
structure Streaming (mtu : Nat) (frames : List DataLinkFrame) (chunks : List Bytes)
    (datalink : AcDatalinkController) : Prop where
  sound : datalink.Sound
  ops : datalink.ops = some { read := true, write := true }
  mtu_eq : acDatalinkEffectiveMtu datalink = mtu
  stream : datalink.buffered ++ chunks.flatten = frameStream frames
  front : (datalink.rxStreamSize = 0 ∧ ∀ first, chunks.head? = some first → 4 ≤ first.length) ∨
    acDatalinkIsMagic datalink.rxStream = true

section Reading

variable {mtu : Nat} (timeoutMs : UInt32) (written : List Bytes)

variable {chunks : List Bytes} {datalink : AcDatalinkController}

theorem Streaming.skipNoise (hstreaming : Streaming mtu frames chunks datalink) (size : Nat) :
    datalink.skipNoise size = datalink := by
  apply skipNoise_of_magic
  rcases hstreaming.front with ⟨hempty, _⟩ | hmagic
  · exact .inl hempty
  · exact .inr hmagic

theorem Streaming.isMagic_iff (hsound : datalink.Sound) :
    acDatalinkIsMagic datalink.rxStream = true ↔ datalink.rxStream.take 4 = magicBytes := by
  apply acDatalinkIsMagic_iff_take
  rw [hsound.length]
  decide

/-- A chunk is stored. -/
theorem Streaming.store {frames : List DataLinkFrame} {chunk : Bytes} {chunks : List Bytes}
    {datalink : AcDatalinkController}
    (hstreaming : Streaming mtu frames (chunk :: chunks) datalink)
    (hfits : datalink.rxStreamSize + chunk.length ≤ acDatalinkRxStreamSize) :
    Streaming mtu frames chunks (datalink.store chunk) := by
  have hsound := hstreaming.sound
  have hstored := hsound.store hfits
  have hstream : (datalink.store chunk).buffered ++ chunks.flatten = frameStream frames := by
    rw [hsound.buffered_store, List.append_assoc]
    exact hstreaming.stream
  refine ⟨hstored, hstreaming.ops, hstreaming.mtu_eq, hstream, .inr ?_⟩
  have hfront := frameStream_take_magic hstream
  rw [Streaming.isMagic_iff hstored, hsound.store_eq]
  rw [hsound.buffered_store] at hfront
  rcases hstreaming.front with ⟨hempty, hfirst⟩ | hmagic
  · -- a first chunk that covers the whole magic
    have hlong := hfirst chunk rfl
    have hnone : datalink.buffered = [] := by
      unfold buffered
      rw [hempty, List.take_zero]
    rw [hnone, List.nil_append] at hfront ⊢
    unfold overlay
    rw [List.take_append_of_le_length hlong, hfront]
    exact List.take_of_length_le hlong
  · exact overlay_take_magic ((Streaming.isMagic_iff hsound).mp hmagic) hfront

/-- The frame at the front is discarded. -/
theorem Streaming.discard (hstreaming : Streaming mtu (frame :: frames) chunks datalink)
    (hcomplete : (encode frame).length ≤ datalink.rxStreamSize)
    (hmagic : acDatalinkIsMagic datalink.rxStream = true) :
    Streaming mtu frames chunks (datalink.discard (encode frame).length) := by
  have hsound := hstreaming.sound
  have hdiscarded := hsound.discard (encode frame).length
  have hstream : (datalink.discard (encode frame).length).buffered ++ chunks.flatten =
      frameStream frames := by
    have hdropped := congrArg (List.drop (encode frame).length) hstreaming.stream
    rw [List.drop_append_of_le_length (hsound.buffered_length ▸ hcomplete)] at hdropped
    rw [hsound.buffered_discard, hdropped]
    exact List.drop_left
  refine ⟨hdiscarded, hstreaming.ops, hstreaming.mtu_eq, hstream, .inr ?_⟩
  have hfront := frameStream_take_magic hstream
  rw [hsound.buffered_discard] at hfront
  rw [Streaming.isMagic_iff hdiscarded, hsound.discard_eq]
  exact overlay_take_magic ((Streaming.isMagic_iff hsound).mp hmagic) hfront

/-- The bytes of an incomplete frame are the front of it. -/
theorem Streaming.buffered_eq (hstreaming : Streaming mtu (frame :: frames) chunks datalink)
    (hincomplete : datalink.rxStreamSize ≤ (encode frame).length) :
    datalink.buffered = (encode frame).take datalink.rxStreamSize := by
  have htaken := congrArg (List.take datalink.rxStreamSize) hstreaming.stream
  rw [List.take_left' hstreaming.sound.buffered_length] at htaken
  rw [htaken]
  exact List.take_append_of_le_length hincomplete

/-- A complete frame at the front of the buffer. -/
theorem Streaming.rxStream_eq (hstreaming : Streaming mtu (frame :: frames) chunks datalink)
    (hcomplete : (encode frame).length ≤ datalink.rxStreamSize) :
    ∃ behind, datalink.rxStream = encode frame ++ behind := by
  have htaken := congrArg (List.take (encode frame).length) hstreaming.stream
  rw [List.take_append_of_le_length (hstreaming.sound.buffered_length ▸ hcomplete)] at htaken
  have hfront : (frameStream (frame :: frames)).take (encode frame).length = encode frame :=
    List.take_left
  rw [hfront] at htaken
  refine ⟨datalink.buffered.drop (encode frame).length ++
    datalink.rxStream.drop datalink.rxStreamSize, ?_⟩
  rw [← List.append_assoc]
  nth_rewrite 1 [← htaken]
  rw [List.take_append_drop]
  exact Sound.rxStream_eq

theorem acDatalinkReadLoop_whole (hsmall : (encode frame).length ≤ acDatalinkMaxFrameSize)
    (bound : Nat) (hstreaming : Streaming mtu (frame :: frames) chunks datalink)
    (hcomplete : (encode frame).length ≤ datalink.rxStreamSize) :
    acDatalinkReadLoop timeoutMs (bound + 1) datalink =
        .done (.ok frame.view, datalink.discard (encode frame).length) ∧
      acDatalinkIsMagic datalink.rxStream = true := by
  have hlength := encode_length frame
  have hmax : acDatalinkMaxFrameSize = 1024 := rfl
  have hstreamSize : acDatalinkRxStreamSize = 2048 := rfl
  have hheaderSize : dataLinkHeaderSize = 36 := rfl
  have hpayload : frame.payload.length < 2 ^ 32 := by omega
  obtain ⟨behind, hdata⟩ := hstreaming.rxStream_eq hcomplete
  have hsize := acDatalinkFrameSize_front hpayload hdata hcomplete
  have hfront : datalink.rxStream.take (encode frame).length = encode frame := by
    rw [hdata, List.take_left]
  constructor
  · rw [acDatalinkReadLoop, hstreaming.skipNoise, hsize, if_neg (by omega), if_pos (by omega),
      hfront, acDatalinkDecodeFrame_encode hpayload]
    dsimp only
    rw [if_neg (Nat.not_lt.mpr hsmall)]
    rfl
  · rw [Streaming.isMagic_iff hstreaming.sound, hdata]
    exact encode_take_magic frame behind

variable {chunk : Bytes}

theorem read_chunk {ε : Type} {capacity : Nat} (hle : chunk.length ≤ capacity) :
    Script.read capacity (⟨chunkReads (chunk :: chunks), written⟩ : Script ε) =
      some (.ok chunk, ⟨chunkReads chunks, written⟩) :=
  if_pos hle

/-- A round of the loop while the frame at the front is incomplete reads a chunk. -/
theorem acDatalinkReadLoop_chunk (hchunk : chunk ≠ [] ∧ chunk.length ≤ mtu) (chunks : List Bytes)
    (bound : Nat)
    (hmtuEq : acDatalinkEffectiveMtu datalink = mtu)
    (hskip : datalink.skipNoise datalink.rxStreamSize = datalink)
    (hsize : acDatalinkFrameSize datalink.rxStream datalink.rxStreamSize ≤ acDatalinkRxStreamSize)
    (hincomplete : ¬ (acDatalinkFrameSize datalink.rxStream datalink.rxStreamSize > 0 ∧
      datalink.rxStreamSize ≥ acDatalinkFrameSize datalink.rxStream datalink.rxStreamSize))
    (hroom : datalink.rxStreamSize + mtu ≤ acDatalinkRxStreamSize) :
    (acDatalinkReadLoop timeoutMs (bound + 1) datalink).run Script.handle
        ⟨chunkReads (chunk :: chunks), written⟩ =
      (acDatalinkReadLoop timeoutMs bound (datalink.store chunk)).run Script.handle
        ⟨chunkReads chunks, written⟩ := by
  have hmax : acDatalinkMaxFrameSize = 1024 := rfl
  have hstreamSize : acDatalinkRxStreamSize = 2048 := rfl
  have hread : Script.read (acDatalinkEffectiveMtu datalink)
      (⟨chunkReads (chunk :: chunks), written⟩ : Script AcError) =
        some (.ok chunk, ⟨chunkReads chunks, written⟩) :=
    read_chunk written (hmtuEq ▸ hchunk.2)
  rw [acDatalinkReadLoop, hskip, if_neg (by omega), if_neg hincomplete, if_neg (by omega),
    Script.run_readBlock_bind, hread]
  dsimp only
  rw [if_neg (fun hnil => hchunk.1 (List.eq_nil_of_length_eq_zero hnil)), if_neg (by omega)]

variable {bound : Nat}

/-- One call returns the frame at the front of the stream. -/
theorem acDatalinkReadLoop_frame (hmtu : mtu ≤ acDatalinkMaxFrameSize)
    (hframe : (encode frame).length ≤ mtu)
    (hchunks : ∀ chunk ∈ chunks, chunk ≠ [] ∧ chunk.length ≤ mtu) (hbound : chunks.length < bound)
    (hstreaming : Streaming mtu (frame :: frames) chunks datalink) :
    ∃ datalink' chunks', (acDatalinkReadLoop timeoutMs bound datalink).run Script.handle
        ⟨chunkReads chunks, written⟩ =
          (.done (.ok frame.view, datalink'), ⟨chunkReads chunks', written⟩) ∧
      Streaming mtu frames chunks' datalink' ∧ chunks' <:+ chunks := by
  have hlength := encode_length frame
  have hmax : acDatalinkMaxFrameSize = 1024 := rfl
  have hstreamSize : acDatalinkRxStreamSize = 2048 := rfl
  have hheaderSize : dataLinkHeaderSize = 36 := rfl
  have hpayload : frame.payload.length < 2 ^ 32 := by omega
  have hwhole {chunks : List Bytes} {bound : Nat} {datalink : AcDatalinkController}
      (hstreaming : Streaming mtu (frame :: frames) chunks datalink)
      (hcomplete : (encode frame).length ≤ datalink.rxStreamSize) (hbound : chunks.length < bound) :
      ∃ datalink' chunks', (acDatalinkReadLoop timeoutMs bound datalink).run Script.handle
          ⟨chunkReads chunks, written⟩ =
            (.done (.ok frame.view, datalink'), ⟨chunkReads chunks', written⟩) ∧
        Streaming mtu frames chunks' datalink' ∧ chunks' <:+ chunks := by
    obtain ⟨bound, rfl⟩ := Nat.exists_eq_add_of_lt hbound
    obtain ⟨hloop, hmagic⟩ := acDatalinkReadLoop_whole timeoutMs (hframe.trans hmtu)
      (chunks.length + bound) hstreaming hcomplete
    refine ⟨_, chunks, ?_, hstreaming.discard hcomplete hmagic, List.suffix_rfl⟩
    rw [hloop]
    rfl
  induction chunks generalizing bound datalink with
  | nil =>
      -- nothing is left to read, so the frame is here
      apply hwhole hstreaming _ hbound
      have hall := congrArg List.length hstreaming.stream
      rw [List.flatten_nil, List.append_nil, hstreaming.sound.buffered_length] at hall
      rw [hall, frameStream, List.map_cons, List.flatten_cons, List.length_append]
      omega
  | cons chunk chunks ih =>
      by_cases hcomplete : (encode frame).length ≤ datalink.rxStreamSize
      · exact hwhole hstreaming hcomplete hbound
      · have hpart := hstreaming.buffered_eq (by omega)
        have hsize := @acDatalinkFrameSize_take frame hpayload datalink.rxStreamSize (by omega)
          (datalink.rxStream.drop datalink.rxStreamSize)
        rw [← hpart, ← Sound.rxStream_eq] at hsize
        obtain ⟨hchunk, hlater⟩ := List.forall_mem_cons.mp hchunks
        obtain ⟨bound, rfl⟩ := Nat.exists_eq_add_of_lt hbound
        have hfits : datalink.rxStreamSize + chunk.length ≤ acDatalinkRxStreamSize := by omega
        have hround := acDatalinkReadLoop_chunk timeoutMs written hchunk chunks
          ((chunk :: chunks).length + bound) hstreaming.mtu_eq (hstreaming.skipNoise _)
          (by rw [hsize]; split <;> omega) (by rw [hsize]; split <;> omega) (by omega)
        have hbound' : chunks.length < (chunk :: chunks).length + bound := by
          rw [List.length_cons]
          omega
        obtain ⟨datalink', chunks', hrun, hrest, hsuffix⟩ :=
          ih hlater hbound' (hstreaming.store hfits)
        exact ⟨datalink', chunks', hround.trans hrun, hrest, hsuffix.trans (List.suffix_cons _ _)⟩

/-- At the end of the stream a call waits. -/
theorem acDatalinkReadLoop_end (hmtu : mtu ≤ acDatalinkMaxFrameSize)
    (hchunks : ∀ chunk ∈ chunks, chunk ≠ [] ∧ chunk.length ≤ mtu) (hbound : chunks.length < bound)
    (hstreaming : Streaming mtu [] chunks datalink) :
    ∃ script, (acDatalinkReadLoop timeoutMs bound datalink).run Script.handle
      ⟨chunkReads chunks, written⟩ = (.waiting, script) := by
  obtain ⟨hbuffered, hflatten⟩ := List.append_eq_nil_iff.mp hstreaming.stream
  have hnone : chunks = [] := by
    cases chunks with
    | nil => rfl
    | cons chunk chunks =>
        obtain ⟨hchunk, _⟩ := List.append_eq_nil_iff.mp hflatten
        exact absurd hchunk (hchunks chunk List.mem_cons_self).1
  subst hnone
  have hsize : datalink.rxStreamSize = 0 := by
    rw [← hstreaming.sound.buffered_length, hbuffered]
    rfl
  have hmax : acDatalinkMaxFrameSize = 1024 := rfl
  have hstreamSize : acDatalinkRxStreamSize = 2048 := rfl
  have hmtuEq := hstreaming.mtu_eq
  have hframeSize : acDatalinkFrameSize datalink.rxStream datalink.rxStreamSize = 0 := by
    unfold acDatalinkFrameSize
    rw [hsize]
    rfl
  obtain ⟨bound, rfl⟩ := Nat.exists_eq_add_of_lt hbound
  refine ⟨⟨[], written⟩, ?_⟩
  rw [acDatalinkReadLoop, hstreaming.skipNoise, hframeSize, if_neg (by omega), if_neg (by omega),
    if_neg (by omega), Script.run_readBlock_bind]
  rfl

theorem Streaming.readFrame_eq (hstreaming : Streaming mtu frames chunks datalink) (bound : Nat) :
    acDatalinkReadFrame bound timeoutMs datalink =
      acDatalinkReadLoop timeoutMs bound datalink := by
  rw [acDatalinkReadFrame, hstreaming.ops]
  rfl

/-- Calls one after another return the frames of the stream one after another. -/
theorem Streaming.readFrames (hmtu : mtu ≤ acDatalinkMaxFrameSize) {bound : Nat} (calls : Nat)
    {frames : List DataLinkFrame} (hframes : ∀ frame ∈ frames, (encode frame).length ≤ mtu)
    {chunks : List Bytes} (hchunks : ∀ chunk ∈ chunks, chunk ≠ [] ∧ chunk.length ≤ mtu)
    (hbound : chunks.length < bound) {datalink : AcDatalinkController}
    (hstreaming : Streaming mtu frames chunks datalink) :
    (runCalls Script.handle (List.replicate calls (acDatalinkReadFrame bound timeoutMs)) datalink
      ⟨chunkReads chunks, written⟩).1 = (frames.take calls).map fun frame => .ok frame.view := by
  induction calls generalizing frames chunks datalink with
  | zero => rfl
  | succ calls ih =>
      have hread := hstreaming.readFrame_eq timeoutMs bound
      rw [List.replicate_succ, runCalls, hread]
      cases frames with
      | nil =>
          obtain ⟨script, hrun⟩ :=
            acDatalinkReadLoop_end timeoutMs written hmtu hchunks hbound hstreaming
          rw [hrun]
          rfl
      | cons frame frames =>
          obtain ⟨hframe, hlater⟩ := List.forall_mem_cons.mp hframes
          obtain ⟨datalink', chunks', hrun, hrest, hsuffix⟩ :=
            acDatalinkReadLoop_frame timeoutMs written hmtu hframe hchunks hbound hstreaming
          rw [hrun]
          dsimp only
          rw [ih hlater (fun chunk hmem => hchunks chunk (hsuffix.subset hmem))
            (hsuffix.length_le.trans_lt hbound) hrest]
          rfl

theorem effectiveMtu_init (hmtu : mtu ≠ 0 ∧ mtu ≤ acDatalinkMaxFrameSize) :
    acDatalinkEffectiveMtu (acDatalinkInit mtu) = mtu := by
  unfold acDatalinkEffectiveMtu acDatalinkInit
  dsimp only
  rw [if_neg hmtu.1, if_neg hmtu.1, if_neg (Nat.not_lt.mpr hmtu.2)]

/-- A freshly initialised controller in front of a stream. -/
theorem streaming_init (hmtu : mtu ≠ 0 ∧ mtu ≤ acDatalinkMaxFrameSize)
    (hstream : chunks.flatten = frameStream frames)
    (hfirst : ∀ first, chunks.head? = some first → 4 ≤ first.length) :
    Streaming mtu frames chunks (acDatalinkInit mtu) := by
  exact ⟨⟨List.length_replicate, Nat.zero_le _⟩, rfl, effectiveMtu_init hmtu, hstream,
    .inl ⟨rfl, hfirst⟩⟩

/-! ## What a call uses up -/

/-- The bytes of a frame that was read. -/
def viewSize (view : AcDatalinkFrameView) : Nat :=
  dataLinkHeaderSize + view.payload.length

theorem viewSize_view (frame : DataLinkFrame) :
    viewSize frame.view = (encode frame).length :=
  (encode_length frame).symm

theorem skipNoise_sound (hsound : datalink.Sound) (size : Nat) : (datalink.skipNoise size).Sound ∧
      (datalink.skipNoise size).rxStreamSize ≤ datalink.rxStreamSize := by
  induction size generalizing datalink with
  | zero => exact ⟨hsound, Nat.le_refl _⟩
  | succ size ih =>
      rw [AcDatalinkController.skipNoise]
      split
      · obtain ⟨hskipped, hle⟩ := ih (hsound.discard 1)
        exact ⟨hskipped, hle.trans (Nat.sub_le _ _)⟩
      · exact ⟨hsound, Nat.le_refl _⟩

variable {view : AcDatalinkFrameView}

theorem acDatalinkDecodeFrame_size (hview : acDatalinkDecodeFrame data = some view) :
    viewSize view = data.length := by
  unfold acDatalinkDecodeFrame at hview
  split at hview
  · cases hview
  · next hlong =>
      split at hview
      · cases hview
      · split at hview
        · cases hview
        · dsimp only at hview
          split at hview
          · cases hview
          · split at hview
            · cases hview
            · obtain rfl := Option.some.inj hview
              unfold viewSize
              dsimp only
              rw [List.length_drop]
              omega

variable {script : Script AcError}

/-- A read of a chunk hands out some of its bytes and keeps the others. -/
theorem read_chunkReads {capacity : Nat} {reply : Except AcError Bytes}
    (hread : Script.read capacity ⟨chunkReads chunks, written⟩ = some (reply, script)) :
    ∃ block chunks', reply = .ok block ∧ script = ⟨chunkReads chunks', written⟩ ∧
      block.length + chunks'.flatten.length = chunks.flatten.length := by
  cases chunks with
  | nil => cases hread
  | cons chunk chunks =>
      unfold Script.read chunkReads at hread
      simp only [List.map_cons] at hread
      split at hread
      · obtain ⟨rfl, rfl⟩ := Prod.mk.inj (Option.some.inj hread)
        refine ⟨chunk, chunks, rfl, rfl, ?_⟩
        rw [List.flatten_cons, List.length_append]
      · next hlong =>
          obtain ⟨rfl, rfl⟩ := Prod.mk.inj (Option.some.inj hread)
          refine ⟨_, chunk.drop capacity :: chunks, rfl, rfl, ?_⟩
          rw [List.flatten_cons, List.flatten_cons, List.length_append, List.length_append,
            List.length_take, List.length_drop]
          omega

variable {datalink' : AcDatalinkController}

/-- A frame that is read was held or handed out. -/
theorem acDatalinkReadLoop_uses (hsound : datalink.Sound)
    (hrun : (acDatalinkReadLoop timeoutMs bound datalink).run Script.handle
      ⟨chunkReads chunks, written⟩ = (.done (.ok view, datalink'), script)) :
    ∃ chunks', script = ⟨chunkReads chunks', written⟩ ∧ datalink'.Sound ∧
      viewSize view + datalink'.rxStreamSize + chunks'.flatten.length ≤
        datalink.rxStreamSize + chunks.flatten.length := by
  induction bound generalizing datalink chunks with
  | zero => cases hrun
  | succ bound ih =>
      obtain ⟨hskipped, hless⟩ := skipNoise_sound hsound datalink.rxStreamSize
      rw [acDatalinkReadLoop] at hrun
      generalize datalink.skipNoise datalink.rxStreamSize = skipped at hskipped hless hrun
      split at hrun
      · cases hrun
      · split at hrun
        · next hcomplete =>
            split at hrun
            · obtain ⟨chunks', hscript, hsound', huses⟩ := ih (hskipped.discard 1) hrun
              have hdiscarded : (skipped.discard 1).rxStreamSize = skipped.rxStreamSize - 1 := rfl
              exact ⟨chunks', hscript, hsound', by omega⟩
            · next hview =>
                split at hrun
                · cases hrun
                · obtain ⟨hdone, rfl⟩ := Prod.mk.inj hrun
                  obtain ⟨hreply, rfl⟩ := Prod.mk.inj (Outcome.done.inj hdone)
                  obtain rfl := Except.ok.inj hreply
                  refine ⟨chunks, rfl, hskipped.discard _, ?_⟩
                  have hsize := acDatalinkDecodeFrame_size hview
                  have hfits := hskipped.size_le
                  rw [List.length_take, hskipped.length] at hsize
                  rw [hsize]
                  unfold AcDatalinkController.discard
                  dsimp only
                  omega
        · split at hrun
          · cases hrun
          · rw [Script.run_readBlock_bind] at hrun
            split at hrun
            · cases hrun
            · next hread =>
                obtain ⟨block, rest, rfl, rfl, hlengths⟩ := read_chunkReads written hread
                dsimp only at hrun
                split at hrun
                · cases hrun
                · split at hrun
                  · cases hrun
                  · next hfits =>
                      obtain ⟨chunks', hscript, hsound', huses⟩ :=
                        ih (hskipped.store (Nat.not_lt.mp hfits)) hrun
                      have hstored : (skipped.store block).rxStreamSize =
                          skipped.rxStreamSize + block.length := rfl
                      exact ⟨chunks', hscript, hsound', by omega⟩

theorem acDatalinkReadFrame_uses (hsound : datalink.Sound)
    (hrun : (acDatalinkReadFrame bound timeoutMs datalink).run Script.handle
      ⟨chunkReads chunks, written⟩ = (.done (.ok view, datalink'), script)) :
    ∃ chunks', script = ⟨chunkReads chunks', written⟩ ∧ datalink'.Sound ∧
      viewSize view + datalink'.rxStreamSize + chunks'.flatten.length ≤
        datalink.rxStreamSize + chunks.flatten.length := by
  unfold acDatalinkReadFrame at hrun
  split at hrun
  · cases hrun
  · split at hrun
    · cases hrun
    · exact acDatalinkReadLoop_uses timeoutMs written hsound hrun

/-- A first call that returns a frame, and what the calls after it return. -/
theorem runCalls_cons_ok {call : AcDatalinkController →
      LinkProc AcError (Except AcError AcDatalinkFrameView × AcDatalinkController)}
    {calls : List (AcDatalinkController →
      LinkProc AcError (Except AcError AcDatalinkFrameView × AcDatalinkController))}
    {results : List (Except AcError AcDatalinkFrameView)}
    (hresults : (runCalls Script.handle (call :: calls) datalink script).1 = .ok view :: results) :
    ∃ datalink' script', (call datalink).run Script.handle script =
        (.done (.ok view, datalink'), script') ∧
      (runCalls Script.handle calls datalink' script').1 = results := by
  rw [runCalls] at hresults
  split at hresults
  · next reply datalink' script' hrun =>
      obtain ⟨rfl, rfl⟩ := List.cons.inj hresults
      exact ⟨datalink', script', hrun, rfl⟩
  · cases hresults

/-- Calls that all return frames use up the bytes of these frames. -/
theorem readFrames_use {calls : Nat} {views : List AcDatalinkFrameView}
    (hsound : datalink.Sound)
    (hresults : (runCalls Script.handle (List.replicate calls (acDatalinkReadFrame bound timeoutMs))
      datalink ⟨chunkReads chunks, written⟩).1 = views.map .ok) :
    (views.map viewSize).sum ≤ datalink.rxStreamSize + chunks.flatten.length := by
  induction calls generalizing views chunks datalink with
  | zero =>
      have hnone : views = [] := List.map_eq_nil_iff.mp hresults.symm
      rw [hnone]
      exact Nat.zero_le _
  | succ calls ih =>
      cases views with
      | nil => exact Nat.zero_le _
      | cons view views =>
          obtain ⟨datalink', script', hrun, hlater⟩ := runCalls_cons_ok hresults
          obtain ⟨chunks', rfl, hsound', huses⟩ :=
            acDatalinkReadFrame_uses timeoutMs written hsound hrun
          have hrest := ih hsound' hlater
          rw [List.map_cons, List.sum_cons]
          omega

/-! ## A short first chunk -/

/-- A short chunk on a fresh stream is noise. -/
theorem short_chunk_not_magic (hshort : chunk.length < 4) :
    acDatalinkIsMagic ((acDatalinkInit mtu).store chunk).rxStream = false := by
  have hsound : (acDatalinkInit mtu).Sound := ⟨List.length_replicate, Nat.zero_le _⟩
  have hfits : (acDatalinkInit mtu).rxStreamSize + chunk.length ≤ acDatalinkRxStreamSize := by
    have hstreamSize : acDatalinkRxStreamSize = 2048 := rfl
    have hempty : (acDatalinkInit mtu).rxStreamSize = 0 := rfl
    omega
  rw [← Bool.not_eq_true, Streaming.isMagic_iff (hsound.store hfits), hsound.store_eq]
  have hnone : (acDatalinkInit mtu).buffered = [] := rfl
  rw [hnone, List.nil_append, overlay]
  intro hmagic
  -- the last byte of the magic would be a zero
  have hlast : ((chunk ++ (acDatalinkInit mtu).rxStream.drop chunk.length).take 4)[3]? =
      magicBytes[3]? := congrArg (fun bytes => bytes[3]?) hmagic
  rw [List.getElem?_take_of_lt (by decide), List.getElem?_append_right (by omega),
    List.getElem?_drop, Nat.add_sub_cancel' (by omega)] at hlast
  have hzero : (acDatalinkInit mtu).rxStream[3]? = some 0 :=
    List.getElem?_replicate_of_lt (by decide)
  rw [hzero] at hlast
  exact absurd hlast (by decide)

/-- A first byte of noise is skipped before anything else. -/
theorem acDatalinkReadLoop_noise (bound : Nat)
    (hnoise : acDatalinkIsMagic datalink.rxStream = false) (hsome : 0 < datalink.rxStreamSize) :
    acDatalinkReadLoop timeoutMs bound datalink =
      acDatalinkReadLoop timeoutMs bound (datalink.discard 1) := by
  cases bound with
  | zero => rfl
  | succ bound =>
      have hskip : datalink.skipNoise datalink.rxStreamSize =
          (datalink.discard 1).skipNoise (datalink.discard 1).rxStreamSize := by
        obtain ⟨size, hsize⟩ := Nat.exists_eq_succ_of_ne_zero (Nat.ne_of_gt hsome)
        have hdiscarded : (datalink.discard 1).rxStreamSize = size := by
          unfold AcDatalinkController.discard
          dsimp only
          omega
        rw [hdiscarded, hsize, AcDatalinkController.skipNoise, if_pos]
        exact ⟨hsome, by rw [hnoise]; rfl⟩
      rw [acDatalinkReadLoop, acDatalinkReadLoop, hskip]
      rfl

/-- After a short first chunk a frame that is read leaves a byte unused. -/
theorem short_chunk_uses (hmtu : mtu ≠ 0 ∧ mtu ≤ acDatalinkMaxFrameSize) (hshort : chunk.length < 4)
    (hchunk : chunk ≠ [] ∧ chunk.length ≤ mtu)
    (hrun : (acDatalinkReadFrame bound timeoutMs (acDatalinkInit mtu)).run Script.handle
      ⟨chunkReads (chunk :: chunks), written⟩ = (.done (.ok view, datalink'), script)) :
    ∃ chunks', script = ⟨chunkReads chunks', written⟩ ∧ datalink'.Sound ∧
      viewSize view + datalink'.rxStreamSize + chunks'.flatten.length + 1 ≤
        (chunk :: chunks).flatten.length := by
  have hsound : (acDatalinkInit mtu).Sound := ⟨List.length_replicate, Nat.zero_le _⟩
  have hmax : acDatalinkMaxFrameSize = 1024 := rfl
  have hstreamSize : acDatalinkRxStreamSize = 2048 := rfl
  have hsize : ((acDatalinkInit mtu).store chunk).rxStreamSize = chunk.length := Nat.zero_add _
  have hpositive : 0 < chunk.length := List.length_pos_iff.mpr hchunk.1
  have hloop : acDatalinkReadFrame bound timeoutMs (acDatalinkInit mtu) =
      acDatalinkReadLoop timeoutMs bound (acDatalinkInit mtu) := rfl
  rw [hloop] at hrun
  cases bound with
  | zero => cases hrun
  | succ bound =>
      have hframeSize : acDatalinkFrameSize (acDatalinkInit mtu).rxStream
          (acDatalinkInit mtu).rxStreamSize = 0 := rfl
      have hempty : (acDatalinkInit mtu).rxStreamSize = 0 := rfl
      rw [acDatalinkReadLoop_chunk timeoutMs written hchunk chunks bound
        (effectiveMtu_init hmtu) rfl (by omega) (by omega) (by omega),
        acDatalinkReadLoop_noise timeoutMs bound (short_chunk_not_magic hshort) (by omega)] at hrun
      have hstored : ((acDatalinkInit mtu).store chunk).Sound := hsound.store (by omega)
      obtain ⟨chunks', hscript, hsound', huses⟩ :=
        acDatalinkReadLoop_uses timeoutMs written (hstored.discard 1) hrun
      have hdiscarded : (((acDatalinkInit mtu).store chunk).discard 1).rxStreamSize =
          chunk.length - 1 := congrArg (· - 1) hsize
      refine ⟨chunks', hscript, hsound', ?_⟩
      rw [List.flatten_cons, List.length_append]
      omega

end Reading

/-! ## Chunking -/

/-- What calls from a freshly initialised controller return. -/
def framesRead (bound : Nat) (timeoutMs : UInt32) (mtu : Nat) (chunks : List Bytes)
    (calls : Nat) : List (Except AcError AcDatalinkFrameView) :=
  results (List.replicate calls (acDatalinkReadFrame bound timeoutMs)) (acDatalinkInit mtu)
    (chunkReads chunks)

/-- A stream whose frames are all read begins with a chunk that covers the first magic. -/
theorem first_chunk_covers_magic {mtu : Nat} (hmtu : 37 ≤ mtu ∧ mtu ≤ 1024)
    {frames : List DataLinkFrame} {chunks : List Bytes}
    (hchunks : ∀ chunk ∈ chunks, chunk ≠ [] ∧ chunk.length ≤ mtu)
    (hstream : chunks.flatten = frameStream frames) {bound : Nat} {timeoutMs : UInt32}
    (hread : framesRead bound timeoutMs mtu chunks frames.length =
      frames.map fun frame => .ok frame.view) {first : Bytes}
    (hfirst : chunks.head? = some first) : 4 ≤ first.length := by
  have hmtu' : mtu ≠ 0 ∧ mtu ≤ acDatalinkMaxFrameSize := ⟨by omega, hmtu.2⟩
  by_contra hshort
  obtain ⟨chunks, rfl⟩ : ∃ rest, chunks = first :: rest := by
    cases chunks with
    | nil => cases hfirst
    | cons chunk rest => exact ⟨rest, by rw [Option.some.inj hfirst]⟩
  have hfirstChunk := hchunks first List.mem_cons_self
  cases frames with
  | nil =>
      obtain ⟨hnone, _⟩ := List.append_eq_nil_iff.mp hstream
      exact hfirstChunk.1 hnone
  | cons frame frames =>
      obtain ⟨datalink', script', hrun, hlater⟩ := runCalls_cons_ok hread
      obtain ⟨chunks', rfl, hsound', huses⟩ := short_chunk_uses timeoutMs [] hmtu'
        (Nat.not_le.mp hshort) hfirstChunk hrun
      have hviews : (runCalls Script.handle
          (List.replicate frames.length (acDatalinkReadFrame bound timeoutMs)) datalink'
            ⟨chunkReads chunks', []⟩).1 = (frames.map DataLinkFrame.view).map .ok := by
        rw [hlater, List.map_map]
        rfl
      have hrest := readFrames_use timeoutMs [] hsound' hviews
      have hsizes : (frames.map DataLinkFrame.view).map viewSize =
          frames.map fun frame => (encode frame).length := by
        rw [List.map_map]
        exact List.map_congr_left fun frame _ => viewSize_view frame
      have htotal : (frameStream (frame :: frames)).length =
          (encode frame).length + (frames.map fun frame => (encode frame).length).sum := by
        unfold frameStream
        rw [List.map_cons, List.flatten_cons, List.length_append, List.length_flatten,
          List.map_map]
        rfl
      rw [hsizes] at hrest
      rw [viewSize_view, hstream, htotal] at huses
      omega

/-- The frames of a stream are read one after another, however it is cut, if and only if
the first chunk covers the first magic. -/
theorem frames_read_iff (mtu : Nat) (hmtu : 37 ≤ mtu ∧ mtu ≤ 1024) (frames : List DataLinkFrame)
    (hframes : ∀ frame ∈ frames, (encode frame).length ≤ mtu) (chunks : List Bytes)
    (hchunks : ∀ chunk ∈ chunks, chunk ≠ [] ∧ chunk.length ≤ mtu)
    (hstream : chunks.flatten = frameStream frames) (bound : Nat)
    (hbound : chunks.length < bound) (timeoutMs : UInt32) :
    (∀ calls, framesRead bound timeoutMs mtu chunks calls =
        (frames.take calls).map fun frame => .ok frame.view) ↔
      ∀ first, chunks.head? = some first → 4 ≤ first.length := by
  have hmtu' : mtu ≠ 0 ∧ mtu ≤ acDatalinkMaxFrameSize := ⟨by omega, hmtu.2⟩
  constructor
  · intro hread first hfirst
    have hall := hread frames.length
    rw [List.take_length] at hall
    exact first_chunk_covers_magic hmtu hchunks hstream hall hfirst
  · intro hfirst calls
    exact (streaming_init hmtu' hstream hfirst).readFrames timeoutMs [] hmtu'.2 calls hframes hchunks
      hbound

/-! ## One frame -/

/-- The shortest frame, and how it is cut behind its first bytes. -/
def cutFrame (count : Nat) : List Bytes :=
  [(encode {}).take count, (encode {}).drop count]

theorem frameStream_cutFrame (count : Nat) : (cutFrame count).flatten = frameStream [{}] := by
  unfold cutFrame frameStream
  simp

theorem cutFrame_chunks {count : Nat} (hcount : 0 < count ∧ count < 36) :
    ∀ chunk ∈ cutFrame count, chunk ≠ [] ∧ chunk.length ≤ 64 := by
  have hlength : (encode {}).length = 36 := encode_length {}
  intro chunk hmem
  rw [← List.length_pos_iff]
  rcases List.mem_cons.mp hmem with rfl | hrest
  · rw [List.length_take]
    omega
  · rw [List.mem_singleton.mp hrest, List.length_drop]
    omega

theorem frame_cut_behind_magic :
    framesRead 3 100 64 (cutFrame 4) 1 = [.ok (DataLinkFrame.view {})] :=
  (frames_read_iff 64 (by decide) [{}] (by
      intro frame hmem
      rw [List.mem_singleton.mp hmem, encode_length]
      decide) (cutFrame 4) (cutFrame_chunks (by decide)) (frameStream_cutFrame 4) 3
    (by decide) 100).mpr (by
      intro first hfirst
      obtain rfl := Option.some.inj hfirst
      rw [List.length_take, encode_length]
      decide) 1

/-- A frame whose first two bytes come alone is lost. -/
theorem frame_cut_in_magic : ¬ ∀ (mtu : Nat) (frames : List DataLinkFrame) (chunks : List Bytes)
    (bound : Nat) (timeoutMs : UInt32), 37 ≤ mtu ∧ mtu ≤ 1024 →
    (∀ frame ∈ frames, (encode frame).length ≤ mtu) →
    (∀ chunk ∈ chunks, chunk ≠ [] ∧ chunk.length ≤ mtu) →
    chunks.flatten = frameStream frames → chunks.length < bound →
    ∀ calls, framesRead bound timeoutMs mtu chunks calls =
      (frames.take calls).map fun frame => .ok frame.view := by
  intro hread
  have hframes : ∀ frame ∈ [({} : DataLinkFrame)], (encode frame).length ≤ 64 := by
    intro frame hmem
    rw [List.mem_singleton.mp hmem, encode_length]
    decide
  have hall := hread 64 [{}] (cutFrame 2) 3 100 (by decide) hframes (cutFrame_chunks (by decide))
    (frameStream_cutFrame 2) (by decide) 1
  have hlong := first_chunk_covers_magic (by decide) (cutFrame_chunks (by decide))
    (frameStream_cutFrame 2) hall rfl
  rw [List.length_take, encode_length] at hlong
  exact absurd hlong (by decide)

end AudioStudio.DataLink
