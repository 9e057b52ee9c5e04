import AudioStudio.DataLink.Chunks
import AudioStudio.DataLink.HostTracking

/-!
# Noise before frames

Where the two readers go in a stream that begins with noise.  The firmware scans byte by
byte for a frame; the host follows the sizes that headers announce.
-/

namespace AudioStudio.DataLink

open LittleEndian
open Wire
open DataLinkFrameCodec
open AcDatalinkController

/-! ## The firmware -/

/-- The scan of a stream up to its first frame: what is not the magic is noise, and a
header whose frame fits the frame copy but does not decode is skipped like noise. -/
inductive Scan : Bytes → AcDatalinkFrameView → Bytes → Prop where
  | noise {c : UInt8} {rest after : Bytes} {view : AcDatalinkFrameView} :
      acDatalinkIsMagic (c :: rest) = false → Scan rest view after → Scan (c :: rest) view after
  | garbled {c : UInt8} {rest after : Bytes} {view : AcDatalinkFrameView} {size : Nat} :
      acDatalinkFrameSize (c :: rest) (c :: rest).length = size → 0 < size →
        size ≤ acDatalinkMaxFrameSize → size ≤ (c :: rest).length →
        acDatalinkDecodeFrame ((c :: rest).take size) = none → Scan rest view after →
        Scan (c :: rest) view after
  | frame {stream : Bytes} {view : AcDatalinkFrameView} {size : Nat} :
      acDatalinkFrameSize stream stream.length = size → 0 < size →
        size ≤ acDatalinkMaxFrameSize → size ≤ stream.length →
        acDatalinkDecodeFrame (stream.take size) = some view → Scan stream view (stream.drop size)

/-- One frame after another. -/
inductive Scans : Bytes → List AcDatalinkFrameView → Bytes → Prop where
  | done {stream : Bytes} : Scans stream [] stream
  | next {stream middle after : Bytes} {view : AcDatalinkFrameView}
      {views : List AcDatalinkFrameView} :
      Scan stream view middle → Scans middle views after → Scans stream (view :: views) after

/-- No read ends within the first three bytes of a magic. -/
def Uncut (buffered : Bytes) (chunks : List Bytes) : Prop :=
  ∀ read later before part, chunks = read ++ later → buffered ++ read.flatten = before ++ part →
    part ≠ [] → part.length < 4 → acDatalinkIsMagic (part ++ later.flatten) = false

theorem Uncut.drop {buffered : Bytes} {chunks : List Bytes} (huncut : Uncut buffered chunks)
    (count : Nat) : Uncut (buffered.drop count) chunks := by
  intro read later before part hchunks hpart hne hshort
  refine huncut read later (buffered.take count ++ before) part hchunks ?_ hne hshort
  rw [List.append_assoc, ← hpart, ← List.append_assoc, List.take_append_drop]

theorem Uncut.store {buffered chunk : Bytes} {chunks : List Bytes}
    (huncut : Uncut buffered (chunk :: chunks)) : Uncut (buffered ++ chunk) chunks := by
  intro read later before part hchunks hpart hne hshort
  refine huncut (chunk :: read) later before part ?_ ?_ hne hshort
  · rw [hchunks]
    rfl
  · rw [List.flatten_cons, ← List.append_assoc]
    exact hpart

variable {data : Bytes}

theorem acDatalinkFrameSize_pos {count : Nat} (hpositive : 0 < acDatalinkFrameSize data count) :
    dataLinkHeaderSize ≤ count ∧ acDatalinkIsMagic data = true ∧
      dataLinkHeaderSize ≤ acDatalinkFrameSize data count := by
  unfold acDatalinkFrameSize at hpositive ⊢
  split at hpositive
  · exact absurd hpositive (by omega)
  · next hlong =>
      split at hpositive
      · exact absurd hpositive (by omega)
      · next hmagic =>
          split at hpositive
          · exact absurd hpositive (by omega)
          · next hheader =>
              rw [if_neg hlong, if_neg hmagic, if_neg hheader]
              refine ⟨by omega, by simpa using hmagic, by omega⟩

/-- The header decides the size. -/
theorem acDatalinkFrameSize_header {front left right : Bytes} {count count' : Nat}
    (hfront : dataLinkHeaderSize ≤ front.length) (hcount : dataLinkHeaderSize ≤ count)
    (hcount' : dataLinkHeaderSize ≤ count') :
    acDatalinkFrameSize (front ++ left) count = acDatalinkFrameSize (front ++ right) count' := by
  have hheaderSize : dataLinkHeaderSize = 36 := rfl
  have hmagic : acDatalinkIsMagic (front ++ left) = acDatalinkIsMagic (front ++ right) := by
    unfold acDatalinkIsMagic
    rw [byteAt_append_left (by omega), byteAt_append_left (by omega),
      byteAt_append_left (by omega), byteAt_append_left (by omega),
      byteAt_append_left (by omega), byteAt_append_left (by omega),
      byteAt_append_left (by omega), byteAt_append_left (by omega)]
  unfold acDatalinkFrameSize
  rw [if_neg (Nat.not_lt.mpr hcount), if_neg (Nat.not_lt.mpr hcount'), hmagic,
    byteAt_append_left (by omega), byteAt_append_left (by omega),
    word32_append_left (by omega), word32_append_left (by omega)]

theorem acDatalinkIsMagic_front {front left right : Bytes} (hfront : 4 ≤ front.length) :
    acDatalinkIsMagic (front ++ left) = acDatalinkIsMagic (front ++ right) := by
  unfold acDatalinkIsMagic
  rw [byteAt_append_left (by omega), byteAt_append_left (by omega),
    byteAt_append_left (by omega), byteAt_append_left (by omega),
    byteAt_append_left (by omega), byteAt_append_left (by omega),
    byteAt_append_left (by omega), byteAt_append_left (by omega)]

variable {after : Bytes} {view : AcDatalinkFrameView}

/-- A scan needs a whole header. -/
theorem Scan.length {stream : Bytes} (hscan : Scan stream view after) :
    dataLinkHeaderSize ≤ stream.length := by
  induction hscan with
  | noise hnoise hrest ih => exact ih.trans (Nat.le_succ _)
  | garbled hsize hpositive hsmall hfits hdecode hrest ih => exact ih.trans (Nat.le_succ _)
  | frame hsize hpositive hsmall hfits hdecode =>
      rw [← hsize] at hpositive
      exact (acDatalinkFrameSize_pos hpositive).1

/-- A controller in the middle of a stream. -/
structure Receiving (mtu : Nat) (stream : Bytes) (chunks : List Bytes)
    (datalink : AcDatalinkController) : Prop where
  sound : datalink.Sound
  ops : datalink.ops = some { read := true, write := true }
  mtu_eq : acDatalinkEffectiveMtu datalink = mtu
  mtu_le : mtu ≤ acDatalinkMaxFrameSize
  reads : ∀ chunk ∈ chunks, chunk ≠ [] ∧ chunk.length ≤ mtu
  unread : datalink.buffered ++ chunks.flatten = stream
  uncut : Uncut datalink.buffered chunks

namespace Receiving

variable {mtu : Nat} (timeoutMs : UInt32) (written : List Bytes) {stream : Bytes}
  {chunks : List Bytes} {datalink : AcDatalinkController}

theorem discard (hreceiving : Receiving mtu stream chunks datalink) {count : Nat}
    (hcount : count ≤ datalink.rxStreamSize) :
    Receiving mtu (stream.drop count) chunks (datalink.discard count) := by
  have hsound := hreceiving.sound
  refine ⟨hsound.discard count, hreceiving.ops, hreceiving.mtu_eq, hreceiving.mtu_le,
    hreceiving.reads, ?_, ?_⟩
  · rw [hsound.buffered_discard, ← hreceiving.unread, List.drop_append_of_le_length]
    rw [hsound.buffered_length]
    exact hcount
  · rw [hsound.buffered_discard]
    exact hreceiving.uncut.drop count

/-- A magic at the front of the stream is never looked at in part. -/
theorem buffered_long (hreceiving : Receiving mtu stream chunks datalink)
    (hmagic : acDatalinkIsMagic stream = true) :
    datalink.rxStreamSize = 0 ∨ 4 ≤ datalink.rxStreamSize := by
  by_contra hpart
  have hlength := hreceiving.sound.buffered_length
  have hnoise := hreceiving.uncut [] chunks [] datalink.buffered rfl
    (List.append_nil _) (by rw [← List.length_pos_iff]; omega) (by omega)
  rw [hreceiving.unread, hmagic] at hnoise
  cases hnoise

/-- Where the bytes that count are enough, the magic test is that of the stream. -/
theorem isMagic_eq (hreceiving : Receiving mtu stream chunks datalink)
    (hlong : 4 ≤ datalink.rxStreamSize) :
    acDatalinkIsMagic datalink.rxStream = acDatalinkIsMagic stream := by
  rw [Sound.rxStream_eq, ← hreceiving.unread]
  apply acDatalinkIsMagic_front
  rw [hreceiving.sound.buffered_length]
  exact hlong

theorem frameSize_eq (hreceiving : Receiving mtu stream chunks datalink)
    (hlong : dataLinkHeaderSize ≤ datalink.rxStreamSize) :
    acDatalinkFrameSize datalink.rxStream datalink.rxStreamSize =
      acDatalinkFrameSize stream stream.length := by
  have hlength := hreceiving.sound.buffered_length
  rw [← hreceiving.unread]
  nth_rewrite 1 [Sound.rxStream_eq]
  apply acDatalinkFrameSize_header
  · omega
  · exact hlong
  · rw [List.length_append]
    omega

theorem take_eq (hreceiving : Receiving mtu stream chunks datalink) {count : Nat}
    (hcount : count ≤ datalink.rxStreamSize) :
    datalink.rxStream.take count = stream.take count := by
  have hlength := hreceiving.sound.buffered_length
  rw [← hreceiving.unread, List.take_append_of_le_length (by omega)]
  unfold buffered
  rw [List.take_take, Nat.min_eq_left hcount]

variable {bound : Nat}

/-- The loop reads on where it neither skips nor finds a complete frame. -/
theorem readMore (hreceiving : Receiving mtu stream chunks datalink)
    (hbound : chunks.length + stream.length < bound)
    (hskip : datalink.skipNoise datalink.rxStreamSize = datalink)
    (hmore : datalink.rxStreamSize < stream.length)
    (hsmall : datalink.rxStreamSize ≤ acDatalinkMaxFrameSize)
    (hsize : acDatalinkFrameSize datalink.rxStream datalink.rxStreamSize ≤ acDatalinkMaxFrameSize)
    (hincomplete : acDatalinkFrameSize datalink.rxStream datalink.rxStreamSize = 0 ∨
      datalink.rxStreamSize < acDatalinkFrameSize datalink.rxStream datalink.rxStreamSize) :
    ∃ chunk chunks' bound', chunks = chunk :: chunks' ∧
      chunks'.length + stream.length < bound' ∧
      (acDatalinkReadLoop timeoutMs bound datalink).run Script.handle
          ⟨chunkReads chunks, written⟩ =
        (acDatalinkReadLoop timeoutMs bound' (datalink.store chunk)).run Script.handle
          ⟨chunkReads chunks', written⟩ ∧
      Receiving mtu stream chunks' (datalink.store chunk) := by
  have hsound := hreceiving.sound
  have hlength := hsound.buffered_length
  have hmax : acDatalinkMaxFrameSize = 1024 := rfl
  have hstreamSize : acDatalinkRxStreamSize = 2048 := rfl
  have hmtu := hreceiving.mtu_le
  cases chunks with
  | nil =>
      have hall := congrArg List.length hreceiving.unread
      rw [List.flatten_nil, List.append_nil, hlength] at hall
      omega
  | cons chunk chunks =>
      obtain ⟨hchunk, hlater⟩ := List.forall_mem_cons.mp hreceiving.reads
      obtain ⟨bound, rfl⟩ := Nat.exists_eq_succ_of_ne_zero (Nat.ne_zero_of_lt hbound)
      rw [List.length_cons] at hbound
      refine ⟨chunk, chunks, bound, rfl, by omega, ?_, ?_⟩
      · exact acDatalinkReadLoop_chunk timeoutMs written hchunk chunks bound hreceiving.mtu_eq hskip
          (by omega) (by omega) (by omega)
      · refine ⟨hsound.store (by omega), hreceiving.ops, hreceiving.mtu_eq, hmtu, hlater, ?_, ?_⟩
        · rw [hsound.buffered_store, List.append_assoc]
          exact hreceiving.unread
        · rw [hsound.buffered_store]
          exact hreceiving.uncut.store

/-- A call that returns this frame and leaves the rest of the stream. -/
def Returns (mtu : Nat) (timeoutMs : UInt32) (written : List Bytes) (chunks : List Bytes)
    (bound : Nat) (datalink : AcDatalinkController) (view : AcDatalinkFrameView)
    (after : Bytes) : Prop :=
  ∃ datalink' chunks', (acDatalinkReadLoop timeoutMs bound datalink).run Script.handle
      ⟨chunkReads chunks, written⟩ =
        (.done (.ok view, datalink'), ⟨chunkReads chunks', written⟩) ∧
    Receiving mtu after chunks' datalink' ∧ chunks'.length ≤ chunks.length

/-- While the loop reads on, fewer chunks are left. -/
theorem returns_of_readMore {view : AcDatalinkFrameView} {after : Bytes}
    (hstep : ∀ {chunks : List Bytes} {bound : Nat} {datalink : AcDatalinkController},
      Receiving mtu stream chunks datalink → chunks.length + stream.length < bound →
      Returns mtu timeoutMs written chunks bound datalink view after ∨
        ∃ chunk chunks' bound', chunks = chunk :: chunks' ∧
          chunks'.length + stream.length < bound' ∧
          (acDatalinkReadLoop timeoutMs bound datalink).run Script.handle
              ⟨chunkReads chunks, written⟩ =
            (acDatalinkReadLoop timeoutMs bound' (datalink.store chunk)).run Script.handle
              ⟨chunkReads chunks', written⟩ ∧
          Receiving mtu stream chunks' (datalink.store chunk))
    (hbound : chunks.length + stream.length < bound)
    (hreceiving : Receiving mtu stream chunks datalink) :
    Returns mtu timeoutMs written chunks bound datalink view after := by
  induction chunks generalizing bound datalink with
  | nil =>
      rcases hstep hreceiving hbound with hreturns | ⟨chunk, chunks', bound', hnil, _⟩
      · exact hreturns
      · cases hnil
  | cons chunk chunks ih =>
      rcases hstep hreceiving hbound with
        hreturns | ⟨chunk', chunks', bound', hcons, hbound', hrun, hstored⟩
      · exact hreturns
      · obtain ⟨rfl, rfl⟩ := List.cons.inj hcons
        obtain ⟨datalink'', chunks'', hlater, hafter, hle⟩ := ih hbound' hstored
        exact ⟨datalink'', chunks'', hrun.trans hlater, hafter, hle.trans (Nat.le_succ _)⟩

/-- At a header whose frame fits, the frame is complete or the loop reads on. -/
theorem headed {size : Nat} (hreceiving : Receiving mtu stream chunks datalink)
    (hbound : chunks.length + stream.length < bound)
    (hsize : acDatalinkFrameSize stream stream.length = size) (hpositive : 0 < size)
    (hsmall : size ≤ acDatalinkMaxFrameSize) (hfits : size ≤ stream.length) :
    (size ≤ datalink.rxStreamSize ∧ datalink.skipNoise datalink.rxStreamSize = datalink ∧
      acDatalinkFrameSize datalink.rxStream datalink.rxStreamSize = size ∧
      datalink.rxStream.take size = stream.take size) ∨
    ∃ chunk chunks' bound', chunks = chunk :: chunks' ∧
      chunks'.length + stream.length < bound' ∧
      (acDatalinkReadLoop timeoutMs bound datalink).run Script.handle
          ⟨chunkReads chunks, written⟩ =
        (acDatalinkReadLoop timeoutMs bound' (datalink.store chunk)).run Script.handle
          ⟨chunkReads chunks', written⟩ ∧
      Receiving mtu stream chunks' (datalink.store chunk) := by
  have hheaderSize : dataLinkHeaderSize = 36 := rfl
  obtain ⟨_, hmagic, hheader⟩ := acDatalinkFrameSize_pos (hsize ▸ hpositive)
  rw [hsize] at hheader
  have hstay : datalink.rxStreamSize = 0 ∨ acDatalinkIsMagic datalink.rxStream = true := by
    rcases hreceiving.buffered_long hmagic with hempty | hlong
    · exact .inl hempty
    · exact .inr ((hreceiving.isMagic_eq hlong).trans hmagic)
  have hskip := skipNoise_of_magic hstay datalink.rxStreamSize
  by_cases hcomplete : size ≤ datalink.rxStreamSize
  · left
    exact ⟨hcomplete, hskip, (hreceiving.frameSize_eq (by omega)).trans hsize,
      hreceiving.take_eq hcomplete⟩
  · right
    by_cases hlong : dataLinkHeaderSize ≤ datalink.rxStreamSize
    · have hsame := (hreceiving.frameSize_eq hlong).trans hsize
      exact hreceiving.readMore timeoutMs written hbound hskip (by omega) (by omega) (by omega)
        (.inr (by omega))
    · have hzero : acDatalinkFrameSize datalink.rxStream datalink.rxStreamSize = 0 := by
        unfold acDatalinkFrameSize
        rw [if_pos (by omega)]
      exact hreceiving.readMore timeoutMs written hbound hskip (by omega) (by omega) (by omega)
        (.inl hzero)

end Receiving

open Receiving in
/-- A call returns the first frame of the scan. -/
theorem Scan.returns {mtu : Nat} (timeoutMs : UInt32) (written : List Bytes) {stream : Bytes}
    (hscan : Scan stream view after) :
    ∀ {chunks : List Bytes} {bound : Nat} {datalink : AcDatalinkController},
      Receiving mtu stream chunks datalink → chunks.length + stream.length < bound →
      Returns mtu timeoutMs written chunks bound datalink view after := by
  have hmax : acDatalinkMaxFrameSize = 1024 := rfl
  have hstreamSize : acDatalinkRxStreamSize = 2048 := rfl
  have hheaderSize : dataLinkHeaderSize = 36 := rfl
  induction hscan with
  | @noise c rest after view hnoise hrest ih =>
      intro chunks bound datalink hreceiving hbound
      refine returns_of_readMore timeoutMs written ?_ hbound hreceiving
      intro chunks bound datalink hreceiving hbound
      by_cases hdrop : 0 < datalink.rxStreamSize ∧ acDatalinkIsMagic datalink.rxStream = false
      · left
        unfold Returns
        rw [acDatalinkReadLoop_noise timeoutMs bound hdrop.2 hdrop.1]
        apply ih (hreceiving.discard hdrop.1)
        rw [List.length_cons] at hbound
        omega
      · -- so few bytes that the stale ones behind them may look like the magic
        right
        have hfew : datalink.rxStreamSize < 4 := by
          by_contra hlong
          have hsame := hreceiving.isMagic_eq (Nat.not_lt.mp hlong)
          rw [hnoise] at hsame
          exact hdrop ⟨by omega, hsame⟩
        have hstay : datalink.rxStreamSize = 0 ∨ acDatalinkIsMagic datalink.rxStream = true := by
          by_contra hneither
          obtain ⟨hsome, hmagic⟩ := not_or.mp hneither
          exact hdrop ⟨Nat.pos_of_ne_zero hsome, Bool.eq_false_iff.mpr hmagic⟩
        have hzero : acDatalinkFrameSize datalink.rxStream datalink.rxStreamSize = 0 := by
          unfold acDatalinkFrameSize
          rw [if_pos (by omega)]
        have hlong := (Scan.noise hnoise hrest).length
        exact hreceiving.readMore timeoutMs written hbound (skipNoise_of_magic hstay _) (by omega)
          (by omega) (by omega) (.inl hzero)
  | @garbled c rest after view size hsize hpositive hsmall hfits hdecode hrest ih =>
      intro chunks bound datalink hreceiving hbound
      refine returns_of_readMore timeoutMs written ?_ hbound hreceiving
      intro chunks bound datalink hreceiving hbound
      rcases hreceiving.headed timeoutMs written hbound hsize hpositive hsmall hfits with
        ⟨hcomplete, hskip, hsame, htake⟩ | hmore
      · left
        obtain ⟨bound, rfl⟩ := Nat.exists_eq_succ_of_ne_zero (Nat.ne_zero_of_lt hbound)
        have hdropped : acDatalinkReadLoop timeoutMs (bound + 1) datalink =
            acDatalinkReadLoop timeoutMs bound (datalink.discard 1) := by
          rw [acDatalinkReadLoop, hskip, hsame, if_neg (by omega),
            if_pos ⟨hpositive, hcomplete⟩, htake, hdecode]
        unfold Returns
        rw [Nat.succ_eq_add_one, hdropped]
        have hsome : 1 ≤ datalink.rxStreamSize := by omega
        apply ih (hreceiving.discard hsome)
        rw [List.length_cons] at hbound
        omega
      · exact .inr hmore
  | @frame stream view size hsize hpositive hsmall hfits hdecode =>
      intro chunks bound datalink hreceiving hbound
      refine returns_of_readMore timeoutMs written ?_ hbound hreceiving
      intro chunks bound datalink hreceiving hbound
      rcases hreceiving.headed timeoutMs written hbound hsize hpositive hsmall hfits with
        ⟨hcomplete, hskip, hsame, htake⟩ | hmore
      · left
        obtain ⟨bound, rfl⟩ := Nat.exists_eq_succ_of_ne_zero (Nat.ne_zero_of_lt hbound)
        have hdone : acDatalinkReadLoop timeoutMs (bound + 1) datalink =
            .done (.ok view, datalink.discard size) := by
          rw [acDatalinkReadLoop, hskip, hsame, if_neg (by omega),
            if_pos ⟨hpositive, hcomplete⟩, htake, hdecode]
          dsimp only
          rw [if_neg (Nat.not_lt.mpr hsmall)]
          rfl
        refine ⟨datalink.discard size, chunks, ?_, hreceiving.discard hcomplete, Nat.le_refl _⟩
        rw [Nat.succ_eq_add_one, hdone]
        rfl
      · exact .inr hmore

theorem Receiving.readFrame_eq {mtu : Nat} {stream : Bytes} {chunks : List Bytes}
    {datalink : AcDatalinkController} (hreceiving : Receiving mtu stream chunks datalink)
    (bound : Nat) (timeoutMs : UInt32) : acDatalinkReadFrame bound timeoutMs datalink =
      acDatalinkReadLoop timeoutMs bound datalink := by
  rw [acDatalinkReadFrame, hreceiving.ops]
  rfl

theorem Scan.after_le {stream : Bytes} (hscan : Scan stream view after) :
    after.length ≤ stream.length := by
  induction hscan with
  | noise hnoise hrest ih => exact ih.trans (Nat.le_succ _)
  | garbled hsize hpositive hsmall hfits hdecode hrest ih => exact ih.trans (Nat.le_succ _)
  | frame hsize hpositive hsmall hfits hdecode =>
      rw [List.length_drop]
      exact Nat.sub_le _ _

/-- Calls return the frames of the scan one after another. -/
theorem Scans.readFrames {mtu : Nat} {timeoutMs : UInt32} {written : List Bytes}
    {stream after : Bytes} {views : List AcDatalinkFrameView} (hscans : Scans stream views after)
    {chunks : List Bytes} {bound : Nat} {datalink : AcDatalinkController}
    (hreceiving : Receiving mtu stream chunks datalink)
    (hbound : chunks.length + stream.length < bound) :
    (runCalls Script.handle (List.replicate views.length (acDatalinkReadFrame bound timeoutMs))
      datalink ⟨chunkReads chunks, written⟩).1 = views.map .ok := by
  induction hscans generalizing chunks datalink with
  | done => rfl
  | next hscan hrest ih =>
      obtain ⟨datalink', chunks', hrun, hafter, hle⟩ :=
        hscan.returns timeoutMs written hreceiving hbound
      have hless := hscan.after_le
      rw [List.length_cons, List.replicate_succ, runCalls, hreceiving.readFrame_eq, hrun]
      dsimp only
      rw [ih hafter (by omega)]
      rfl

/-- Frames that fit the frame copy are scanned as they are. -/
theorem scans_frames {frames : List DataLinkFrame}
    (hframes : ∀ frame ∈ frames, (encode frame).length ≤ acDatalinkMaxFrameSize) :
    Scans (frameStream frames) (frames.map DataLinkFrame.view) [] := by
  induction frames with
  | nil => exact .done
  | cons frame frames ih =>
      obtain ⟨hframe, hlater⟩ := List.forall_mem_cons.mp hframes
      have hmax : acDatalinkMaxFrameSize = 1024 := rfl
      have hheaderSize : dataLinkHeaderSize = 36 := rfl
      have hlength := encode_length frame
      have hpayload : frame.payload.length < 2 ^ 32 := by omega
      have hstream : frameStream (frame :: frames) = encode frame ++ frameStream frames := rfl
      have hdrop : (frameStream (frame :: frames)).drop (encode frame).length =
          frameStream frames := List.drop_left
      have htake : (frameStream (frame :: frames)).take (encode frame).length = encode frame :=
        List.take_left
      have hscan : Scan (frameStream (frame :: frames)) frame.view
          ((frameStream (frame :: frames)).drop (encode frame).length) := by
        refine .frame (acDatalinkFrameSize_front hpayload hstream ?_) (by omega) hframe ?_ ?_
        · rw [hstream, List.length_append]
          omega
        · rw [hstream, List.length_append]
          omega
        · rw [htake]
          exact acDatalinkDecodeFrame_encode hpayload
      rw [hdrop] at hscan
      exact .next hscan (ih hlater)

theorem Scans.trans {stream middle : Bytes} {views views' : List AcDatalinkFrameView}
    (hfirst : Scans stream views middle) (hrest : Scans middle views' after) :
    Scans stream (views ++ views') after := by
  induction hfirst with
  | done => exact hrest
  | next hscan hlater ih => exact .next hscan (ih hrest)

/-! ## The host -/

/-- The blocks of a stream that its headers announce, and what decoding them gives. -/
inductive Blocks : Bytes → List (Common.Result DataLinkFrame) → Bytes → Prop where
  | done {stream : Bytes} : Blocks stream [] stream
  | next {stream after : Bytes} {size : Nat} {replies : List (Common.Result DataLinkFrame)} :
      frameSize stream = .ok size → Blocks (stream.drop size) replies after →
        Blocks stream (decode (stream.take size) :: replies) after

variable {front : Bytes} {size : Nat}

/-- A block is announced once its bytes are there, and unavailable before. -/
theorem frameSize_front {rest : Bytes} (hsize : frameSize (front ++ rest) = .ok size) :
    (size ≤ front.length ∧ frameSize front = .ok size) ∨
      front.length < size ∧ ∃ message, frameSize front = .error (.unavailable message) := by
  have hheaderSize : dataLinkHeaderSize = 36 := rfl
  unfold frameSize at hsize ⊢
  split at hsize
  · cases hsize
  · split at hsize
    · cases hsize
    · next hmagic =>
        split at hsize
        · cases hsize
        · next hheader =>
            dsimp only at hsize
            split at hsize
            · cases hsize
            · obtain rfl := Except.ok.inj hsize
              by_cases hshort : front.length < dataLinkHeaderSize
              · right
                rw [if_pos hshort]
                exact ⟨by omega, _, rfl⟩
              · rw [word32_append_left (by omega)] at hmagic
                rw [byteAt_append_left (by omega)] at hheader
                rw [word32_append_left (by omega), if_neg hshort, if_neg hmagic, if_neg hheader]
                dsimp only
                by_cases hincomplete : front.length <
                    dataLinkHeaderSize + (word32 front 20).toNat
                · right
                  rw [if_pos hincomplete]
                  exact ⟨hincomplete, _, rfl⟩
                · left
                  rw [if_neg hincomplete]
                  exact ⟨Nat.not_lt.mp hincomplete, rfl⟩

namespace DataLinkManager

/-- The size of the buffer that `readFrame` reads into. -/
def readCapacity (manager : DataLinkManager) : Nat :=
  max manager.caps.maxPayloadSize dataLinkHeaderSize

/-- What a call returns over chunks, and that it leaves the rest of the stream. -/
def Returns (timeoutMs : UInt32) (written : List Bytes) (bound : Nat) (manager : DataLinkManager)
    (chunks : List Bytes) (result : Common.Result DataLinkFrame) (after : Bytes) : Prop :=
  ∃ buffer chunks', (readFrame timeoutMs bound manager).run Script.handle
      ⟨chunkReads chunks, written⟩ =
        (.done (result, { manager with rxBuffer := buffer }), ⟨chunkReads chunks', written⟩) ∧
    buffer ++ chunks'.flatten = after ∧ chunks' <:+ chunks

/-- A call that has too little reads the next chunk and goes on. -/
theorem Returns.read_on {timeoutMs : UInt32} {written : List Bytes} {bound : Nat}
    {manager : DataLinkManager} {chunk : Bytes} {chunks : List Bytes}
    {result : Common.Result DataLinkFrame} {after : Bytes} {message : String}
    (hincomplete : DataLinkFrameCodec.frameSize manager.rxBuffer = .error (.unavailable message))
    (hchunk : chunk ≠ [] ∧ chunk.length ≤ manager.readCapacity)
    (hreturns : Returns timeoutMs written bound
      { manager with rxBuffer := manager.rxBuffer ++ chunk } chunks result after) :
    Returns timeoutMs written (bound + 1) manager (chunk :: chunks) result after := by
  obtain ⟨buffer, chunks', hrun, hafter, hsuffix⟩ := hreturns
  have hround := @readFrame_round timeoutMs bound manager message hincomplete chunk hchunk.1
    (chunkReads chunks) written manager.readCapacity rfl
  rw [if_pos hchunk.2] at hround
  exact ⟨buffer, chunks', hround.trans hrun, hafter, hsuffix.trans (List.suffix_cons _ _)⟩

/-- A call returns what the block at the front decodes to, and takes the block away. -/
theorem readFrame_block {timeoutMs : UInt32} {written : List Bytes} {stream : Bytes} {size : Nat}
    (hsize : DataLinkFrameCodec.frameSize stream = .ok size) {chunks : List Bytes} {bound : Nat}
    {manager : DataLinkManager}
    (hchunks : ∀ chunk ∈ chunks, chunk ≠ [] ∧ chunk.length ≤ manager.readCapacity)
    (hbound : chunks.length < bound) (hstream : manager.rxBuffer ++ chunks.flatten = stream) :
    ∃ buffer chunks', (readFrame timeoutMs bound manager).run Script.handle
        ⟨chunkReads chunks, written⟩ =
          (.done (decode (stream.take size), { manager with rxBuffer := buffer }),
            ⟨chunkReads chunks', written⟩) ∧
      buffer ++ chunks'.flatten = stream.drop size ∧ chunks' <:+ chunks := by
  induction chunks generalizing bound manager with
  | nil =>
      obtain ⟨bound, rfl⟩ := Nat.exists_eq_add_of_lt hbound
      rw [List.flatten_nil, List.append_nil] at hstream
      refine ⟨stream.drop size, [], ?_, List.append_nil _, List.suffix_rfl⟩
      rw [readFrame, hstream, hsize]
      rfl
  | cons chunk chunks ih =>
      obtain ⟨hchunk, hlater⟩ := List.forall_mem_cons.mp hchunks
      obtain ⟨bound, rfl⟩ := Nat.exists_eq_add_of_lt hbound
      rw [← hstream] at hsize
      rcases frameSize_front hsize with ⟨hcomplete, hfront⟩ | ⟨_, message, hincomplete⟩
      · refine ⟨manager.rxBuffer.drop size, chunk :: chunks, ?_, ?_, List.suffix_rfl⟩
        · rw [readFrame, hfront, ← hstream, List.take_append_of_le_length hcomplete]
          rfl
        · rw [← hstream, List.drop_append_of_le_length hcomplete]
      · have hstored : manager.rxBuffer ++ chunk ++ chunks.flatten = stream := by
          rw [List.append_assoc]
          exact hstream
        have hbound' : chunks.length < (chunk :: chunks).length + bound := by
          rw [List.length_cons]
          omega
        rw [hstream] at hsize
        apply Returns.read_on hincomplete hchunk
        exact @ih ((chunk :: chunks).length + bound)
          { manager with rxBuffer := manager.rxBuffer ++ chunk } hlater hbound' hstored

/-- Calls return the blocks of the stream one after another. -/
theorem readFrames_blocks {timeoutMs : UInt32} {written : List Bytes} {stream after : Bytes}
    {replies : List (Common.Result DataLinkFrame)} (hblocks : Blocks stream replies after)
    {chunks : List Bytes} {bound : Nat} {manager : DataLinkManager}
    (hchunks : ∀ chunk ∈ chunks, chunk ≠ [] ∧ chunk.length ≤ manager.readCapacity)
    (hbound : chunks.length < bound) (hstream : manager.rxBuffer ++ chunks.flatten = stream) :
    (runCalls Script.handle (List.replicate replies.length (readFrame timeoutMs bound)) manager
      ⟨chunkReads chunks, written⟩).1 = replies := by
  induction hblocks generalizing chunks manager with
  | done => rfl
  | next hsize hrest ih =>
      obtain ⟨buffer, chunks', hrun, hafter, hsuffix⟩ :=
        @readFrame_block timeoutMs written _ _ hsize chunks bound manager hchunks hbound hstream
      rw [List.length_cons, List.replicate_succ, runCalls, hrun]
      dsimp only
      rw [@ih chunks' { manager with rxBuffer := buffer }
        (fun chunk hmem => hchunks chunk (hsuffix.subset hmem))
        (hsuffix.length_le.trans_lt hbound) hafter]

end DataLinkManager

/-- Frames are announced as blocks. -/
theorem blocks_frames {frames : List DataLinkFrame}
    (hframes : ∀ frame ∈ frames, frame.payload.length < 2 ^ 32) :
    Blocks (frameStream frames) (frames.map .ok) [] := by
  induction frames with
  | nil => exact .done
  | cons frame frames ih =>
      obtain ⟨hframe, hlater⟩ := List.forall_mem_cons.mp hframes
      have hstream : frameStream (frame :: frames) = encode frame ++ frameStream frames := rfl
      have hdrop : (frameStream (frame :: frames)).drop (encode frame).length =
          frameStream frames := List.drop_left
      have htake : (frameStream (frame :: frames)).take (encode frame).length = encode frame :=
        List.take_left
      have hsize : frameSize (frameStream (frame :: frames)) = .ok (encode frame).length := by
        rw [hstream]
        exact frameSize_encode hframe (frameStream frames)
      have hnext := ih hlater
      rw [← hdrop] at hnext
      have hblocks := Blocks.next hsize hnext
      rw [htake, decode_encode hframe] at hblocks
      exact hblocks

theorem Blocks.trans {stream middle : Bytes} {replies replies' : List (Common.Result DataLinkFrame)}
    (hfirst : Blocks stream replies middle) (hrest : Blocks middle replies' after) :
    Blocks stream (replies ++ replies') after := by
  induction hfirst with
  | done => exact hrest
  | next hsize hlater ih => exact .next hsize (ih hrest)

/-- The header decides, and the bytes behind it only by their number. -/
theorem frameSize_header (hfront : dataLinkHeaderSize ≤ front.length) (rest : Bytes) :
    frameSize (front ++ rest) =
      if word32 front 0 ≠ kMagic then .error (.invalidArgument "data-link magic mismatch")
      else if byteAt front 5 ≠ 36 then
        .error (.invalidArgument "data-link header size mismatch")
      else if (front ++ rest).length < dataLinkHeaderSize + (word32 front 20).toNat then
        .error (.unavailable "data-link frame payload is incomplete")
      else .ok (dataLinkHeaderSize + (word32 front 20).toNat) := by
  have hheaderSize : dataLinkHeaderSize = 36 := rfl
  have hlong : dataLinkHeaderSize ≤ (front ++ rest).length :=
    hfront.trans (List.prefix_append front rest).length_le
  rw [frameSize, if_neg (Nat.not_lt.mpr hlong), word32_append_left (by omega),
    byteAt_append_left (by omega), word32_append_left (by omega)]

theorem frameSize_long (hsize : frameSize data = .ok size) :
    dataLinkHeaderSize ≤ data.length ∧ size ≤ data.length := by
  have hlong : dataLinkHeaderSize ≤ data.length := by
    by_contra hshort
    rw [frameSize, if_pos (Nat.not_le.mp hshort)] at hsize
    cases hsize
  have hheader := frameSize_header hlong []
  rw [List.append_nil, hsize] at hheader
  refine ⟨hlong, ?_⟩
  split_ifs at hheader with hmagic hheaderByte hincomplete
  rw [Except.ok.inj hheader]
  exact Nat.not_lt.mp hincomplete

theorem frameSize_append (hsize : frameSize data = .ok size) (more : Bytes) :
    frameSize (data ++ more) = .ok size := by
  have hlong := (frameSize_long hsize).1
  have hheader := frameSize_header hlong []
  rw [List.append_nil, hsize] at hheader
  rw [frameSize_header hlong more]
  split_ifs at hheader ⊢ with hmagic hheaderByte hincomplete hstill
  · rw [List.length_append] at hincomplete
    omega
  · exact hheader.symm

/-- A header that is none is seen as soon as it is there. -/
theorem frameSize_stuck {rest : Bytes} {status : Common.Status}
    (hsize : frameSize (front ++ rest) = .error status) (hcode : status.code ≠ .unavailable) :
    frameSize front = .error status ∨ ∃ message,
      frameSize front = .error (.unavailable message) := by
  by_cases hshort : front.length < dataLinkHeaderSize
  · right
    rw [frameSize, if_pos hshort]
    exact ⟨_, rfl⟩
  · left
    have hlong := Nat.not_lt.mp hshort
    have hheader := frameSize_header hlong []
    rw [List.append_nil] at hheader
    rw [frameSize_header hlong rest] at hsize
    rw [hheader]
    split_ifs at hsize with hmagic hheaderByte hincomplete
    · rw [if_pos hmagic]
      exact hsize
    · rw [if_neg hmagic, if_pos hheaderByte]
      exact hsize
    · exact absurd (congrArg Common.Status.code (Except.error.inj hsize)).symm hcode

namespace DataLinkManager

/-- No call gets past a header that is none: nothing is taken from the buffer. -/
theorem readFrame_stuck {timeoutMs : UInt32} {written : List Bytes}
    {stream : Bytes} {status : Common.Status}
    (hsize : DataLinkFrameCodec.frameSize stream = .error status)
    (hcode : status.code ≠ .unavailable) {chunks : List Bytes} {bound : Nat}
    {manager : DataLinkManager}
    (hchunks : ∀ chunk ∈ chunks, chunk ≠ [] ∧ chunk.length ≤ manager.readCapacity)
    (hbound : chunks.length < bound) (hstream : manager.rxBuffer ++ chunks.flatten = stream) :
    ∃ buffer chunks', (readFrame timeoutMs bound manager).run Script.handle
        ⟨chunkReads chunks, written⟩ =
          (.done (.error status, { manager with rxBuffer := buffer }),
            ⟨chunkReads chunks', written⟩) ∧
      buffer ++ chunks'.flatten = stream ∧ chunks' <:+ chunks := by
  have hstop : ∀ (bound : Nat) (manager : DataLinkManager) (chunks : List Bytes),
      DataLinkFrameCodec.frameSize manager.rxBuffer = .error status →
      (readFrame timeoutMs (bound + 1) manager).run Script.handle ⟨chunkReads chunks, written⟩ =
        (.done (.error status, manager), ⟨chunkReads chunks, written⟩) := by
    intro bound manager chunks hfront
    rw [readFrame, hfront]
    dsimp only
    rw [if_pos hcode]
    rfl
  induction chunks generalizing bound manager with
  | nil =>
      obtain ⟨bound, rfl⟩ := Nat.exists_eq_add_of_lt hbound
      have hwhole := hstream
      rw [List.flatten_nil, List.append_nil] at hwhole
      rw [← hwhole] at hsize
      exact ⟨manager.rxBuffer, [], hstop _ manager [] hsize, hstream, List.suffix_rfl⟩
  | cons chunk chunks ih =>
      obtain ⟨hchunk, hlater⟩ := List.forall_mem_cons.mp hchunks
      obtain ⟨bound, rfl⟩ := Nat.exists_eq_add_of_lt hbound
      rw [← hstream] at hsize
      rcases frameSize_stuck hsize hcode with hfront | ⟨message, hincomplete⟩
      · exact ⟨manager.rxBuffer, chunk :: chunks, hstop _ manager _ hfront, hstream,
          List.suffix_rfl⟩
      · have hstored : manager.rxBuffer ++ chunk ++ chunks.flatten = stream := by
          rw [List.append_assoc]
          exact hstream
        have hbound' : chunks.length < (chunk :: chunks).length + bound := by
          rw [List.length_cons]
          omega
        rw [hstream] at hsize
        apply Returns.read_on hincomplete hchunk
        exact @ih ((chunk :: chunks).length + bound)
          { manager with rxBuffer := manager.rxBuffer ++ chunk } hlater hbound' hstored

/-- Behind a header that is none every call fails. -/
theorem readFrames_stuck {timeoutMs : UInt32} {written : List Bytes} {stream : Bytes}
    {status : Common.Status} (hsize : DataLinkFrameCodec.frameSize stream = .error status)
    (hcode : status.code ≠ .unavailable) {chunks : List Bytes} {bound : Nat} (calls : Nat)
    {manager : DataLinkManager}
    (hchunks : ∀ chunk ∈ chunks, chunk ≠ [] ∧ chunk.length ≤ manager.readCapacity)
    (hbound : chunks.length < bound) (hstream : manager.rxBuffer ++ chunks.flatten = stream) :
    (runCalls Script.handle (List.replicate calls (readFrame timeoutMs bound)) manager
      ⟨chunkReads chunks, written⟩).1 = List.replicate calls (.error status) := by
  induction calls generalizing chunks manager with
  | zero => rfl
  | succ calls ih =>
      obtain ⟨buffer, chunks', hrun, hafter, hsuffix⟩ :=
        @readFrame_stuck timeoutMs written stream status hsize hcode chunks bound manager hchunks
          hbound hstream
      rw [List.replicate_succ, List.replicate_succ, runCalls, hrun]
      dsimp only
      rw [@ih chunks' { manager with rxBuffer := buffer }
        (fun chunk hmem => hchunks chunk (hsuffix.subset hmem))
        (hsuffix.length_le.trans_lt hbound) hafter]

end DataLinkManager

/-! ## An unbounded sequence of frames -/

/-- `count` frames of the sequence, from `first` on. -/
def framesFrom (frames : Nat → DataLinkFrame) (first count : Nat) : List DataLinkFrame :=
  (List.range' first count).map frames

theorem framesFrom_add (frames : Nat → DataLinkFrame) (first count more : Nat) :
    framesFrom frames first (count + more) =
      framesFrom frames first count ++ framesFrom frames (first + count) more := by
  unfold framesFrom
  rw [← List.map_append, List.range'_append_1]

theorem framesFrom_length (frames : Nat → DataLinkFrame) (first count : Nat) :
    (framesFrom frames first count).length = count := by
  unfold framesFrom
  rw [List.length_map, List.length_range']

theorem frameStream_append (frames more : List DataLinkFrame) :
    frameStream (frames ++ more) = frameStream frames ++ frameStream more := by
  unfold frameStream
  rw [List.map_append, List.flatten_append]

/-- What arrives up to frame `count`. -/
def noisyStream (noise : Bytes) (frames : Nat → DataLinkFrame) (count : Nat) : Bytes :=
  noise ++ frameStream (framesFrom frames 0 count)

theorem noisyStream_add (noise : Bytes) (frames : Nat → DataLinkFrame) (count more : Nat) :
    noisyStream noise frames (count + more) =
      noisyStream noise frames count ++ frameStream (framesFrom frames count more) := by
  unfold noisyStream
  rw [framesFrom_add, frameStream_append, ← List.append_assoc, Nat.zero_add]

/-- More bytes behind a scan change nothing in it. -/
theorem Scan.append {stream : Bytes} (hscan : Scan stream view after) (more : Bytes) :
    Scan (stream ++ more) view (after ++ more) := by
  have hheaderSize : dataLinkHeaderSize = 36 := rfl
  have hsame : ∀ {stream : Bytes} {size : Nat}, acDatalinkFrameSize stream stream.length = size →
      0 < size → acDatalinkFrameSize (stream ++ more) (stream ++ more).length = size := by
    intro stream size hsize hpositive
    rw [← hsize] at hpositive
    have hlong := (acDatalinkFrameSize_pos hpositive).1
    have hheader := @acDatalinkFrameSize_header stream more [] (stream ++ more).length
      stream.length hlong (by rw [List.length_append]; omega) hlong
    rwa [List.append_nil, hsize] at hheader
  induction hscan with
  | @noise c rest after view hnoise hrest ih =>
      have hlong := (Scan.noise hnoise hrest).length
      refine .noise ?_ ih
      have hfront := @acDatalinkIsMagic_front (c :: rest) more [] (by omega)
      rwa [List.append_nil, hnoise] at hfront
  | @garbled c rest after view size hsize hpositive hsmall hfits hdecode hrest ih =>
      have htake : ((c :: rest) ++ more).take size = (c :: rest).take size :=
        List.take_append_of_le_length hfits
      refine .garbled (hsame hsize hpositive) hpositive hsmall ?_ (htake.symm ▸ hdecode) ih
      exact hfits.trans (List.prefix_append _ more).length_le
  | frame hsize hpositive hsmall hfits hdecode =>
      rw [← List.drop_append_of_le_length hfits]
      refine .frame (hsame hsize hpositive) hpositive hsmall ?_ ?_
      · exact hfits.trans (List.prefix_append _ more).length_le
      · rw [List.take_append_of_le_length hfits]
        exact hdecode

theorem Scans.append {stream : Bytes} {views : List AcDatalinkFrameView}
    (hscans : Scans stream views after) (more : Bytes) :
    Scans (stream ++ more) views (after ++ more) := by
  induction hscans with
  | done => exact .done
  | next hscan hrest ih => exact .next (hscan.append more) ih

/-- More bytes behind the blocks change nothing in them. -/
theorem Blocks.append {stream : Bytes} {replies : List (Common.Result DataLinkFrame)}
    (hblocks : Blocks stream replies after) (more : Bytes) :
    Blocks (stream ++ more) replies (after ++ more) := by
  induction hblocks with
  | done => exact .done
  | next hsize hrest ih =>
      have hfits := (frameSize_long hsize).2
      rw [← List.drop_append_of_le_length hfits] at ih
      have hblocks := Blocks.next (frameSize_append hsize more) ih
      rwa [List.take_append_of_le_length hfits] at hblocks

/-- The scan of the firmware comes to the beginning of a frame of the sequence. -/
def ScanMeets (noise : Bytes) (frames : Nat → DataLinkFrame) : Prop :=
  ∃ first count views, Scans (noisyStream noise frames (first + count)) views
    (frameStream (framesFrom frames first count))

/-- The blocks of the host come to the beginning of a frame of the sequence. -/
def BlocksMeet (noise : Bytes) (frames : Nat → DataLinkFrame) : Prop :=
  ∃ first count replies, Blocks (noisyStream noise frames (first + count)) replies
    (frameStream (framesFrom frames first count))

variable {frames : Nat → DataLinkFrame} {noise : Bytes}

theorem ScanMeets.scans (hframes : ∀ index, (encode (frames index)).length ≤ acDatalinkMaxFrameSize)
    (hmeets : ScanMeets noise frames) : ∃ first views, ∀ count,
      Scans (noisyStream noise frames (first + count))
        (views ++ (framesFrom frames first count).map DataLinkFrame.view) [] := by
  obtain ⟨first, met, views, hscans⟩ := hmeets
  refine ⟨first + met, views ++ (framesFrom frames first met).map DataLinkFrame.view, ?_⟩
  intro count
  have hmore := hscans.append (frameStream (framesFrom frames (first + met) count))
  rw [← noisyStream_add, ← frameStream_append, ← framesFrom_add] at hmore
  have hlater : Scans (frameStream (framesFrom frames first (met + count)))
      ((framesFrom frames first (met + count)).map DataLinkFrame.view) [] := by
    apply scans_frames
    intro frame hmem
    obtain ⟨index, _, rfl⟩ := List.mem_map.mp hmem
    exact hframes index
  have hall := hmore.trans hlater
  rwa [framesFrom_add, List.map_append, ← List.append_assoc] at hall

theorem BlocksMeet.blocks (hframes : ∀ index, (frames index).payload.length < 2 ^ 32)
    (hmeet : BlocksMeet noise frames) : ∃ first replies, ∀ count,
      Blocks (noisyStream noise frames (first + count))
        (replies ++ (framesFrom frames first count).map .ok) [] := by
  obtain ⟨first, met, replies, hblocks⟩ := hmeet
  refine ⟨first + met, replies ++ (framesFrom frames first met).map .ok, ?_⟩
  intro count
  have hmore := hblocks.append (frameStream (framesFrom frames (first + met) count))
  rw [← noisyStream_add, ← frameStream_append, ← framesFrom_add] at hmore
  have hlater : Blocks (frameStream (framesFrom frames first (met + count)))
      ((framesFrom frames first (met + count)).map .ok) [] := by
    apply blocks_frames
    intro frame hmem
    obtain ⟨index, _, rfl⟩ := List.mem_map.mp hmem
    exact hframes index
  have hall := hmore.trans hlater
  rwa [framesFrom_add, List.map_append, ← List.append_assoc] at hall

/-- What calls of the host return. -/
def blocksRead (bound : Nat) (timeoutMs : UInt32) (caps : DataLinkDeviceCaps)
    (chunks : List Bytes) (calls : Nat) : List (Common.Result DataLinkFrame) :=
  results (List.replicate calls (DataLinkManager.readFrame timeoutMs bound)) { caps := caps }
    (chunkReads chunks)

/-- After the calls that the noise takes, the firmware returns the frames from `first` on,
whatever reads they arrive in. -/
def FirmwareRecovers (mtu : Nat) (noise : Bytes) (frames : Nat → DataLinkFrame)
    (admitted : List Bytes → Prop) : Prop :=
  ∃ first calls, ∀ count chunks bound timeoutMs,
    (∀ chunk ∈ chunks, chunk ≠ [] ∧ chunk.length ≤ mtu) → admitted chunks →
    chunks.flatten = noisyStream noise frames (first + count) →
    chunks.length + chunks.flatten.length < bound →
      (framesRead bound timeoutMs mtu chunks (calls + count)).drop calls =
        (framesFrom frames first count).map fun frame => .ok frame.view

/-- After the calls that the noise takes, the host returns the frames from `first` on,
whatever reads they arrive in. -/
def HostRecovers (caps : DataLinkDeviceCaps) (noise : Bytes) (frames : Nat → DataLinkFrame) :
    Prop :=
  ∃ first calls, ∀ count chunks bound timeoutMs,
    (∀ chunk ∈ chunks, chunk ≠ [] ∧
      chunk.length ≤ DataLinkManager.readCapacity { caps := caps }) →
    chunks.flatten = noisyStream noise frames (first + count) → chunks.length < bound →
      (blocksRead bound timeoutMs caps chunks (calls + count)).drop calls =
        (framesFrom frames first count).map .ok

theorem ScanMeets.recovers {mtu : Nat} (hmtu : mtu ≠ 0 ∧ mtu ≤ acDatalinkMaxFrameSize)
    (hframes : ∀ index, (encode (frames index)).length ≤ mtu) (hmeets : ScanMeets noise frames) :
    FirmwareRecovers mtu noise frames (Uncut []) := by
  obtain ⟨first, views, hscans⟩ := hmeets.scans fun index => (hframes index).trans hmtu.2
  refine ⟨first, views.length, ?_⟩
  intro count chunks bound timeoutMs hchunks huncut hstream hbound
  have hreceiving : Receiving mtu (noisyStream noise frames (first + count)) chunks
      (acDatalinkInit mtu) :=
    ⟨⟨List.length_replicate, Nat.zero_le _⟩, rfl, effectiveMtu_init hmtu, hmtu.2, hchunks, hstream,
      huncut⟩
  have hread := @Scans.readFrames mtu timeoutMs [] _ _ _ (hscans count) chunks bound _ hreceiving
    (hstream ▸ hbound)
  rw [List.length_append, List.length_map, framesFrom_length, List.map_append, List.map_map] at hread
  have hframesRead : framesRead bound timeoutMs mtu chunks (views.length + count) =
      views.map .ok ++ (framesFrom frames first count).map (.ok ∘ DataLinkFrame.view) := hread
  rw [hframesRead, List.drop_left' (List.length_map _)]
  rfl

theorem BlocksMeet.recovers {caps : DataLinkDeviceCaps}
    (hframes : ∀ index, (frames index).payload.length < 2 ^ 32) (hmeet : BlocksMeet noise frames) :
    HostRecovers caps noise frames := by
  obtain ⟨first, replies, hblocks⟩ := hmeet.blocks hframes
  refine ⟨first, replies.length, ?_⟩
  intro count chunks bound timeoutMs hchunks hstream hbound
  have hread := @DataLinkManager.readFrames_blocks timeoutMs [] _ _ _ (hblocks count) chunks bound
    { caps := caps } hchunks hbound hstream
  rw [List.length_append, List.length_map, framesFrom_length] at hread
  have hblocksRead : blocksRead bound timeoutMs caps chunks (replies.length + count) =
      replies ++ (framesFrom frames first count).map .ok := hread
  rw [hblocksRead, List.drop_left]

/-- Each reader returns the frames behind the noise where its way through the noise comes
to the beginning of one of them. -/
theorem readers_recover (mtu : Nat) (hmtu : 37 ≤ mtu ∧ mtu ≤ 1024) (caps : DataLinkDeviceCaps)
    (noise : Bytes) (frames : Nat → DataLinkFrame)
    (hframes : ∀ index, (encode (frames index)).length ≤ mtu) :
    (ScanMeets noise frames → FirmwareRecovers mtu noise frames (Uncut [])) ∧
      (BlocksMeet noise frames → HostRecovers caps noise frames) := by
  constructor
  · exact ScanMeets.recovers ⟨by omega, hmtu.2⟩ hframes
  · apply BlocksMeet.recovers
    intro index
    have hsmall := hframes index
    rw [encode_length] at hsmall
    omega

/-! ## A damaged frame and a stray byte -/

/-- The shortest frame with its last byte, the end of its header checksum, turned over. -/
def damagedFrame : Bytes :=
  (encode {}).take 35 ++ ((encode {}).drop 35).map (· ^^^ 0xff)

/-- Noise without the magic is skipped. -/
theorem Scan.skip {stream : Bytes}
    (hnoise : ∀ count < noise.length, acDatalinkIsMagic ((noise ++ stream).drop count) = false)
    (hscan : Scan stream view after) : Scan (noise ++ stream) view after := by
  induction noise with
  | nil => exact hscan
  | cons c noise ih =>
      refine .noise (hnoise 0 (Nat.succ_pos _)) (ih ?_)
      intro count hcount
      exact hnoise (count + 1) (Nat.succ_lt_succ hcount)

theorem damagedFrame_scan : ScanMeets damagedFrame fun _ => {} := by
  refine ⟨1, 0, [DataLinkFrame.view {}], ?_⟩
  have hstream : noisyStream damagedFrame (fun _ => {}) (1 + 0) =
      0x41 :: (damagedFrame.drop 1 ++ encode {}) := by decide +kernel
  have hdrop : (encode {}).drop 36 = [] := by decide +kernel
  have hscan : Scan (encode {}) (DataLinkFrame.view {}) ((encode {}).drop 36) := by
    apply Scan.frame <;> decide +kernel
  have hskipped : Scan (damagedFrame.drop 1 ++ encode {}) (DataLinkFrame.view {}) [] := by
    rw [hdrop] at hscan
    apply hscan.skip
    decide +kernel
  rw [hstream]
  refine .next (@Scan.garbled 0x41 _ _ _ 36 ?_ ?_ ?_ ?_ ?_ hskipped) .done <;> decide +kernel

theorem damagedFrame_blocks : BlocksMeet damagedFrame fun _ => {} := by
  refine ⟨0, 0, [decode damagedFrame], ?_⟩
  have hstream : noisyStream damagedFrame (fun _ => {}) (0 + 0) = damagedFrame := by
    decide +kernel
  have hsize : frameSize damagedFrame = .ok 36 := by decide +kernel
  have htake : damagedFrame.take 36 = damagedFrame := by decide +kernel
  have hdrop : damagedFrame.drop 36 = [] := by decide +kernel
  have hnext := @Blocks.next damagedFrame [] 36 [] hsize (hdrop ▸ .done)
  rw [htake] at hnext
  rw [hstream]
  exact hnext

theorem damagedFrame_recovered : FirmwareRecovers 64 damagedFrame (fun _ => {}) (Uncut []) ∧
    HostRecovers {} damagedFrame fun _ => {} := by
  have hlength : ∀ _ : Nat, (encode {}).length ≤ 64 := fun _ => by decide +kernel
  have hrecover := readers_recover 64 (by decide) {} damagedFrame (fun _ => {}) hlength
  exact ⟨hrecover.1 damagedFrame_scan, hrecover.2 damagedFrame_blocks⟩

/-- One byte in front of the frames that is no beginning of a header: the host keeps it and
fails for ever. -/
theorem stray_byte_not_recovered : ¬ ∀ (mtu : Nat) (caps : DataLinkDeviceCaps) (noise : Bytes)
    (frames : Nat → DataLinkFrame), 37 ≤ mtu ∧ mtu ≤ 1024 →
    (∀ index, (encode (frames index)).length ≤ mtu) →
      FirmwareRecovers mtu noise frames (fun _ => True) ∧ HostRecovers caps noise frames := by
  intro hrecover
  have hlength : ∀ _ : Nat, (encode {}).length ≤ 64 := fun _ => by decide +kernel
  obtain ⟨first, calls, hhost⟩ := (hrecover 64 {} [0] (fun _ => {}) (by decide) hlength).2
  have hstream : ∃ rest, noisyStream [0] (fun _ => {}) (first + 1) = (0 :: encode {}) ++ rest := by
    refine ⟨frameStream (framesFrom (fun _ => {}) 1 first), ?_⟩
    have hfirst : noisyStream [0] (fun _ => {}) 1 = 0 :: encode {} := by decide +kernel
    rw [Nat.add_comm, noisyStream_add, hfirst]
  obtain ⟨rest, hstream⟩ := hstream
  have hstuck : frameSize (noisyStream [0] (fun _ => {}) (first + 1)) =
      .error (.invalidArgument "data-link magic mismatch") := by
    rw [hstream, frameSize_header (by decide +kernel), if_pos (by decide +kernel)]
  have hbytes : ((noisyStream [0] (fun _ => {}) (first + 1)).map fun byte => [byte]).flatten =
      noisyStream [0] (fun _ => {}) (first + 1) := by
    rw [← List.flatMap_def, List.flatMap_singleton']
  have hchunks : ∀ chunk ∈ (noisyStream [0] (fun _ => {}) (first + 1)).map fun byte => [byte],
      chunk ≠ [] ∧ chunk.length ≤ DataLinkManager.readCapacity { caps := {} } := by
    intro chunk hmem
    obtain ⟨byte, _, rfl⟩ := List.mem_map.mp hmem
    exact ⟨List.cons_ne_nil _ _, Nat.le_trans (by decide : 1 ≤ 36) (Nat.le_max_right _ _)⟩
  have hread := hhost 1 _ _ 0 hchunks hbytes (Nat.lt_succ_self _)
  have hfail := @DataLinkManager.readFrames_stuck 0 [] _ _ hstuck (by decide) _ _ (calls + 1)
    { caps := {} } hchunks (Nat.lt_succ_self _) hbytes
  have hfailed : blocksRead _ 0 {} _ (calls + 1) = _ := hfail
  rw [hfailed, List.drop_replicate, Nat.add_sub_cancel_left] at hread
  cases hread

end AudioStudio.DataLink
