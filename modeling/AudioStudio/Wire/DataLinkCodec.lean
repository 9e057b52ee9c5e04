import AudioStudio.Wire.DataLinkFrame

/-!
# Agreement and round trip of the data-link codecs

Both encoders produce one explicit header followed by the payload, and the two
decoders accept the same byte strings and read the same fields.
-/

namespace AudioStudio.Wire

open AudioStudio.Common
open LittleEndian

namespace DataLinkFrameCodec

/-- The header of a frame up to its last field, the header checksum. -/
def headerBytes (frame : DataLinkFrame) : Bytes :=
  le32 kMagic ++ [frame.version] ++ [36] ++ le16 frame.flags ++ le32 frame.linkSequence ++
    le32 frame.transportSize ++ le32 frame.fragmentOffset ++
    le32 frame.payload.length.toUInt32 ++ le16 frame.fragmentIndex ++
    le16 frame.fragmentCount ++ le32 (crc32 frame.payload)

def headerCrc (frame : DataLinkFrame) : UInt32 :=
  crc32 (headerBytes frame ++ le32 0)

@[simp] theorem headerBytes_length (frame : DataLinkFrame) :
    (headerBytes frame).length = 32 := rfl

theorem encode_eq (frame : DataLinkFrame) :
    encode frame = headerBytes frame ++ le32 (headerCrc frame) ++ frame.payload := by
  simp only [encode]
  rw [← headerBytes, poke_append (by simp) (by simp), ← headerCrc]

@[simp] theorem encode_length (frame : DataLinkFrame) :
    (encode frame).length = dataLinkHeaderSize + frame.payload.length := by
  rw [encode_eq]
  simp only [List.length_append, headerBytes_length, le32_length, dataLinkHeaderSize]

end DataLinkFrameCodec

open DataLinkFrameCodec

/-! ## Encoders -/

/-- The firmware's cleared buffer, filled up to the header checksum. -/
theorem ac_header_eq (flags : UInt16) (linkSequence transportSize fragmentOffset : UInt32)
    (fragmentIndex fragmentCount : UInt16) (payload : Bytes) :
    poke (poke (poke (poke (poke (poke (poke (poke (poke (List.replicate dataLinkHeaderSize 0)
      0 [0x41, 0x53, 0x44, 0x4c, 1, 36]) 6 (le16 flags)) 8 (le32 linkSequence))
      12 (le32 transportSize)) 16 (le32 fragmentOffset)) 20 (le32 payload.length.toUInt32))
      24 (le16 fragmentIndex)) 26 (le16 fragmentCount)) 28 (le32 (acCrc32 payload)) =
    headerBytes
      { flags, linkSequence, transportSize, fragmentOffset, fragmentIndex, fragmentCount,
        payload } ++ List.replicate 4 0 := by
  rw [← List.nil_append (List.replicate dataLinkHeaderSize 0)]
  rw [poke_zeros (by rfl), poke_zeros (by rfl), poke_zeros (by rfl), poke_zeros (by rfl),
    poke_zeros (by rfl), poke_zeros (by rfl), poke_zeros (by rfl), poke_zeros (by rfl),
    poke_zeros (by rfl)]
  rw [headerBytes, crc32_eq_acCrc32]
  rfl

/-- With a large enough buffer the firmware encoder writes the host encoder's bytes. -/
theorem acDatalinkEncodeFrame_eq (capacity : Nat) (flags : UInt16)
    (linkSequence transportSize fragmentOffset : UInt32)
    (fragmentIndex fragmentCount : UInt16) (payload : Bytes)
    (hcapacity : dataLinkHeaderSize + payload.length ≤ capacity) :
    acDatalinkEncodeFrame capacity flags linkSequence transportSize fragmentOffset
        fragmentIndex fragmentCount payload =
      some (encode
        { flags, linkSequence, transportSize, fragmentOffset, fragmentIndex, fragmentCount,
          payload }) := by
  unfold acDatalinkEncodeFrame
  rw [if_neg (Nat.not_lt.mpr hcapacity)]
  dsimp only
  rw [ac_header_eq, poke_append (by simp) (by simp), poke_append (by simp) (by simp),
    encode_eq, headerCrc, crc32_eq_acCrc32]

/-! ## Decoders -/

/-- What the firmware's frame view shows of a host frame. -/
def DataLinkFrame.view (frame : DataLinkFrame) : AcDatalinkFrameView where
  flags := frame.flags
  linkSequence := frame.linkSequence
  transportSize := frame.transportSize
  fragmentOffset := frame.fragmentOffset
  payloadSize := frame.payload.length.toUInt32
  fragmentIndex := frame.fragmentIndex
  fragmentCount := frame.fragmentCount
  payload := frame.payload

namespace DataLinkFrame

@[simp] theorem view_flags (frame : DataLinkFrame) : frame.view.flags = frame.flags := rfl

@[simp] theorem view_transportSize (frame : DataLinkFrame) :
    frame.view.transportSize = frame.transportSize := rfl

@[simp] theorem view_fragmentOffset (frame : DataLinkFrame) :
    frame.view.fragmentOffset = frame.fragmentOffset := rfl

@[simp] theorem view_fragmentCount (frame : DataLinkFrame) :
    frame.view.fragmentCount = frame.fragmentCount := rfl

end DataLinkFrame

theorem acDatalinkIsMagic_iff (data : Bytes) :
    acDatalinkIsMagic data = true ↔ word32 data 0 = kMagic := by
  rw [word32_eq_iff]
  simp [acDatalinkIsMagic, and_assoc, show le32 kMagic = [0x41, 0x53, 0x44, 0x4c] from rfl]

/-- Clearing the checksum field in place is refilling the end of the header. -/
theorem cleared_header_eq {data : Bytes} (hlength : dataLinkHeaderSize ≤ data.length) :
    poke (data.take dataLinkHeaderSize) 32 (le32 0) =
      (data.take dataLinkHeaderSize).take ((data.take dataLinkHeaderSize).length - 4) ++
        List.replicate 4 0 := by
  have htake : (data.take dataLinkHeaderSize).length = 36 :=
    List.length_take_of_le hlength
  rw [htake]
  unfold poke
  rw [List.drop_of_length_le (by rw [htake, le32_length]), List.append_nil]
  rfl

/-- The two decoders accept the same strings and read the same fields. -/
theorem acDatalinkDecodeFrame_eq (data : Bytes) :
    acDatalinkDecodeFrame data = (decode data).toOption.map DataLinkFrame.view := by
  unfold acDatalinkDecodeFrame decode
  by_cases hlength : data.length < dataLinkHeaderSize
  · rw [if_pos hlength, if_pos hlength]
    rfl
  rw [if_neg hlength, if_neg hlength]
  by_cases hmagic : word32 data 0 = kMagic
  swap
  · have hac : acDatalinkIsMagic data = false := by
      rw [← Bool.not_eq_true, acDatalinkIsMagic_iff]
      exact hmagic
    rw [if_pos (by simp [hac]), if_pos hmagic]
    rfl
  have hac : acDatalinkIsMagic data = true := (acDatalinkIsMagic_iff data).mpr hmagic
  rw [if_neg (not_not.mpr hmagic)]
  by_cases hheader : byteAt data 5 = 36
  swap
  · rw [if_pos (by simp [hheader]), if_pos hheader]
    rfl
  rw [if_neg (by simp [hac, hheader]), if_neg (not_not.mpr hheader)]
  have hframe : acDatalinkFrameSize data data.length =
      dataLinkHeaderSize + (word32 data 20).toNat := by
    simp [acDatalinkFrameSize, hlength, hac, hheader]
  rw [hframe]
  dsimp only
  by_cases hsize : data.length = dataLinkHeaderSize + (word32 data 20).toNat
  swap
  · rw [if_pos hsize, if_pos hsize]
    rfl
  rw [if_neg (not_not.mpr hsize), if_neg (not_not.mpr hsize)]
  have hpayload : (data.drop dataLinkHeaderSize).take (word32 data 20).toNat =
      data.drop dataLinkHeaderSize := by
    apply List.take_of_length_le
    rw [List.length_drop]
    omega
  rw [cleared_header_eq (Nat.not_lt.mp hlength), crc32_eq_acCrc32,
    word32_take (by decide), hpayload, crc32_eq_acCrc32]
  split
  · rfl
  split
  · rfl
  have hview : (data.drop dataLinkHeaderSize).length.toUInt32 = word32 data 20 := by
    rw [List.length_drop, hsize, Nat.add_sub_cancel_left]
    exact UInt32.ofNat_toNat
  simp only [Except.toOption, DataLinkFrame.view, hview, Option.map_some]

/-! ## Round trip -/

/-- The fields as they stand in an encoded frame, followed by anything. -/
structure Fields (frame : DataLinkFrame) (data : Bytes) : Prop where
  magic : word32 data 0 = kMagic
  version : byteAt data 4 = frame.version
  headerSize : byteAt data 5 = 36
  flags : word16 data 6 = frame.flags
  linkSequence : word32 data 8 = frame.linkSequence
  transportSize : word32 data 12 = frame.transportSize
  fragmentOffset : word32 data 16 = frame.fragmentOffset
  payloadSize : word32 data 20 = frame.payload.length.toUInt32
  fragmentIndex : word16 data 24 = frame.fragmentIndex
  fragmentCount : word16 data 26 = frame.fragmentCount
  payloadCrc : word32 data 28 = crc32 frame.payload
  headerCrc : word32 data 32 = headerCrc frame

theorem encode_fields (frame : DataLinkFrame) (rest : Bytes) :
    Fields frame (encode frame ++ rest) := by
  rw [encode_eq]
  simp only [headerBytes, le32, le16, List.cons_append, List.nil_append]
  constructor <;>
    simp only [word32, word16, byteAt, List.getD_cons_zero, List.getD_cons_succ, of32_le32,
      of16_le16]

/-- Different frames never have the same encoding, even where the size field wraps. -/
theorem encode_injective : Function.Injective encode := by
  intro frame other heq
  have hfields := encode_fields frame []
  have hfields' := encode_fields other []
  rw [heq] at hfields
  have hpayload : frame.payload = other.payload := by
    have hdrop := congrArg (List.drop dataLinkHeaderSize) heq
    rw [encode_eq, encode_eq] at hdrop
    exact hdrop
  cases frame
  cases other
  simp only [DataLinkFrame.mk.injEq]
  exact ⟨hfields.version.symm.trans hfields'.version, hfields.flags.symm.trans hfields'.flags,
    hfields.linkSequence.symm.trans hfields'.linkSequence,
    hfields.transportSize.symm.trans hfields'.transportSize,
    hfields.fragmentOffset.symm.trans hfields'.fragmentOffset,
    hfields.fragmentIndex.symm.trans hfields'.fragmentIndex,
    hfields.fragmentCount.symm.trans hfields'.fragmentCount, hpayload⟩

variable {frame : DataLinkFrame}

theorem payloadSize_toNat (hpayload : frame.payload.length < 2 ^ 32) :
    (frame.payload.length.toUInt32).toNat = frame.payload.length :=
  UInt32.toNat_ofNat_of_lt' hpayload

theorem decode_encode (hpayload : frame.payload.length < 2 ^ 32) :
    decode (encode frame) = .ok frame := by
  have hfields := encode_fields frame []
  rw [List.append_nil] at hfields
  have hsize := payloadSize_toNat hpayload
  have htake : (encode frame).take dataLinkHeaderSize =
      headerBytes frame ++ le32 (headerCrc frame) := by
    rw [encode_eq]
    exact List.take_left' rfl
  have hdrop : (encode frame).drop dataLinkHeaderSize = frame.payload := by
    rw [encode_eq]
    exact List.drop_left' rfl
  unfold decode
  rw [if_neg (by simp), hfields.magic, if_neg (by simp), hfields.headerSize, if_neg (by simp),
    hfields.payloadSize, hsize]
  dsimp only
  rw [if_neg (by simp), htake, hfields.headerCrc, hdrop, hfields.payloadCrc]
  rw [show (headerBytes frame ++ le32 (headerCrc frame)).length - 4 = (headerBytes frame).length
    by simp, List.take_left, show List.replicate 4 0 = le32 0 from rfl, ← headerCrc,
    if_neg (by simp), List.take_length, if_neg (by simp)]
  rw [hfields.version, hfields.flags, hfields.linkSequence, hfields.transportSize,
    hfields.fragmentOffset, hfields.fragmentIndex, hfields.fragmentCount]

theorem frameSize_encode (hpayload : frame.payload.length < 2 ^ 32) (rest : Bytes) :
    frameSize (encode frame ++ rest) = .ok (encode frame).length := by
  have hfields := encode_fields frame rest
  have hsize := payloadSize_toNat hpayload
  unfold frameSize
  rw [if_neg (by simp [dataLinkHeaderSize]; omega), hfields.magic, if_neg (by simp),
    hfields.headerSize, if_neg (by simp), hfields.payloadSize, hsize]
  dsimp only
  rw [if_neg (by simp), encode_length]

theorem frameSize_take (hpayload : frame.payload.length < 2 ^ 32) {count : Nat}
    (hcount : count < (encode frame).length) :
    ∃ message, frameSize ((encode frame).take count) = .error (.unavailable message) := by
  have hfields := encode_fields frame []
  rw [List.append_nil] at hfields
  have hsize := payloadSize_toNat hpayload
  have hlength : ((encode frame).take count).length = count := List.length_take_of_le (by omega)
  unfold frameSize
  rw [hlength]
  by_cases hheader : count < dataLinkHeaderSize
  · rw [if_pos hheader]
    exact ⟨_, rfl⟩
  · have hlong : 36 ≤ count := Nat.not_lt.mp hheader
    rw [if_neg hheader, word32_take (by omega), word32_take (by omega), byteAt_take (by omega),
      hfields.magic, if_neg (by simp), hfields.headerSize, if_neg (by simp),
      hfields.payloadSize, hsize]
    dsimp only
    rw [encode_length] at hcount
    rw [if_pos hcount]
    exact ⟨_, rfl⟩
/-- The firmware decodes what either side encoded. -/
theorem acDatalinkDecodeFrame_encode (hpayload : frame.payload.length < 2 ^ 32) :
    acDatalinkDecodeFrame (encode frame) = some frame.view := by
  rw [acDatalinkDecodeFrame_eq, decode_encode hpayload]
  rfl

/-- The magic needs the first four bytes of a frame, whatever follows them. -/
theorem acDatalinkIsMagic_take (frame : DataLinkFrame) {count : Nat} (hcount : 4 ≤ count)
    (rest : Bytes) : acDatalinkIsMagic ((encode frame).take count ++ rest) = true := by
  have hfields := encode_fields frame []
  rw [List.append_nil] at hfields
  have hlength := encode_length frame
  simp only [dataLinkHeaderSize] at hlength
  rw [acDatalinkIsMagic_iff, word32_append_left (by rw [List.length_take]; omega),
    word32_take (by omega), hfields.magic]

/-- The firmware sees the size of a frame once its whole header has arrived. -/
theorem acDatalinkFrameSize_take {frame : DataLinkFrame}
    (hpayload : frame.payload.length < 2 ^ 32) {count : Nat}
    (hcount : count ≤ (encode frame).length) (rest : Bytes) :
    acDatalinkFrameSize ((encode frame).take count ++ rest) count =
      if count < dataLinkHeaderSize then 0 else (encode frame).length := by
  have hfields := encode_fields frame []
  rw [List.append_nil] at hfields
  have hlength : ((encode frame).take count).length = count := List.length_take_of_le hcount
  unfold acDatalinkFrameSize
  by_cases hheader : count < dataLinkHeaderSize
  · rw [if_pos hheader, if_pos hheader]
  · have hlong : 36 ≤ count := Nat.not_lt.mp hheader
    rw [if_neg hheader, if_neg hheader, acDatalinkIsMagic_take frame (by omega),
      byteAt_append_left (by omega), byteAt_take (by omega), hfields.headerSize,
      word32_append_left (by omega), word32_take (by omega), hfields.payloadSize,
      payloadSize_toNat hpayload, encode_length]
    rfl

end AudioStudio.Wire
