import AudioStudio.Wire.DataLinkCodec
import AudioStudio.Wire.TransportFrame

/-!
# Agreement of the transport codecs

The firmware and the host implement one transport format, and with the
data-link codecs one wire format at both layers.
-/

namespace AudioStudio.Wire

open AudioStudio.Common
open LittleEndian

namespace FrameCodec

/-- The header of a frame up to its last field, the header checksum. -/
def headerBytes (frame : TransportFrame) : Bytes :=
  le32 kMagic ++ le16 frame.version ++ le16 36 ++ le16 frame.channelId ++
    le16 frame.commandId ++ le32 frame.flags ++ le32 frame.sequenceId ++
    le32 frame.sessionId ++ le32 frame.payload.length.toUInt32 ++ le32 (crc32 frame.payload)

def headerCrc (frame : TransportFrame) : UInt32 :=
  crc32 (headerBytes frame ++ le32 0)

@[simp] theorem headerBytes_length (frame : TransportFrame) :
    (headerBytes frame).length = 32 := rfl

theorem encode_eq (frame : TransportFrame) :
    encode frame = headerBytes frame ++ le32 (headerCrc frame) ++ frame.payload := by
  simp only [encode]
  rw [← headerBytes, poke_append (by simp) (by simp), ← headerCrc]

@[simp] theorem encode_length (frame : TransportFrame) :
    (encode frame).length = acTransportHeaderSize + frame.payload.length := by
  rw [encode_eq]
  simp only [List.length_append, headerBytes_length, le32_length, acTransportHeaderSize]

end FrameCodec

open FrameCodec

/-! ## Encoders -/

/-- The host frame that carries the fields the firmware encodes. -/
def AcTransportFrame.hostFrame (request : AcTransportFrame) (flags : UInt32)
    (payload : Bytes) : TransportFrame where
  version := if request.version = 0 then 1 else request.version
  channelId := request.channelId
  commandId := request.commandId
  flags := flags
  sequenceId := request.sequenceId
  sessionId := request.sessionId
  payload := payload

/-- The firmware's cleared packet, filled up to the header checksum. -/
theorem ac_transport_header_eq (request : AcTransportFrame) (flags : UInt32)
    (payload : Bytes) :
    poke (poke (poke (poke (poke (poke (poke (poke (poke (poke
      (List.replicate acTransportHeaderSize 0)
      0 [0x41, 0x53, 0x54, 0x4d])
      4 (le16 (if request.version = 0 then 1 else request.version))) 6 (le16 36))
      8 (le16 request.channelId)) 10 (le16 request.commandId)) 12 (le32 flags))
      16 (le32 request.sequenceId)) 20 (le32 request.sessionId))
      24 (le32 payload.length.toUInt32)) 28 (le32 (acCrc32 payload)) =
    headerBytes (request.hostFrame flags payload) ++ List.replicate 4 0 := by
  rw [← List.nil_append (List.replicate acTransportHeaderSize 0)]
  rw [poke_zeros (by rfl), poke_zeros (by rfl), poke_zeros (by rfl), poke_zeros (by rfl),
    poke_zeros (by rfl), poke_zeros (by rfl), poke_zeros (by rfl), poke_zeros (by rfl),
    poke_zeros (by rfl), poke_zeros (by rfl)]
  rw [headerBytes, crc32_eq_acCrc32]
  rfl

/-- Within its limits the firmware encoder writes the host encoder's bytes. -/
theorem acTransportEncode_eq (capacity : Nat) (request : AcTransportFrame) (flags : UInt32)
    (payload : Bytes) (hpayload : payload.length ≤ acTransportMaxPayload)
    (hcapacity : acTransportHeaderSize + payload.length ≤ capacity) :
    acTransportEncode capacity request flags payload =
      some (encode (request.hostFrame flags payload)) := by
  unfold acTransportEncode
  rw [if_neg (by omega)]
  dsimp only
  rw [ac_transport_header_eq, poke_append (by simp) (by simp), poke_append (by simp) (by simp),
    encode_eq, headerCrc, crc32_eq_acCrc32]
  rfl

/-! ## Decoders -/

/-- What the firmware's frame shows of a host frame. -/
def TransportFrame.view (frame : TransportFrame) : AcTransportFrame where
  version := frame.version
  channelId := frame.channelId
  commandId := frame.commandId
  flags := frame.flags
  sequenceId := frame.sequenceId
  sessionId := frame.sessionId
  payload := frame.payload

theorem acTransportIsMagic_iff (data : Bytes) :
    acTransportIsMagic data = true ↔ word32 data 0 = kMagic := by
  rw [word32_eq_iff]
  simp [acTransportIsMagic, and_assoc, show le32 kMagic = [0x41, 0x53, 0x54, 0x4d] from rfl]

/-- The two decoders accept the same strings and read the same fields. -/
theorem acTransportDecode_eq (data : Bytes) :
    acTransportDecode data = (decode data).toOption.map TransportFrame.view := by
  unfold acTransportDecode decode
  by_cases hlength : data.length < acTransportHeaderSize
  · rw [if_pos hlength, if_pos hlength]
    rfl
  rw [if_neg hlength, if_neg hlength]
  by_cases hmagic : word32 data 0 = kMagic
  swap
  · have hac : acTransportIsMagic data = false := by
      rw [← Bool.not_eq_true, acTransportIsMagic_iff]
      exact hmagic
    rw [if_pos (by simp [hac]), if_pos hmagic]
    rfl
  have hac : acTransportIsMagic data = true := (acTransportIsMagic_iff data).mpr hmagic
  rw [if_neg (by simp [hac]), if_neg (not_not.mpr hmagic)]
  by_cases hheader : word16 data 6 = 36
  swap
  · rw [if_pos hheader, if_pos hheader]
    rfl
  rw [if_neg (not_not.mpr hheader), if_neg (not_not.mpr hheader)]
  dsimp only
  by_cases hsize : data.length = acTransportHeaderSize + (word32 data 24).toNat
  swap
  · rw [if_pos hsize, if_pos hsize]
    rfl
  rw [if_neg (not_not.mpr hsize), if_neg (not_not.mpr hsize)]
  have hpayload : (data.drop acTransportHeaderSize).take (word32 data 24).toNat =
      data.drop acTransportHeaderSize := by
    apply List.take_of_length_le
    rw [List.length_drop]
    omega
  have hlong : dataLinkHeaderSize ≤ data.length := Nat.not_lt.mp hlength
  have hcleared := cleared_header_eq hlong
  rw [show acTransportHeaderSize = dataLinkHeaderSize from rfl] at hpayload ⊢
  rw [hcleared, crc32_eq_acCrc32, word32_take (by decide), hpayload, crc32_eq_acCrc32]
  split
  · rfl
  split
  · rfl
  rfl

/-! ## Round trip -/

namespace FrameCodec

/-- The fields as they stand in an encoded frame. -/
structure Fields (frame : TransportFrame) (data : Bytes) : Prop where
  magic : word32 data 0 = kMagic
  version : word16 data 4 = frame.version
  headerSize : word16 data 6 = 36
  channelId : word16 data 8 = frame.channelId
  commandId : word16 data 10 = frame.commandId
  flags : word32 data 12 = frame.flags
  sequenceId : word32 data 16 = frame.sequenceId
  sessionId : word32 data 20 = frame.sessionId
  payloadSize : word32 data 24 = frame.payload.length.toUInt32
  payloadCrc : word32 data 28 = crc32 frame.payload
  headerCrc : word32 data 32 = headerCrc frame

theorem encode_fields (frame : TransportFrame) : Fields frame (encode frame) := by
  rw [encode_eq]
  simp only [headerBytes, le32, le16, List.cons_append, List.nil_append]
  constructor <;>
    simp only [word32, word16, byteAt, List.getD_cons_zero, List.getD_cons_succ, of32_le32,
      of16_le16]

/-- Only the channel id travels; a frame gets its service id from it. -/
theorem decode_encode {frame : TransportFrame} (hpayload : frame.payload.length < 2 ^ 32) :
    decode (encode frame) = .ok { frame with serviceId := frame.channelId } := by
  have hfields := encode_fields frame
  have hsize : frame.payload.length.toUInt32.toNat = frame.payload.length :=
    UInt32.toNat_ofNat_of_lt' hpayload
  have htake : (encode frame).take acTransportHeaderSize =
      headerBytes frame ++ le32 (headerCrc frame) := by
    rw [encode_eq]
    exact List.take_left' rfl
  have hdrop : (encode frame).drop acTransportHeaderSize = frame.payload := by
    rw [encode_eq]
    exact List.drop_left' rfl
  unfold decode
  rw [if_neg (by simp), hfields.magic, if_neg (by simp), hfields.headerSize, if_neg (by simp),
    hfields.payloadSize, hsize]
  dsimp only
  rw [if_neg (by simp), htake, hfields.headerCrc, hdrop, hfields.payloadCrc]
  rw [show (headerBytes frame ++ le32 (headerCrc frame)).length - 4 = (headerBytes frame).length
    by simp, List.take_left, show List.replicate 4 0 = le32 0 from rfl, ← headerCrc,
    if_neg (by simp), List.take_length, if_neg (by simp)]
  rw [hfields.version, hfields.channelId, hfields.commandId, hfields.flags, hfields.sequenceId,
    hfields.sessionId]

end FrameCodec

/-! ## One wire format at both layers -/

/-- Firmware and host encode the same bytes from the same fields, accept the same
byte strings and read the same fields from them, at the data-link layer and at
the transport layer. -/
theorem wire_formats_agree :
    (∀ (capacity : Nat) (frame : DataLinkFrame), frame.version = 1 →
      dataLinkHeaderSize + frame.payload.length ≤ capacity →
      acDatalinkEncodeFrame capacity frame.flags frame.linkSequence frame.transportSize
          frame.fragmentOffset frame.fragmentIndex frame.fragmentCount frame.payload =
        some (DataLinkFrameCodec.encode frame)) ∧
    (∀ (capacity : Nat) (frame : TransportFrame), frame.version ≠ 0 →
      frame.payload.length ≤ acTransportMaxPayload →
      acTransportHeaderSize + frame.payload.length ≤ capacity →
      acTransportEncode capacity frame.view frame.flags frame.payload =
        some (FrameCodec.encode frame)) ∧
    (∀ (data : Bytes) (view : AcDatalinkFrameView),
      acDatalinkDecodeFrame data = some view ↔
        ∃ frame, DataLinkFrameCodec.decode data = .ok frame ∧ frame.view = view) ∧
    (∀ (data : Bytes) (view : AcTransportFrame),
      acTransportDecode data = some view ↔
        ∃ frame, FrameCodec.decode data = .ok frame ∧ frame.view = view) := by
  refine ⟨?_, ?_, ?_, ?_⟩
  · intro capacity frame hversion hcapacity
    rw [acDatalinkEncodeFrame_eq _ _ _ _ _ _ _ _ hcapacity]
    cases frame
    cases hversion
    rfl
  · intro capacity frame hversion hpayload hcapacity
    rw [acTransportEncode_eq _ _ _ _ hpayload hcapacity, encode_eq, encode_eq]
    have hheader : headerBytes (frame.view.hostFrame frame.flags frame.payload) =
        headerBytes frame := by
      have hkept : (frame.view.hostFrame frame.flags frame.payload).version = frame.version :=
        if_neg hversion
      rw [headerBytes, hkept]
      rfl
    rw [headerCrc, hheader]
    rfl
  · intro data view
    rw [acDatalinkDecodeFrame_eq]
    cases DataLinkFrameCodec.decode data <;> simp [Except.toOption]
  · intro data view
    rw [acTransportDecode_eq]
    cases FrameCodec.decode data <;> simp [Except.toOption]

theorem wire_formats_agree_example :
    acDatalinkEncodeFrame 64 (flagData ||| flagEnd) 42 5 0 0 1 [1, 2, 3, 4, 5] =
      some (DataLinkFrameCodec.encode
        { flags := flagData ||| flagEnd, linkSequence := 42, transportSize := 5,
          fragmentCount := 1, payload := [1, 2, 3, 4, 5] }) ∧
    acTransportEncode 64 { version := 1, channelId := 6, commandId := 9, sequenceId := 77 } 6
        [0x10, 0x20] =
      some (FrameCodec.encode
        { channelId := 6, commandId := 9, flags := 6, sequenceId := 77,
          payload := [0x10, 0x20] }) :=
  ⟨wire_formats_agree.1 64
      { flags := flagData ||| flagEnd, linkSequence := 42, transportSize := 5,
        fragmentCount := 1, payload := [1, 2, 3, 4, 5] } rfl (by decide),
    wire_formats_agree.2.1 64
      { channelId := 6, commandId := 9, flags := 6, sequenceId := 77,
        payload := [0x10, 0x20] } (by decide) (by decide) (by decide)⟩

end AudioStudio.Wire
