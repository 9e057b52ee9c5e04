import AudioStudio.Rpc.Accepted
import AudioStudio.Wire.Bits

/-!
# Corrupted frames

The three formats end their headers with a checksum of the payload and one of the
header.  What an encoder writes and what a decoder accepts both carry them, so two
such byte strings never differ in one bit, nor in one burst of the payload.
-/

namespace AudioStudio.Rpc

open AudioStudio.LittleEndian
open AudioStudio.Wire

/-- A checksum of payloads that sees every burst. -/
def SeesBursts (checksum : Bytes → UInt32) : Prop :=
  ∀ payload payload', Burst payload payload' → checksum payload ≠ checksum payload'

/-- Both checksums of a byte string with such a header are right. -/
structure Checked (headerSize : Nat) (checksum : Bytes → UInt32) (data : Bytes) : Prop where
  long : headerSize ≤ data.length
  header : acCrc32 (data.take (headerSize - 4) ++ le32 0) = word32 data (headerSize - 4)
  payload : checksum (data.drop headerSize) = word32 data (headerSize - 8)

namespace Checked

variable {headerSize : Nat} {checksum : Bytes → UInt32} {data data' : Bytes}

theorem eq_append (hsize : 4 ≤ headerSize) (hchecked : Checked headerSize checksum data) :
    data.take (headerSize - 4) ++ le32 (word32 data (headerSize - 4)) ++ data.drop headerSize =
      data := by
  have hlong := hchecked.long
  rw [le32_word32 (by omega), take_slice, Nat.sub_add_cancel hsize, List.take_append_drop]

/-- No two byte strings with right checksums differ in one bit. -/
theorem not_flipsBit (hsize : 8 ≤ headerSize) (hsees : SeesBursts checksum)
    (hchecked : Checked headerSize checksum data) (hchecked' : Checked headerSize checksum data')
    (position : Nat) : ¬FlipsBit position data data' := by
  intro hflips
  by_cases hfront : position < 8 * (headerSize - 4)
  · -- The flip is seen by the checksum of the header, which it leaves as it is.
    have hword : word32 data' (headerSize - 4) = word32 data (headerSize - 4) := by
      have hback := hflips.drop_eq hfront
      have hfirst : ∀ bytes : Bytes, word32 bytes (headerSize - 4) =
          word32 (bytes.drop (headerSize - 4)) 0 := by
        intro bytes
        simp only [word32, byteAt_drop, Nat.add_zero, Nat.zero_add]
      rw [hfirst, hfirst, hback]
    have hburst := ((hflips.take hfront).append (le32 0)).burst
    apply acCrc32_burst_ne hburst
    rw [hchecked.header, hchecked'.header, hword]
  by_cases hheader : position < 8 * headerSize
  · -- The flip is in the checksum of the header, and the rest determines that.
    have htake := hflips.take_eq (Nat.not_lt.mp hfront)
    have hdrop := hflips.drop_eq hheader
    apply hflips.burst.differs
    rw [← hchecked.eq_append (by omega), ← hchecked'.eq_append (by omega), ← hchecked.header,
      ← hchecked'.header, htake, hdrop]
  · have htake := hflips.take_eq (Nat.not_lt.mp hheader)
    have hword : word32 data' (headerSize - 8) = word32 data (headerSize - 8) := by
      have hinside : headerSize - 8 + 4 ≤ headerSize := by omega
      rw [← word32_take hinside, htake, word32_take hinside]
    apply hsees _ _ (hflips.drop (Nat.not_lt.mp hheader)).burst
    rw [hchecked.payload, hchecked'.payload, hword]

/-- No two byte strings with one header and right checksums differ in one burst. -/
theorem not_burst (hsize : 8 ≤ headerSize) (hsees : SeesBursts checksum) {header payload payload' : Bytes}
    (hheader : header.length = headerSize)
    (hchecked : Checked headerSize checksum (header ++ payload))
    (hchecked' : Checked headerSize checksum (header ++ payload')) : ¬Burst payload payload' := by
  intro hburst
  have hpayload := hchecked.payload
  have hpayload' := hchecked'.payload
  rw [List.drop_left' hheader, word32_append_left (by omega)] at hpayload hpayload'
  exact hsees _ _ hburst (hpayload.trans hpayload'.symm)

end Checked

theorem seesBursts_crc32 : SeesBursts crc32 := by
  intro payload payload' hburst
  rw [crc32_eq_acCrc32, crc32_eq_acCrc32]
  exact acCrc32_burst_ne hburst

theorem rpcCrc32_eq_acCrc32 (data : Bytes) : rpcCrc32 data = acCrc32 data := by
  unfold rpcCrc32 acCrc32
  rw [crc32Byte_eq_acCrc32Byte]

/-- An empty payload has no room for a burst. -/
theorem seesBursts_payloadCrc : SeesBursts payloadCrc := by
  intro payload payload' hburst
  have hne : payload ≠ [] := by
    rintro rfl
    exact hburst.differs (List.length_eq_zero_iff.mp hburst.length)
  have hne' : payload' ≠ [] := by
    rintro rfl
    exact hne (List.length_eq_zero_iff.mp hburst.length.symm)
  rw [payloadCrc, payloadCrc, if_neg hne, if_neg hne', rpcCrc32_eq_acCrc32, rpcCrc32_eq_acCrc32]
  exact acCrc32_burst_ne hburst

/-! ## Encoded and accepted byte strings -/

theorem checked_dataLink (frame : DataLinkFrame) :
    Checked dataLinkHeaderSize crc32 (DataLinkFrameCodec.encode frame) := by
  have hfields := Wire.encode_fields frame []
  rw [List.append_nil] at hfields
  constructor
  · rw [DataLinkFrameCodec.encode_length]
    exact Nat.le_add_right _ _
  · have htake : (DataLinkFrameCodec.encode frame).take (dataLinkHeaderSize - 4) =
        DataLinkFrameCodec.headerBytes frame := by
      rw [DataLinkFrameCodec.encode_eq, List.append_assoc]
      exact List.take_left' rfl
    rw [htake, ← crc32_eq_acCrc32]
    exact hfields.headerCrc.symm
  · have hdrop : (DataLinkFrameCodec.encode frame).drop dataLinkHeaderSize = frame.payload := by
      rw [DataLinkFrameCodec.encode_eq]
      exact List.drop_left' rfl
    rw [hdrop]
    exact hfields.payloadCrc.symm

theorem checked_dataLink_of_decode {data : Bytes} {frame : DataLinkFrame}
    (hdecode : DataLinkFrameCodec.decode data = .ok frame) :
    Checked dataLinkHeaderSize crc32 data := by
  have haccepts := DataLinkFrameCodec.decode_accepts hdecode
  rw [← haccepts.encode_eq]
  exact checked_dataLink frame

theorem checked_transport (frame : TransportFrame) :
    Checked acTransportHeaderSize crc32 (FrameCodec.encode frame) := by
  have hfields := FrameCodec.encode_fields frame
  constructor
  · rw [FrameCodec.encode_length]
    exact Nat.le_add_right _ _
  · have htake : (FrameCodec.encode frame).take (acTransportHeaderSize - 4) =
        FrameCodec.headerBytes frame := by
      rw [FrameCodec.encode_eq, List.append_assoc]
      exact List.take_left' rfl
    rw [htake, ← crc32_eq_acCrc32]
    exact hfields.headerCrc.symm
  · have hdrop : (FrameCodec.encode frame).drop acTransportHeaderSize = frame.payload := by
      rw [FrameCodec.encode_eq]
      exact List.drop_left' rfl
    rw [hdrop]
    exact hfields.payloadCrc.symm

theorem checked_transport_of_decode {data : Bytes} {frame : TransportFrame}
    (hdecode : FrameCodec.decode data = .ok frame) :
    Checked acTransportHeaderSize crc32 data := by
  have haccepts := FrameCodec.decode_accepts hdecode
  rw [← haccepts.encode_eq]
  exact checked_transport frame

theorem checked_binary (frame : RpcBinaryFrame) :
    Checked kBinaryHeaderSize payloadCrc (encodeBinaryFrame frame) := by
  have hheader := RpcBinaryFrame.headerCrc frame
  have hdecoded := RpcBinaryFrame.decodeHeader_headerBytes frame frame.payload
  have hlength := RpcBinaryFrame.headerBytes_length frame
  rw [RpcBinaryFrame.encode_eq]
  constructor
  · rw [List.length_append, hlength]
    exact Nat.le_add_right _ _
  · have hcleared : (frame.headerBytes ++ frame.payload).take (kBinaryHeaderSize - 4) ++ le32 0 =
        poke frame.headerBytes 40 [0, 0, 0, 0] := by
      have hback : frame.headerBytes.drop 44 = [] := List.drop_of_length_le hlength.le
      rw [List.take_append_of_le_length (by rw [hlength]; exact Nat.sub_le _ _), poke]
      show _ = frame.headerBytes.take 40 ++ [0, 0, 0, 0] ++ frame.headerBytes.drop 44
      rw [hback, List.append_nil]
      rfl
    rw [hcleared, ← rpcCrc32_eq_acCrc32, hheader]
    exact (congrArg (·.headerCrc32) hdecoded).symm
  · rw [List.drop_left' hlength]
    exact (congrArg (·.payloadCrc32) hdecoded).symm

theorem checked_binary_of_decode {data : Bytes} {frame : RpcBinaryFrame}
    (hdecode : decodeBinaryFrame data = .ok frame) : Checked kBinaryHeaderSize payloadCrc data := by
  have haccepts := decodeBinaryFrame_accepts hdecode
  rw [← haccepts.encode_eq]
  exact checked_binary frame

/-! ## Rejection -/

/-- What a format does with corrupted frames: no byte string with one flipped bit is
accepted, and none with a burst in its payload. -/
structure DetectsCorruption {F E : Type} (headerSize : Nat) (payload : F → Bytes)
    (encode : F → Bytes) (decode : Bytes → Except E F) : Prop where
  flip : ∀ (frame : F) (position : Nat) (data : Bytes), FlipsBit position (encode frame) data →
    ∀ frame', decode data ≠ .ok frame'
  burst : ∀ (frame : F) (payload' : Bytes), Burst (payload frame) payload' →
    ∀ frame', decode ((encode frame).take headerSize ++ payload') ≠ .ok frame'

theorem DetectsCorruption.of_checked {F E : Type} {headerSize : Nat} {payload : F → Bytes}
    {encode : F → Bytes} {decode : Bytes → Except E F} {checksum : Bytes → UInt32}
    (hsize : 8 ≤ headerSize) (hsees : SeesBursts checksum)
    (hencode : ∀ frame, Checked headerSize checksum (encode frame))
    (hdecode : ∀ data frame, decode data = .ok frame → Checked headerSize checksum data)
    (hpayload : ∀ frame, (encode frame).drop headerSize = payload frame) :
    DetectsCorruption headerSize payload encode decode where
  flip frame position data hflips frame' haccepted :=
    (hencode frame).not_flipsBit hsize hsees (hdecode data frame' haccepted) position hflips
  burst frame payload' hburst frame' haccepted := by
    have hheader : ((encode frame).take headerSize).length = headerSize :=
      List.length_take_of_le (hencode frame).long
    have hwhole : (encode frame).take headerSize ++ payload frame = encode frame := by
      rw [← hpayload, List.take_append_drop]
    refine Checked.not_burst hsize hsees hheader ?_ (hdecode _ frame' haccepted) hburst
    rw [hwhole]
    exact hencode frame

/-- Every flipped bit and every burst of at most 32 bits in a payload makes the decoder
reject a frame of any of the three formats. -/
theorem corruption_detected :
    DetectsCorruption dataLinkHeaderSize DataLinkFrame.payload DataLinkFrameCodec.encode
      DataLinkFrameCodec.decode ∧
    DetectsCorruption acTransportHeaderSize TransportFrame.payload FrameCodec.encode
      FrameCodec.decode ∧
    DetectsCorruption kBinaryHeaderSize RpcBinaryFrame.payload encodeBinaryFrame
      decodeBinaryFrame := by
  refine ⟨?_, ?_, ?_⟩
  · refine .of_checked (by decide) seesBursts_crc32 checked_dataLink
      (fun _ _ => checked_dataLink_of_decode) fun frame => ?_
    rw [DataLinkFrameCodec.encode_eq]
    exact List.drop_left' rfl
  · refine .of_checked (by decide) seesBursts_crc32 checked_transport
      (fun _ _ => checked_transport_of_decode) fun frame => ?_
    rw [FrameCodec.encode_eq]
    exact List.drop_left' rfl
  · refine .of_checked (by decide) seesBursts_payloadCrc checked_binary
      (fun _ _ => checked_binary_of_decode) fun frame => ?_
    rw [RpcBinaryFrame.encode_eq]
    exact List.drop_left' (RpcBinaryFrame.headerBytes_length frame)

end AudioStudio.Rpc
