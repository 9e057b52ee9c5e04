import AudioStudio.Rpc.FrameStream
import AudioStudio.Wire.TransportCodec

/-!
# Accepted byte strings

A decoder of one of the three binary formats accepts a byte string only when it is
the encoding of the frame that it reads: the fields are slices of the header, and the
sizes and checksums are the ones that the encoder computes.
-/

namespace AudioStudio.Wire

open AudioStudio.Common
open LittleEndian

section Slices

variable {data : Bytes} {header size : Nat}

/-- The checksum of a header is over all of it but its last word. -/
theorem take_checked (hlong : header ≤ data.length) :
    (data.take header).take ((data.take header).length - 4) = data.take (header - 4) := by
  rw [List.length_take_of_le hlong, List.take_take, Nat.min_eq_left (Nat.sub_le _ _)]

theorem take_payload (hsize : data.length = header + size) :
    (data.drop header).take size = data.drop header := by
  apply List.take_of_length_le
  rw [List.length_drop]
  omega

end Slices

/-! ## The data-link format -/

namespace DataLinkFrameCodec

/-- What `DataLinkFrameCodec::decode` has checked when it returns a frame. -/
structure Accepts (data : Bytes) (frame : DataLinkFrame) : Prop where
  magic : word32 data 0 = kMagic
  headerSize : byteAt data 5 = 36
  size : data.length = dataLinkHeaderSize + (word32 data 20).toNat
  headerCrc : crc32 (data.take 32 ++ le32 0) = word32 data 32
  payloadCrc : crc32 (data.drop dataLinkHeaderSize) = word32 data 28
  fields : frame =
    { version := byteAt data 4
      flags := word16 data 6
      linkSequence := word32 data 8
      transportSize := word32 data 12
      fragmentOffset := word32 data 16
      fragmentIndex := word16 data 24
      fragmentCount := word16 data 26
      payload := data.drop dataLinkHeaderSize }

theorem decode_accepts {data : Bytes} {frame : DataLinkFrame} (hdecode : decode data = .ok frame) :
    Accepts data frame := by
  unfold decode at hdecode
  split at hdecode
  · cases hdecode
  · next hlong =>
      split at hdecode
      · cases hdecode
      · next hmagic =>
          split at hdecode
          · cases hdecode
          · next hheader =>
              dsimp only at hdecode
              split at hdecode
              · cases hdecode
              · next hsize =>
                  split at hdecode
                  · cases hdecode
                  · next hcrc =>
                      split at hdecode
                      · cases hdecode
                      · next hpayload =>
                          have hfront : (data.take dataLinkHeaderSize).take
                              ((data.take dataLinkHeaderSize).length - 4) = data.take 32 :=
                            take_checked (Nat.not_lt.mp hlong)
                          rw [hfront] at hcrc
                          rw [take_payload (not_not.mp hsize)] at hpayload
                          constructor
                          · exact not_not.mp hmagic
                          · exact not_not.mp hheader
                          · exact not_not.mp hsize
                          · exact not_not.mp hcrc
                          · exact not_not.mp hpayload
                          · exact (Except.ok.inj hdecode).symm

theorem Accepts.encode_eq {data : Bytes} {frame : DataLinkFrame} (haccepts : Accepts data frame) :
    encode frame = data := by
  have hsize := haccepts.size
  rw [dataLinkHeaderSize] at hsize
  have hpayload : frame.payload = data.drop dataLinkHeaderSize := by rw [haccepts.fields]
  have hlength : frame.payload.length.toUInt32 = word32 data 20 := by
    rw [hpayload, List.length_drop, haccepts.size, Nat.add_sub_cancel_left]
    exact UInt32.ofNat_toNat
  have hheader : headerBytes frame = data.take 32 := by
    have hfront : le32 kMagic = data.take 4 := by
      rw [← haccepts.magic, le32_word32 (by omega), List.drop_zero]
    rw [headerBytes, hlength, hpayload, haccepts.payloadCrc, ← haccepts.headerSize, haccepts.fields,
      hfront]
    dsimp only
    rw [byteAt_slice (by omega), byteAt_slice (by omega), le16_word16 (by omega),
      le32_word32 (by omega), le32_word32 (by omega), le32_word32 (by omega),
      le32_word32 (by omega), le16_word16 (by omega), le16_word16 (by omega),
      le32_word32 (by omega)]
    simp only [take_slice, Nat.reduceAdd]
  rw [DataLinkFrameCodec.encode_eq, DataLinkFrameCodec.headerCrc, hheader, haccepts.headerCrc,
    le32_word32 (by omega), take_slice, hpayload]
  exact List.take_append_drop _ _

end DataLinkFrameCodec

/-! ## The transport format -/

namespace FrameCodec

/-- What `FrameCodec::decode` has checked when it returns a frame. -/
structure Accepts (data : Bytes) (frame : TransportFrame) : Prop where
  magic : word32 data 0 = kMagic
  headerSize : word16 data 6 = 36
  size : data.length = acTransportHeaderSize + (word32 data 24).toNat
  headerCrc : crc32 (data.take 32 ++ le32 0) = word32 data 32
  payloadCrc : crc32 (data.drop acTransportHeaderSize) = word32 data 28
  fields : frame =
    { version := word16 data 4
      serviceId := word16 data 8
      channelId := word16 data 8
      commandId := word16 data 10
      flags := word32 data 12
      sequenceId := word32 data 16
      sessionId := word32 data 20
      payload := data.drop acTransportHeaderSize }

theorem decode_accepts {data : Bytes} {frame : TransportFrame} (hdecode : decode data = .ok frame) :
    Accepts data frame := by
  unfold decode at hdecode
  split at hdecode
  · cases hdecode
  · next hlong =>
      split at hdecode
      · cases hdecode
      · next hmagic =>
          split at hdecode
          · cases hdecode
          · next hheader =>
              dsimp only at hdecode
              split at hdecode
              · cases hdecode
              · next hsize =>
                  split at hdecode
                  · cases hdecode
                  · next hcrc =>
                      split at hdecode
                      · cases hdecode
                      · next hpayload =>
                          have hfront : (data.take acTransportHeaderSize).take
                              ((data.take acTransportHeaderSize).length - 4) = data.take 32 :=
                            take_checked (Nat.not_lt.mp hlong)
                          rw [hfront] at hcrc
                          rw [take_payload (not_not.mp hsize)] at hpayload
                          constructor
                          · exact not_not.mp hmagic
                          · exact not_not.mp hheader
                          · exact not_not.mp hsize
                          · exact not_not.mp hcrc
                          · exact not_not.mp hpayload
                          · exact (Except.ok.inj hdecode).symm

theorem Accepts.encode_eq {data : Bytes} {frame : TransportFrame} (haccepts : Accepts data frame) :
    encode frame = data := by
  have hsize := haccepts.size
  rw [acTransportHeaderSize] at hsize
  have hpayload : frame.payload = data.drop acTransportHeaderSize := by rw [haccepts.fields]
  have hlength : frame.payload.length.toUInt32 = word32 data 24 := by
    rw [hpayload, List.length_drop, haccepts.size, Nat.add_sub_cancel_left]
    exact UInt32.ofNat_toNat
  have hheader : headerBytes frame = data.take 32 := by
    have hfront : le32 kMagic = data.take 4 := by
      rw [← haccepts.magic, le32_word32 (by omega), List.drop_zero]
    rw [headerBytes, hlength, hpayload, haccepts.payloadCrc, ← haccepts.headerSize, haccepts.fields,
      hfront]
    dsimp only
    rw [le16_word16 (by omega), le16_word16 (by omega), le16_word16 (by omega),
      le16_word16 (by omega), le32_word32 (by omega), le32_word32 (by omega),
      le32_word32 (by omega), le32_word32 (by omega), le32_word32 (by omega)]
    simp only [take_slice, Nat.reduceAdd]
  rw [FrameCodec.encode_eq, FrameCodec.headerCrc, hheader, haccepts.headerCrc, le32_word32 (by omega),
    take_slice, hpayload]
  exact List.take_append_drop _ _

end FrameCodec

end AudioStudio.Wire

namespace AudioStudio.Rpc

open AudioStudio.LittleEndian
open AudioStudio.Wire

/-! ## The RPC format -/

theorem encodeHeader_decodeHeader {data : Bytes} (hlength : kBinaryHeaderSize ≤ data.length) :
    encodeHeader (decodeHeader data) (decodeHeader data).headerCrc32 =
      data.take kBinaryHeaderSize := by
  rw [kBinaryHeaderSize] at hlength ⊢
  have hfront : le32 (word32 data 0) = data.take 4 := by
    rw [le32_word32 (by omega), List.drop_zero]
  unfold encodeHeader decodeHeader
  dsimp only
  rw [hfront, le16_word16 (by omega), le16_word16 (by omega), le16_word16 (by omega),
    le16_word16 (by omega), le16_word16 (by omega), le16_word16 (by omega),
    le32_word32 (by omega), le32_word32 (by omega), le32_word32 (by omega),
    le32_word32 (by omega), le32_word32 (by omega), le32_word32 (by omega),
    le32_word32 (by omega)]
  simp only [take_slice, Nat.reduceAdd]

/-- What `decodeBinaryFrame` has checked when it returns a frame. -/
structure Accepts (data : Bytes) (frame : RpcBinaryFrame) : Prop where
  magic : (decodeHeader data).magic = kBinaryMagic
  headerSize : (decodeHeader data).headerSize.toNat = kBinaryHeaderSize
  size : data.length = kBinaryHeaderSize + (decodeHeader data).payloadLen.toNat
  headerCrc : rpcCrc32 (poke (data.take kBinaryHeaderSize) 40 [0, 0, 0, 0]) =
    (decodeHeader data).headerCrc32
  payloadCrc : payloadCrc (data.drop kBinaryHeaderSize) = (decodeHeader data).payloadCrc32
  fields : frame = { header := decodeHeader data, payload := data.drop kBinaryHeaderSize }

theorem decodeBinaryFrame_accepts {data : Bytes} {frame : RpcBinaryFrame}
    (hdecode : decodeBinaryFrame data = .ok frame) : Accepts data frame := by
  unfold decodeBinaryFrame at hdecode
  dsimp only at hdecode
  split at hdecode
  · cases hdecode
  · split at hdecode
    · cases hdecode
    · next hmagic =>
        split at hdecode
        · cases hdecode
        · next hheader =>
            split at hdecode
            · cases hdecode
            · next hsize =>
                split at hdecode
                · cases hdecode
                · next hcrc =>
                    split at hdecode
                    · cases hdecode
                    · next hpayload =>
                        constructor
                        · exact not_not.mp hmagic
                        · exact not_not.mp hheader
                        · rw [← not_not.mp hheader]
                          exact not_not.mp hsize
                        · exact not_not.mp hcrc
                        · exact not_not.mp hpayload
                        · exact (Except.ok.inj hdecode).symm

theorem Accepts.encode_eq {data : Bytes} {frame : RpcBinaryFrame} (haccepts : Accepts data frame) :
    encodeBinaryFrame frame = data := by
  have hlength : kBinaryHeaderSize ≤ data.length := by
    rw [haccepts.size]
    exact Nat.le_add_right _ _
  have hheader := encodeHeader_decodeHeader hlength
  have hsealed : frame.sealed = frame := by
    have hsize : (data.drop kBinaryHeaderSize).length.toUInt32 = (decodeHeader data).payloadLen := by
      rw [List.length_drop, haccepts.size, Nat.add_sub_cancel_left]
      exact UInt32.ofNat_toNat
    have hheaderSize : kBinaryHeaderSize.toUInt16 = (decodeHeader data).headerSize := by
      rw [← haccepts.headerSize]
      exact UInt16.ofNat_toNat
    have hcrc : rpcCrc32 (encodeHeader (decodeHeader data) 0) = (decodeHeader data).headerCrc32 := by
      rw [← poke_encodeHeader _ (decodeHeader data).headerCrc32, hheader, haccepts.headerCrc]
    rw [haccepts.fields]
    unfold RpcBinaryFrame.sealed
    dsimp only
    rw [hsize, hheaderSize, haccepts.payloadCrc, ← haccepts.magic, hcrc]
  rw [encodeBinaryFrame, hsealed, haccepts.fields]
  dsimp only
  rw [hheader]
  exact List.take_append_drop _ _

/-! ## The three formats -/

/-- Encoding and decoding are inverse to each other in the three binary formats, up to
the fields that an encoder computes itself. -/
theorem codecs_bijective :
    (∀ frame : DataLinkFrame, frame.payload.length < 2 ^ 32 →
      DataLinkFrameCodec.decode (DataLinkFrameCodec.encode frame) = .ok frame) ∧
    (∀ frame : TransportFrame, frame.payload.length < 2 ^ 32 →
      FrameCodec.decode (FrameCodec.encode frame) =
        .ok { frame with serviceId := frame.channelId }) ∧
    (∀ frame : RpcBinaryFrame, frame.payload.length < 2 ^ 32 →
      decodeBinaryFrame (encodeBinaryFrame frame) = .ok frame.sealed) ∧
    (∀ (data : Bytes) (frame : DataLinkFrame), DataLinkFrameCodec.decode data = .ok frame →
      DataLinkFrameCodec.encode frame = data) ∧
    (∀ (data : Bytes) (frame : TransportFrame), FrameCodec.decode data = .ok frame →
      FrameCodec.encode frame = data) ∧
    (∀ (data : Bytes) (frame : RpcBinaryFrame), decodeBinaryFrame data = .ok frame →
      encodeBinaryFrame frame = data) := by
  refine ⟨?_, ?_, ?_, ?_, ?_, ?_⟩
  · exact fun frame hpayload => Wire.decode_encode hpayload
  · exact fun frame hpayload => FrameCodec.decode_encode hpayload
  · exact fun frame hpayload => RpcBinaryFrame.decode_encode hpayload
  · exact fun data frame hdecode => (DataLinkFrameCodec.decode_accepts hdecode).encode_eq
  · exact fun data frame hdecode => (FrameCodec.decode_accepts hdecode).encode_eq
  · exact fun data frame hdecode => (decodeBinaryFrame_accepts hdecode).encode_eq

theorem codecs_bijective_example :
    FrameCodec.decode (FrameCodec.encode { channelId := 3, commandId := 2, payload := [1, 2, 3] }) =
      .ok { serviceId := 3, channelId := 3, commandId := 2, payload := [1, 2, 3] } ∧
    encodeBinaryFrame ({ header := { requestId := 7, headerCrc32 := 9 } } : RpcBinaryFrame).sealed =
      encodeBinaryFrame { header := { requestId := 7, headerCrc32 := 9 } } :=
  ⟨codecs_bijective.2.1 { channelId := 3, commandId := 2, payload := [1, 2, 3] } (by decide),
    codecs_bijective.2.2.2.2.2 _ _
      (codecs_bijective.2.2.1 { header := { requestId := 7, headerCrc32 := 9 } } (by decide))⟩

end AudioStudio.Rpc
