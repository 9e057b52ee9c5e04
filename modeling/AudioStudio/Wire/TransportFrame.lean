import AudioStudio.Common.Status
import AudioStudio.Wire.Checksum

/-!
# Transport frames

The 36-byte transport header and its payload: the firmware writes the answer to
a request into a cleared packet buffer, the host appends field after field.
-/

namespace AudioStudio.Wire

open AudioStudio.Common
open LittleEndian

def acTransportHeaderSize : Nat := 36

def acDatalinkMaxPacketSize : Nat := 4096

def acTransportMaxPayload : Nat := acDatalinkMaxPacketSize - acTransportHeaderSize

/-! ## Firmware codec -/

/-- `ac_transport_frame_t`; the payload pointer and size are the payload itself. -/
structure AcTransportFrame where
  version : UInt16 := 0
  channelId : UInt16 := 0
  commandId : UInt16 := 0
  flags : UInt32 := 0
  sequenceId : UInt32 := 0
  sessionId : UInt32 := 0
  payload : Bytes := []
  deriving DecidableEq, Repr

def acTransportIsMagic (data : Bytes) : Bool :=
  byteAt data 0 == 0x41 && byteAt data 1 == 0x53 &&
    byteAt data 2 == 0x54 && byteAt data 3 == 0x4d

def acTransportDecode (data : Bytes) : Option AcTransportFrame :=
  if data.length < acTransportHeaderSize then none
  else if !acTransportIsMagic data then none
  else if word16 data 6 ≠ 36 then none
  else
    let payloadSize := (word32 data 24).toNat
    if data.length ≠ acTransportHeaderSize + payloadSize then none
    else
      let headerCopy := data.take acTransportHeaderSize
      let expectedHeaderCrc := word32 headerCopy 32
      let headerCopy := poke headerCopy 32 (le32 0)
      if acCrc32 headerCopy ≠ expectedHeaderCrc then none
      else
        let expectedPayloadCrc := word32 data 28
        if acCrc32 ((data.drop acTransportHeaderSize).take payloadSize) ≠ expectedPayloadCrc then
          none
        else some
          { version := word16 data 4
            channelId := word16 data 8
            commandId := word16 data 10
            flags := word32 data 12
            sequenceId := word32 data 16
            sessionId := word32 data 20
            payload := (data.drop acTransportHeaderSize).take payloadSize }

/-- `ac_transport_encode`: the answer to `request` with its own flags and payload;
`none` when the payload or the packet is too large. -/
def acTransportEncode (capacity : Nat) (request : AcTransportFrame) (flags : UInt32)
    (payload : Bytes) : Option Bytes :=
  if payload.length > acTransportMaxPayload ∨
      capacity < acTransportHeaderSize + payload.length then none
  else
    let out := List.replicate acTransportHeaderSize 0
    let out := poke out 0 [0x41, 0x53, 0x54, 0x4d]
    let out := poke out 4 (le16 (if request.version = 0 then 1 else request.version))
    let out := poke out 6 (le16 36)
    let out := poke out 8 (le16 request.channelId)
    let out := poke out 10 (le16 request.commandId)
    let out := poke out 12 (le32 flags)
    let out := poke out 16 (le32 request.sequenceId)
    let out := poke out 20 (le32 request.sessionId)
    let out := poke out 24 (le32 payload.length.toUInt32)
    let out := poke out 28 (le32 (acCrc32 payload))
    let out := poke out 32 (le32 0)
    let headerCrc := acCrc32 out
    let out := poke out 32 (le32 headerCrc)
    some (out ++ payload)

/-! ## Host codec -/

structure TransportFrame where
  version : UInt16 := 1
  serviceId : UInt16 := 0
  channelId : UInt16 := 0
  commandId : UInt16 := 0
  flags : UInt32 := 0
  sequenceId : UInt32 := 0
  sessionId : UInt32 := 0
  payload : Bytes := []
  deriving DecidableEq, Repr

namespace FrameCodec

/-- The four bytes `ASTM` read as one little-endian word. -/
def kMagic : UInt32 := 0x4d545341

def encode (frame : TransportFrame) : Bytes :=
  let out := le32 kMagic
  let out := out ++ le16 frame.version
  let out := out ++ le16 36
  let out := out ++ le16 frame.channelId
  let out := out ++ le16 frame.commandId
  let out := out ++ le32 frame.flags
  let out := out ++ le32 frame.sequenceId
  let out := out ++ le32 frame.sessionId
  let out := out ++ le32 frame.payload.length.toUInt32
  let out := out ++ le32 (crc32 frame.payload)
  let out := out ++ le32 0
  let headerCrc := crc32 out
  let out := poke out (out.length - 4) (le32 headerCrc)
  out ++ frame.payload

def decode (data : Bytes) : Result TransportFrame :=
  if data.length < acTransportHeaderSize then
    .error (.invalidArgument "transport frame is too small")
  else if word32 data 0 ≠ kMagic then
    .error (.invalidArgument "transport frame magic mismatch")
  else if word16 data 6 ≠ 36 then
    .error (.invalidArgument "transport frame header size mismatch")
  else
    let payloadSize := (word32 data 24).toNat
    if data.length ≠ acTransportHeaderSize + payloadSize then
      .error (.invalidArgument "transport frame size mismatch")
    else
      let header := data.take acTransportHeaderSize
      let expectedHeaderCrc := word32 data 32
      let header := header.take (header.length - 4) ++ List.replicate 4 0
      if crc32 header ≠ expectedHeaderCrc then
        .error (.invalidArgument "transport frame header crc mismatch")
      else
        let expectedPayloadCrc := word32 data 28
        if crc32 ((data.drop acTransportHeaderSize).take payloadSize) ≠ expectedPayloadCrc then
          .error (.invalidArgument "transport frame payload crc mismatch")
        else .ok
          { version := word16 data 4
            serviceId := word16 data 8
            channelId := word16 data 8
            commandId := word16 data 10
            flags := word32 data 12
            sequenceId := word32 data 16
            sessionId := word32 data 20
            payload := data.drop acTransportHeaderSize }

end FrameCodec

end AudioStudio.Wire
