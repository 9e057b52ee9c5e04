import AudioStudio.Common.Status
import AudioStudio.Wire.Checksum

/-!
# Data-link frames

The 36-byte data-link header and its payload, as `ac_datalink.c` writes it (a
cleared buffer and fixed offsets) and as `DataLinkFrameCodec` writes it (one
field appended after another).
-/

namespace AudioStudio.Wire

open AudioStudio.Common
open LittleEndian

def dataLinkHeaderSize : Nat := 36

def flagData : UInt16 := 0x0001
def flagAck : UInt16 := 0x0002
def flagNak : UInt16 := 0x0004
def flagEnd : UInt16 := 0x0008

/-! ## Firmware codec -/

/-- `ac_datalink_frame_view_t`; the payload pointer is the payload itself. -/
structure AcDatalinkFrameView where
  flags : UInt16
  linkSequence : UInt32
  transportSize : UInt32
  fragmentOffset : UInt32
  payloadSize : UInt32
  fragmentIndex : UInt16
  fragmentCount : UInt16
  payload : Bytes
  deriving DecidableEq, Repr

def acDatalinkIsMagic (data : Bytes) : Bool :=
  byteAt data 0 == 0x41 && byteAt data 1 == 0x53 &&
    byteAt data 2 == 0x44 && byteAt data 3 == 0x4c

/-- Size of the frame at the start of `data`, of which `size` bytes are valid;
zero when there is no complete header. -/
def acDatalinkFrameSize (data : Bytes) (size : Nat) : Nat :=
  if size < dataLinkHeaderSize then 0
  else if !acDatalinkIsMagic data then 0
  else if byteAt data 5 != 36 then 0
  else dataLinkHeaderSize + (word32 data 20).toNat

def acDatalinkDecodeFrame (frame : Bytes) : Option AcDatalinkFrameView :=
  if frame.length < dataLinkHeaderSize then none
  else if !acDatalinkIsMagic frame || byteAt frame 5 != 36 then none
  else if frame.length ≠ acDatalinkFrameSize frame frame.length then none
  else
    let headerCopy := frame.take dataLinkHeaderSize
    let expectedHeaderCrc := word32 headerCopy 32
    let headerCopy := poke headerCopy 32 (le32 0)
    if acCrc32 headerCopy ≠ expectedHeaderCrc then none
    else
      let expectedPayloadCrc := word32 frame 28
      if acCrc32 (frame.drop dataLinkHeaderSize) ≠ expectedPayloadCrc then none
      else some
        { flags := word16 frame 6
          linkSequence := word32 frame 8
          transportSize := word32 frame 12
          fragmentOffset := word32 frame 16
          payloadSize := word32 frame 20
          fragmentIndex := word16 frame 24
          fragmentCount := word16 frame 26
          payload := frame.drop dataLinkHeaderSize }

/-- `ac_datalink_encode_frame`: `none` when the output buffer is too small. -/
def acDatalinkEncodeFrame (capacity : Nat) (flags : UInt16)
    (linkSequence transportSize fragmentOffset : UInt32)
    (fragmentIndex fragmentCount : UInt16) (payload : Bytes) : Option Bytes :=
  if capacity < dataLinkHeaderSize + payload.length then none
  else
    let out := List.replicate dataLinkHeaderSize 0
    let out := poke out 0 [0x41, 0x53, 0x44, 0x4c, 1, 36]
    let out := poke out 6 (le16 flags)
    let out := poke out 8 (le32 linkSequence)
    let out := poke out 12 (le32 transportSize)
    let out := poke out 16 (le32 fragmentOffset)
    let out := poke out 20 (le32 payload.length.toUInt32)
    let out := poke out 24 (le16 fragmentIndex)
    let out := poke out 26 (le16 fragmentCount)
    let out := poke out 28 (le32 (acCrc32 payload))
    let out := poke out 32 (le32 0)
    let headerCrc := acCrc32 out
    let out := poke out 32 (le32 headerCrc)
    some (out ++ payload)

/-! ## Host codec -/

structure DataLinkFrame where
  version : UInt8 := 1
  flags : UInt16 := 0
  linkSequence : UInt32 := 0
  transportSize : UInt32 := 0
  fragmentOffset : UInt32 := 0
  fragmentIndex : UInt16 := 0
  fragmentCount : UInt16 := 0
  payload : Bytes := []
  deriving DecidableEq, Repr

namespace DataLinkFrameCodec

/-- The four bytes `ASDL` read as one little-endian word. -/
def kMagic : UInt32 := 0x4c445341

def encode (frame : DataLinkFrame) : Bytes :=
  let out := le32 kMagic
  let out := out ++ [frame.version]
  let out := out ++ [36]
  let out := out ++ le16 frame.flags
  let out := out ++ le32 frame.linkSequence
  let out := out ++ le32 frame.transportSize
  let out := out ++ le32 frame.fragmentOffset
  let out := out ++ le32 frame.payload.length.toUInt32
  let out := out ++ le16 frame.fragmentIndex
  let out := out ++ le16 frame.fragmentCount
  let out := out ++ le32 (crc32 frame.payload)
  let out := out ++ le32 0
  let headerCrc := crc32 out
  let out := poke out (out.length - 4) (le32 headerCrc)
  out ++ frame.payload

def decode (data : Bytes) : Result DataLinkFrame :=
  if data.length < dataLinkHeaderSize then
    .error (.invalidArgument "data-link frame is too small")
  else if word32 data 0 ≠ kMagic then
    .error (.invalidArgument "data-link magic mismatch")
  else if byteAt data 5 ≠ 36 then
    .error (.invalidArgument "data-link header size mismatch")
  else
    let payloadSize := (word32 data 20).toNat
    if data.length ≠ dataLinkHeaderSize + payloadSize then
      .error (.invalidArgument "data-link size mismatch")
    else
      let header := data.take dataLinkHeaderSize
      let expectedHeaderCrc := word32 data 32
      let header := header.take (header.length - 4) ++ List.replicate 4 0
      if crc32 header ≠ expectedHeaderCrc then
        .error (.invalidArgument "data-link header crc mismatch")
      else
        let expectedPayloadCrc := word32 data 28
        if crc32 ((data.drop dataLinkHeaderSize).take payloadSize) ≠ expectedPayloadCrc then
          .error (.invalidArgument "data-link payload crc mismatch")
        else .ok
          { version := byteAt data 4
            flags := word16 data 6
            linkSequence := word32 data 8
            transportSize := word32 data 12
            fragmentOffset := word32 data 16
            fragmentIndex := word16 data 24
            fragmentCount := word16 data 26
            payload := data.drop dataLinkHeaderSize }

/-- Size of the frame at the start of `data`; unavailable while it is incomplete. -/
def frameSize (data : Bytes) : Result Nat :=
  if data.length < dataLinkHeaderSize then
    .error (.unavailable "data-link frame header is incomplete")
  else if word32 data 0 ≠ kMagic then
    .error (.invalidArgument "data-link magic mismatch")
  else if byteAt data 5 ≠ 36 then
    .error (.invalidArgument "data-link header size mismatch")
  else
    let size := dataLinkHeaderSize + (word32 data 20).toNat
    if data.length < size then
      .error (.unavailable "data-link frame payload is incomplete")
    else .ok size

def makeAck (frame : DataLinkFrame) : DataLinkFrame :=
  { flags := flagAck
    linkSequence := frame.linkSequence
    transportSize := frame.transportSize
    fragmentOffset := frame.fragmentOffset
    fragmentIndex := frame.fragmentIndex
    fragmentCount := frame.fragmentCount }

def makeNak (frame : DataLinkFrame) : DataLinkFrame :=
  { makeAck frame with flags := flagNak }

attribute [irreducible] encode decode

end DataLinkFrameCodec

end AudioStudio.Wire
