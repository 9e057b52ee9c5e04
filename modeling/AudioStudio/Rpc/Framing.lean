import AudioStudio.Core.ByteReader
import AudioStudio.Core.Text
import AudioStudio.Wire.Checksum

/-!
# RPC frames

`rpc_framing.cpp`: a JSON text travels behind a `Content-Length` header, a binary
frame behind a fixed header with two checksums.  Both formats share one stream.
-/

namespace AudioStudio.Rpc

open AudioStudio.LittleEndian

/-- `rpcCrc32`, the masked bit loop of the host. -/
def rpcCrc32 (data : Bytes) : UInt32 :=
  ~~~ data.foldl Wire.crc32Byte 0xffffffff

attribute [irreducible] rpcCrc32

/-! ## Frame types -/

/-- `RpcMessageType`: the enumeration is open, a decoder casts any word to it. -/
structure RpcMessageType where
  code : UInt16
  deriving DecidableEq, Repr

namespace RpcMessageType

def kRequest : RpcMessageType := ⟨1⟩
def kResponse : RpcMessageType := ⟨2⟩
def kEvent : RpcMessageType := ⟨3⟩
def kStreamData : RpcMessageType := ⟨4⟩
def kStreamAck : RpcMessageType := ⟨5⟩
def kStreamEnd : RpcMessageType := ⟨6⟩
def kError : RpcMessageType := ⟨7⟩

end RpcMessageType

/-- `RpcPayloadType`, open as well. -/
structure RpcPayloadType where
  code : UInt16
  deriving DecidableEq, Repr

namespace RpcPayloadType

def kJson : RpcPayloadType := ⟨1⟩
def kBinary : RpcPayloadType := ⟨2⟩
def kJsonAndBinary : RpcPayloadType := ⟨3⟩

end RpcPayloadType

def kBinaryMagic : UInt32 := 0x50525341
def kBinaryHeaderSize : Nat := 44
def kRpcServiceAudio : UInt16 := 5
def kRpcAudioMethodWriteFrames : UInt16 := 1
def kRpcAudioMethodReadFrames : UInt16 := 2

structure RpcBinaryFrameHeader where
  magic : UInt32 := kBinaryMagic
  version : UInt16 := 1
  headerSize : UInt16 := 44
  messageType : RpcMessageType := .kStreamData
  serviceId : UInt16 := kRpcServiceAudio
  methodId : UInt16 := 0
  payloadType : RpcPayloadType := .kBinary
  requestId : UInt32 := 0
  sessionId : UInt32 := 0
  streamId : UInt32 := 0
  flags : UInt32 := 0
  payloadLen : UInt32 := 0
  payloadCrc32 : UInt32 := 0
  headerCrc32 : UInt32 := 0
  deriving DecidableEq, Repr

structure RpcBinaryFrame where
  header : RpcBinaryFrameHeader := {}
  payload : Bytes := []
  deriving DecidableEq, Repr

/-- What a reader throws: a `RpcFrameError`, `std::out_of_range` of a number, or
the failure of the stream below it. -/
inductive RpcReadError where
  | frame (message : String)
  | outOfRange
  | stream
  deriving DecidableEq, Repr

abbrev RpcReader (α : Type) := ByteReader RpcReadError α

/-- `read_byte`: the stream fails behind its last byte. -/
def readByte : RpcReader UInt8 := fun
  | [] => .error .stream
  | byte :: rest => .ok (byte, rest)

/-- Push the next bytes to a buffer until it has a length. -/
def readBytes (count : Nat) : RpcReader Bytes := ByteReader.times readByte count

def failFrame {α : Type} (message : String) : RpcReader α :=
  fun _ => .error (.frame message)

/-! ## Content-Length frames -/

def kHeaderEnd : Bytes := asciiBytes "\r\n\r\n"

def parseContentLength (header : Bytes) : Except RpcReadError Nat :=
  let key := asciiBytes "Content-Length:"
  match findText key header with
  | none => .error (.frame "missing Content-Length header")
  | some pos =>
      let digits := ((header.drop (pos + key.length)).dropWhile (isSpace ·)).takeWhile (isDigit ·)
      if digits = [] then .error (.frame "invalid Content-Length header")
      -- `std::stoull` throws for a number of more than 64 bits.
      else if decimalValue digits < 2 ^ 64 then .ok (decimalValue digits)
      else .error .outOfRange

def encodeContentLengthFrame (json : Bytes) : Bytes :=
  asciiBytes "Content-Length: " ++ decimalText json.length ++ kHeaderEnd ++ json

/-- The loop over header bytes: it stops at the first blank line. -/
def readHeader (header input : Bytes) : Except RpcReadError (Bytes × Bytes) :=
  if (findText kHeaderEnd header).isSome then .ok (header, input)
  else
    match input with
    | [] => .error .stream
    | byte :: rest =>
        if (header ++ [byte]).length > 4096 then .error (.frame "RPC frame header is too large")
        else readHeader (header ++ [byte]) rest

def maxJsonPayload : Nat := 16 * 1024 * 1024
def maxBinaryPayload : Nat := 64 * 1024 * 1024

def readContentLengthFrameWithPrefix (front : Bytes) (maxPayloadSize : Nat := maxJsonPayload) :
    RpcReader Bytes := do
  let header ← (readHeader front : RpcReader Bytes)
  let headerEnd := (findText kHeaderEnd header).getD 0
  let payloadPrefix := header.drop (headerEnd + 4)
  let contentLength ← StateT.lift (parseContentLength (header.take (headerEnd + 4)))
  if contentLength > maxPayloadSize then failFrame "RPC frame payload is too large"
  else do
    let payload ← readBytes (contentLength - payloadPrefix.length)
    return (payloadPrefix ++ payload).take contentLength

/-! ## Binary frames -/

def encodeHeader (header : RpcBinaryFrameHeader) (headerCrc32 : UInt32) : Bytes :=
  le32 header.magic ++ le16 header.version ++ le16 header.headerSize ++
    le16 header.messageType.code ++ le16 header.serviceId ++ le16 header.methodId ++
    le16 header.payloadType.code ++ le32 header.requestId ++ le32 header.sessionId ++
    le32 header.streamId ++ le32 header.flags ++ le32 header.payloadLen ++
    le32 header.payloadCrc32 ++ le32 headerCrc32

def decodeHeader (data : Bytes) : RpcBinaryFrameHeader where
  magic := word32 data 0
  version := word16 data 4
  headerSize := word16 data 6
  messageType := ⟨word16 data 8⟩
  serviceId := word16 data 10
  methodId := word16 data 12
  payloadType := ⟨word16 data 14⟩
  requestId := word32 data 16
  sessionId := word32 data 20
  streamId := word32 data 24
  flags := word32 data 28
  payloadLen := word32 data 32
  payloadCrc32 := word32 data 36
  headerCrc32 := word32 data 40

@[simp] theorem encodeHeader_length (header : RpcBinaryFrameHeader) (crc : UInt32) :
    (encodeHeader header crc).length = kBinaryHeaderSize := by
  simp only [encodeHeader, List.length_append, le32_length, le16_length, kBinaryHeaderSize]

/-- Reading a header back gives its fields, whatever follows it. -/
theorem decodeHeader_encodeHeader (header : RpcBinaryFrameHeader) (crc : UInt32) (rest : Bytes) :
    decodeHeader (encodeHeader header crc ++ rest) = { header with headerCrc32 := crc } := by
  simp only [encodeHeader, le32, le16, List.cons_append, List.nil_append, decodeHeader, word32,
    word16, byteAt, List.getD_cons_zero, List.getD_cons_succ, of32_le32, of16_le16]

/-- Clearing the checksum field undoes the last field of the header. -/
theorem poke_encodeHeader (header : RpcBinaryFrameHeader) (crc : UInt32) :
    poke (encodeHeader header crc) 40 [0, 0, 0, 0] = encodeHeader header 0 := by
  unfold encodeHeader
  rw [poke_append (by simp only [List.length_append, le32_length, le16_length])
    (by rw [le32_length]; rfl)]
  rfl

theorem encodeHeader_eq (header : RpcBinaryFrameHeader) (crc : UInt32) :
    encodeHeader header crc = le32 header.magic ++ (encodeHeader header crc).drop 4 := by
  simp only [encodeHeader, le32, List.cons_append, List.nil_append, List.drop_succ_cons,
    List.drop_zero]

/-- The stored checksum is not among the bytes. -/
theorem encodeHeader_headerCrc32 (header : RpcBinaryFrameHeader) (stored crc : UInt32) :
    encodeHeader { header with headerCrc32 := stored } crc = encodeHeader header crc := by
  simp only [encodeHeader]

attribute [irreducible] encodeHeader

def payloadCrc (payload : Bytes) : UInt32 :=
  if payload = [] then 0 else rpcCrc32 payload

/-- The frame with the header fields that the encoder fills in. -/
def RpcBinaryFrame.sealed (frame : RpcBinaryFrame) : RpcBinaryFrame :=
  let header : RpcBinaryFrameHeader :=
    { frame.header with
      magic := kBinaryMagic
      headerSize := kBinaryHeaderSize.toUInt16
      payloadLen := frame.payload.length.toUInt32
      payloadCrc32 := payloadCrc frame.payload }
  { header := { header with headerCrc32 := rpcCrc32 (encodeHeader header 0) }
    payload := frame.payload }

def encodeBinaryFrame (frame : RpcBinaryFrame) : Bytes :=
  encodeHeader frame.sealed.header frame.sealed.header.headerCrc32 ++ frame.payload

def decodeBinaryFrame (data : Bytes) : Except RpcReadError RpcBinaryFrame :=
  let header := decodeHeader data
  let payload := data.drop kBinaryHeaderSize
  if data.length < kBinaryHeaderSize then .error (.frame "binary frame is too small")
  else if header.magic ≠ kBinaryMagic then .error (.frame "binary frame magic mismatch")
  else if header.headerSize.toNat ≠ kBinaryHeaderSize then
    .error (.frame "unsupported binary frame header size")
  else if data.length ≠ header.headerSize.toNat + header.payloadLen.toNat then
    .error (.frame "binary frame size mismatch")
  else if rpcCrc32 (poke (data.take kBinaryHeaderSize) 40 [0, 0, 0, 0]) ≠ header.headerCrc32 then
    .error (.frame "binary frame header CRC mismatch")
  else if payloadCrc payload ≠ header.payloadCrc32 then
    .error (.frame "binary frame payload CRC mismatch")
  else .ok { header, payload }

def readBinaryFrameWithPrefix (front : Bytes) (maxPayloadSize : Nat := maxBinaryPayload) :
    RpcReader RpcBinaryFrame := do
  let headerRest ← readBytes (kBinaryHeaderSize - front.length)
  let header := front ++ headerRest
  let decoded := decodeHeader header
  if decoded.magic ≠ kBinaryMagic then failFrame "binary frame magic mismatch"
  else if decoded.headerSize.toNat ≠ kBinaryHeaderSize then
    failFrame "unsupported binary frame header size"
  else if decoded.payloadLen.toNat > maxPayloadSize then
    failFrame "binary frame payload is too large"
  else do
    let payload ← readBytes (kBinaryHeaderSize + decoded.payloadLen.toNat - header.length)
    StateT.lift (decodeBinaryFrame (header ++ payload))

/-! ## The server loop -/

/-- A message of the mixed stream. -/
inductive RpcMessage where
  | json (text : Bytes)
  | binary (frame : RpcBinaryFrame)
  deriving DecidableEq, Repr

/-- The bytes a peer writes for a message. -/
def RpcMessage.encode : RpcMessage → Bytes
  | .json text => encodeContentLengthFrame text
  | .binary frame => encodeBinaryFrame frame

/-- The prefix and the dispatch of `RpcPipeServer::serve` and of the worker of
`RpcSocketServer::serve`: the message that goes to the endpoint or to the stream
handler. -/
def readMessage : RpcReader RpcMessage := do
  let front ← readBytes 4
  if front = asciiBytes "ASRP" then do
    let request ← readBinaryFrameWithPrefix front
    return .binary request
  else do
    let request ← readContentLengthFrameWithPrefix front
    return .json request

/-- The requests of a serving loop until it has handled `count` of them. -/
def serve (count : Nat) : RpcReader (List RpcMessage) := ByteReader.times readMessage count

end AudioStudio.Rpc
