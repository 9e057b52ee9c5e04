import AudioStudio.Rpc.Endpoint
import AudioStudio.Rpc.Framing

/-!
# JSON-RPC clients

`JsonRpcClient`, the frame checks of `AudioRpcClient` and the transports below
them.  The bytes that a server answers stay on the connection until a reader takes
them or the connection is closed, also when the exchange that asked for them is
over.
-/

namespace AudioStudio.Rpc

open AudioStudio.LittleEndian

/-- What a client throws: the failure of its transport, a parse error, a
`JsonRpcError`, or the exception of an accessor. -/
inductive ClientError where
  | transport (error : RpcReadError)
  | parse (fault : JsonFault)
  | rpc (code : Int) (message : Bytes)
  | accessor
  deriving DecidableEq, Repr

def internalError (message : String) : ClientError :=
  .rpc JsonRpcErrorCode.kInternalError.numeric (asciiBytes message)

/-! ## Accessors -/

/-- `asInt64`: the whole number text is an integer in range. -/
def asInt64 : JsonValue → Option Int
  | .number scalar =>
      let negative := scalar.head? = some (ascii '-')
      let digits := if negative then scalar.tail else scalar
      let value : Int := if negative then -(decimalValue digits) else decimalValue digits
      if digits ≠ [] ∧ digits.all (isDigit ·) ∧ -2 ^ 63 ≤ value ∧ value < 2 ^ 63 then some value
      else none
  | _ => none

/-- `asUInt64`: the whole number text is an unsigned integer in range. -/
def asUInt64 : JsonValue → Option Nat
  | .number scalar =>
      if scalar ≠ [] ∧ scalar.all (isDigit ·) ∧ decimalValue scalar < 2 ^ 64 then
        some (decimalValue scalar)
      else none
  | _ => none

def optionalStringField (object : JsonValue) (field : String) (fallback : Bytes) : Bytes :=
  match object.member (asciiBytes field) with
  | some (.string value) => value
  | _ => fallback

/-- A number that is no unsigned integer throws. -/
def optionalU32Field (object : JsonValue) (field : String) (fallback : UInt32) :
    Except ClientError UInt32 :=
  match object.member (asciiBytes field) with
  | some (.number scalar) =>
      match asUInt64 (.number scalar) with
      | some value => .ok value.toUInt32
      | none => .error .accessor
  | _ => .ok fallback

def optionalBoolField (object : JsonValue) (field : String) (fallback : Bool) : Bool :=
  match object.member (asciiBytes field) with
  | some (.bool value) => value
  | _ => fallback

/-! ## Requests and answers -/

def buildRequest (id : Nat) (method : Bytes) (params : JsonValue) (notification : Bool) : JsonValue :=
  let request : JsonMembers := assign (asciiBytes "method") (.string method)
    (assign (asciiBytes "jsonrpc") (.ofText "2.0") [])
  let request := if notification then request
    else assign (asciiBytes "id") (.number (decimalText id)) request
  match params with
  | .null => .object request
  | params => .object (assign (asciiBytes "params") params request)

/-- What `JsonRpcClient::call` makes of the text its transport returned. -/
def readAnswer (text : Bytes) : Except ClientError JsonValue :=
  match parseJson text with
  | .error fault => .error (.parse fault)
  | .ok response =>
      match response.member (asciiBytes "error") with
      | some error =>
          match (error.member (asciiBytes "code")).bind asInt64,
              error.member (asciiBytes "message") with
          | some code, some (.string message) => .error (.rpc (code.bmod (2 ^ 32)) message)
          | _, _ => .error .accessor
      | none =>
          match response.member (asciiBytes "result") with
          | some result => .ok result
          | none => .error (internalError "invalid JSON-RPC response: missing result")

structure AudioWriteResult where
  accepted : Bool := false
  bytes : Nat := 0
  queuedBytes : Nat := 0
  creditBytes : Nat := 0
  deriving DecidableEq, Repr

def throwIfErrorFrame (frame : RpcBinaryFrame) : Except ClientError Unit :=
  if frame.header.messageType ≠ .kError then .ok ()
  else
    match parseJson frame.payload with
    | .error fault => .error (.parse fault)
    | .ok error =>
        .error (.rpc JsonRpcErrorCode.kInternalError.numeric
          (optionalStringField error "message" (asciiBytes "stream error")))

def parseWriteAck (ack : RpcBinaryFrame) : Except ClientError AudioWriteResult := do
  throwIfErrorFrame ack
  if ack.header.messageType ≠ .kStreamAck then .error (internalError "expected StreamAck frame")
  else
    match parseJson ack.payload with
    | .error fault => .error (.parse fault)
    | .ok value => do
        let bytes ← optionalU32Field value "accepted_bytes" 0
        let queuedBytes ← optionalU32Field value "queued_bytes" 0
        let creditBytes ← optionalU32Field value "credit_bytes" 0
        return {
          accepted := optionalBoolField value "accepted" false
          bytes := bytes.toNat
          queuedBytes := queuedBytes.toNat
          creditBytes := creditBytes.toNat }

/-- What `readCaptureFrames` makes of the frame its transport returned. -/
def parseCapture (response : RpcBinaryFrame) : Except ClientError Bytes := do
  throwIfErrorFrame response
  if response.header.messageType ≠ .kStreamData then
    .error (internalError "expected StreamData frame")
  else .ok response.payload

/-! ## Connections -/

inductive RpcTransport where
  | pipeJson
  | pipeStream
  | socketJson
  | socketStream
  deriving DecidableEq, Repr

/-- Only `SocketJsonRpcTransport::send` closes its connection when it throws. -/
def RpcTransport.closesOnFailure : RpcTransport → Bool
  | .socketJson => true
  | _ => false

/-- A pipe keeps its bytes for the next opening, a socket loses them. -/
def RpcTransport.closeDrops : RpcTransport → Bool
  | .socketJson | .socketStream => true
  | .pipeJson | .pipeStream => false

/-- A client and its connection: the next id, and the bytes the server has answered
or is going to answer to earlier requests that no reader has taken. -/
structure Connection where
  transport : RpcTransport
  nextId : Nat := 1
  owed : Bytes := []
  deriving DecidableEq, Repr

/-- Read while `arrived` bytes of the stream come in time; a reader that gives up has
taken what came. -/
def attempt {α : Type} (reader : RpcReader α) (stream : Bytes) (arrived : Nat) :
    Except RpcReadError α × Bytes :=
  match reader (stream.take arrived) with
  | .ok (value, rest) => (.ok value, rest ++ stream.drop arrived)
  | .error error => (.error error, stream.drop arrived)

namespace Connection

/-- The connection after a read: a failure may close it. -/
def afterRead {α : Type} (connection : Connection) (read : Except RpcReadError α × Bytes) :
    Connection :=
  match read.1 with
  | .ok _ => { connection with owed := read.2 }
  | .error _ =>
      { connection with owed := if connection.transport.closesOnFailure then [] else read.2 }

/-- `send` of a JSON transport: the server's frames for this request follow what it
owes already. -/
def send (connection : Connection) (answer : Bytes) (arrived : Nat) :
    Except RpcReadError Bytes × Connection :=
  let read := attempt (readContentLengthFrameWithPrefix []) (connection.owed ++ answer) arrived
  (read.1, connection.afterRead read)

/-- `exchange` of a stream transport. -/
def exchange (connection : Connection) (answer : RpcBinaryFrame) (arrived : Nat) :
    Except RpcReadError RpcBinaryFrame × Connection :=
  let read := attempt (readBinaryFrameWithPrefix [])
    (connection.owed ++ encodeBinaryFrame answer) arrived
  (read.1, connection.afterRead read)

def close (connection : Connection) : Connection :=
  if connection.transport.closeDrops then { connection with owed := [] } else connection

end Connection

/-! ## Histories -/

/-- One use of the connection, with what the server answers to it and how many bytes
arrive before the client gives up. -/
inductive ClientEvent where
  | call (method : Bytes) (params response : JsonValue) (arrived : Nat)
  | notify (method : Bytes) (params : JsonValue) (arrived : Nat)
  | exchange (request response : RpcBinaryFrame) (arrived : Nat)
  | close

/-- What a use of the connection took from it. -/
inductive ClientRecord where
  | call (id : Nat) (request : JsonValue) (read : Except RpcReadError Bytes)
  | exchange (request : RpcBinaryFrame) (read : Except RpcReadError RpcBinaryFrame)
  | other

/-- The result of `JsonRpcClient::call`. -/
def ClientRecord.callResult : ClientRecord → Option (Except ClientError JsonValue)
  | .call _ _ (.ok text) => some (readAnswer text)
  | .call _ _ (.error error) => some (.error (.transport error))
  | _ => none

/-- What a turn of `writePlaybackFrames` or a call of `readCaptureFrames` makes of the
frame: `parse` is `parseWriteAck` or `parseCapture`. -/
def ClientRecord.streamResult {α : Type} (parse : RpcBinaryFrame → Except ClientError α) :
    ClientRecord → Option (Except ClientError α)
  | .exchange _ (.ok frame) => some (parse frame)
  | .exchange _ (.error error) => some (.error (.transport error))
  | _ => none

def Connection.step (connection : Connection) : ClientEvent → ClientRecord × Connection
  | .call method params response arrived =>
      let sent := connection.send (encodeContentLengthFrame response.dump) arrived
      (.call connection.nextId (buildRequest connection.nextId method params false) sent.1,
        { sent.2 with nextId := connection.nextId + 1 })
  | .notify _ _ arrived => (.other, (connection.send [] arrived).2)
  | .exchange request response arrived =>
      let sent := connection.exchange response arrived
      (.exchange request sent.1, sent.2)
  | .close => (.other, connection.close)

/-- The records of a history. -/
def Connection.run (connection : Connection) : List ClientEvent → List ClientRecord
  | [] => []
  | event :: events =>
      (connection.step event).1 :: (connection.step event).2.run events

end AudioStudio.Rpc
