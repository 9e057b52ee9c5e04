import AudioStudio.Core.Issues
import AudioStudio.Rpc.Endpoint
import AudioStudio.Simulator.Session

/-!
# Methods with numeric parameters

The readers of numeric members in `json_rpc.cpp`, `audio_studio_rpc_api.cpp` and
`config_service.cpp`, and the requests that they serve up to the services behind them.  A request is
a program whose commands are what it asks of a service.
-/

namespace AudioStudio.Rpc

open AudioStudio.LittleEndian
open AudioStudio.Common
open AudioStudio.Simulator (AudioStreamParams)

/-! ## The readers -/

namespace JsonValue

/-- `asUInt64`: `std::stoull` over the text, all of which has to be its digits. -/
def asUInt64 : JsonValue → Except Thrown Nat
  | .number scalar =>
      if scalar.head? = some (ascii '-') then .error (.standard (asciiBytes "JSON number is negative"))
      else
        let digits := scalar.takeWhile (isDigit ·)
        if digits = [] ∨ 2 ^ 64 ≤ decimalValue digits then .error (.standard (asciiBytes "stoull"))
        else if digits.length ≠ scalar.length then
          .error (.standard (asciiBytes "JSON number is not an unsigned integer"))
        else .ok (decimalValue digits)
  | _ => .error (.standard (asciiBytes "JSON value is not a number"))

end JsonValue

def invalidParams (message : Bytes) : Thrown :=
  .rpc JsonRpcErrorCode.kInvalidParams.numeric message

def requireObjectParams (params : JsonValue) (method : String) : Except Thrown JsonValue :=
  if params.isObject then .ok params
  else .error (invalidParams (asciiBytes (method ++ " expects named object params")))

def requireStringParam (params : JsonValue) (name : String) : Except Thrown Bytes := do
  let object ← requireObjectParams params name
  match object.member (asciiBytes name) with
  | some (.string value) => .ok value
  | _ => .error (invalidParams (asciiBytes ("missing string param: " ++ name)))

def optionalStringParam (params : JsonValue) (name : String) (fallback : Bytes) :
    Except Thrown Bytes :=
  match params.member (asciiBytes name) with
  | none => .ok fallback
  | some (.string value) => .ok value
  | some _ => .error (invalidParams (asciiBytes ("param must be string: " ++ name)))

def optionalBoolParam (params : JsonValue) (name : String) (fallback : Bool) :
    Except Thrown Bool :=
  match params.member (asciiBytes name) with
  | none => .ok fallback
  | some (.bool value) => .ok value
  | some _ => .error (invalidParams (asciiBytes ("param must be boolean: " ++ name)))

/-- What the two readers of unsigned parameters share: the number itself, before it is cast. -/
def optionalNumberParam (params : JsonValue) (name : String) (fallback : Nat) :
    Except Thrown Nat :=
  match params.member (asciiBytes name) with
  | none => .ok fallback
  | some (.number scalar) => JsonValue.asUInt64 (.number scalar)
  | some _ => .error (invalidParams (asciiBytes ("param must be number: " ++ name)))

def optionalUInt32Param (params : JsonValue) (name : String) (fallback : UInt32) :
    Except Thrown UInt32 :=
  (optionalNumberParam params name fallback.toNat).map Nat.toUInt32

def optionalUInt16Param (params : JsonValue) (name : String) (fallback : UInt16) :
    Except Thrown UInt16 :=
  (optionalNumberParam params name fallback.toNat).map Nat.toUInt16

/-! ### The project configuration -/

/-- A member of an object that is not null. -/
def presentMember (object : JsonValue) (key : Bytes) : Option JsonValue :=
  match object.member key with
  | some .null => none
  | other => other

def uintValue (object : JsonValue) (key : Bytes) (fallback : UInt32) : Except Thrown UInt32 :=
  match presentMember object key with
  | none => .ok fallback
  | some (.number scalar) => (JsonValue.asUInt64 (.number scalar)).map Nat.toUInt32
  | some _ => .error (.standard (asciiBytes "JSON field must be number: " ++ key))

def uintValueAny (object : JsonValue) : List Bytes → UInt32 → Except Thrown UInt32
  | [], fallback => .ok fallback
  | key :: keys, fallback =>
      match presentMember object key with
      | some _ => uintValue object key fallback
      | none => uintValueAny object keys fallback

def firstNumericArrayItem (object : JsonValue) (key : Bytes) (fallback : UInt32) :
    Except Thrown UInt32 :=
  match presentMember object key with
  | none => .ok fallback
  | some (.number scalar) => (JsonValue.asUInt64 (.number scalar)).map Nat.toUInt32
  | some (.array (.number scalar :: _)) => (JsonValue.asUInt64 (.number scalar)).map Nat.toUInt32
  | some (.array (_ :: _)) =>
      .error (.standard (asciiBytes "JSON array first item must be number: " ++ key))
  | some _ =>
      .error (.standard (asciiBytes "JSON field must be number or non-empty array: " ++ key))

/-! ## The services behind the methods -/

inductive StreamDirection where
  | playback
  | capture
  deriving DecidableEq, Repr

/-- A stream of the audio service; its format is of type `int`. -/
structure AudioStream where
  id : Bytes
  direction : StreamDirection
  driverFactory : Bytes
  deviceName : Bytes
  sampleRate : Int32
  channels : Int32
  bytesPerSample : Int32
  blockingWrite : Bool

/-- `AudioServiceConfig` with the registry of the service and the default driver. -/
structure AudioServiceConfig where
  hasRegistry : Bool
  driverFactory : Bytes
  defaultDeviceName : Bytes
  defaultAudioDriverFactory : Bytes

structure LogSessionConfig where
  sessionId : Bytes
  driverFactory : Bytes
  source : Bytes
  minLevel : Bytes
  raw : Bool
  options : Bytes → Option Bytes

/-- What a request asks of the server: a fresh session id, and what has an effect on a service or
depends on its state. -/
inductive ServerCmd where
  | nextSessionId (kind : Bytes)
  | hasSession (id : Bytes)
  | createDevice (stream : AudioStream)
  | emplaceSession (stream : AudioStream)
  | captureReady (id : Bytes)
  | readDevice (id : Bytes) (maxBytes : Nat) (timeoutMs : UInt32)
  | readEntries (id : Bytes) (maxEntries : Nat)
  | rawReady (id : Bytes)
  | readChunks (id : Bytes) (maxChunks : Nat)
  | createLogSession (config : LogSessionConfig)
  | configureLogSession (id : Bytes) (config : LogSessionConfig)

abbrev ServerReply : ServerCmd → Type
  | .nextSessionId _ => Bytes
  | .hasSession _ => Bool
  | .createDevice _ => Result Unit
  | .emplaceSession _ => Unit
  | .captureReady _ => Result Unit
  | .readDevice _ _ _ => Result Bytes
  | .readEntries _ _ => Result Unit
  | .rawReady _ => Result Unit
  | .readChunks _ _ => Result Unit
  | .createLogSession _ => Result Unit
  | .configureLogSession _ _ => Result Unit

abbrev ServerProc (α : Type) := Proc ServerReply α

def ask (cmd : ServerCmd) : ServerProc (ServerReply cmd) := Proc.request cmd

/-- A step that may throw, and the rest of the method behind it. -/
def orThrow {α β : Type} (step : Except Thrown α) (rest : α → ServerProc (Except Thrown β)) :
    ServerProc (Except Thrown β) :=
  match step with
  | .error thrown => pure (.error thrown)
  | .ok value => rest value

/-- A failed status is thrown with its message. -/
def statusResult {α : Type} : Result α → Except Thrown α
  | .error status => .error (invalidParams (asciiBytes status.message))
  | .ok value => .ok value

/-! ## Audio sessions -/

def audioStreamFromParams (freshId : Bytes) (object : JsonValue) (direction : StreamDirection) :
    Except Thrown AudioStream := do
  let id ← optionalStringParam object "session_id" freshId
  let driverFactory ← optionalStringParam object "driver_factory" []
  let device ← optionalStringParam object "device" []
  let deviceName ← optionalStringParam object "device_name" device
  let sampleRate ← optionalUInt32Param object "sample_rate" 48000
  let channels ← optionalUInt16Param object "channels" 2
  let bytesPerSample ← optionalUInt16Param object "bytes_per_sample" 2
  let blockingWrite ← optionalBoolParam object "blocking_write" true
  return {
    id := id, direction := direction, driverFactory := driverFactory, deviceName := deviceName
    sampleRate := sampleRate.toInt32, channels := channels.toUInt32.toInt32
    bytesPerSample := bytesPerSample.toUInt32.toInt32, blockingWrite := blockingWrite }

/-- `streamParamsLocked`: the format that a device is prepared with. -/
def AudioStream.streamParams (stream : AudioStream) : AudioStreamParams where
  sampleRate := stream.sampleRate.toUInt32
  channels := stream.channels.toUInt32.toUInt16
  bytesPerSample := stream.bytesPerSample.toUInt32.toUInt16

def validateStream (stream : AudioStream) : Except Thrown Unit :=
  if stream.id = [] then .error (invalidParams (asciiBytes "audio stream id is empty"))
  else if stream.sampleRate ≤ 0 then
    .error (invalidParams (asciiBytes "audio sample rate must be positive"))
  else if stream.channels ≤ 0 then
    .error (invalidParams (asciiBytes "audio channel count must be positive"))
  else if stream.bytesPerSample ≤ 0 then
    .error (invalidParams (asciiBytes "audio bytes per sample must be positive"))
  else .ok ()

/-- The names that the service fills in. -/
def AudioServiceConfig.effective (config : AudioServiceConfig) (stream : AudioStream) :
    AudioStream :=
  { stream with
    driverFactory :=
      if stream.driverFactory ≠ [] then stream.driverFactory
      else if config.driverFactory = [] then config.defaultAudioDriverFactory
      else config.driverFactory
    deviceName :=
      if stream.deviceName ≠ [] then stream.deviceName
      else if config.defaultDeviceName = [] then asciiBytes "default"
      else config.defaultDeviceName }

def StreamDirection.kind : StreamDirection → Bytes
  | .playback => asciiBytes "playback"
  | .capture => asciiBytes "capture"

def sessionExists (id : Bytes) : Thrown :=
  invalidParams (asciiBytes "audio stream already exists: " ++ id)

/-- The device of a session, when there is a registry to create it. -/
def createSessionDevice (config : AudioServiceConfig) (stream : AudioStream) :
    ServerProc (Except Thrown Unit) :=
  if config.hasRegistry then do
    let status : Result Unit ← ask (.createDevice stream)
    match status with
    | .error status =>
        pure (.error (invalidParams (asciiBytes "failed to create " ++ stream.direction.kind ++
          asciiBytes " audio driver: " ++ stream.driverFactory ++ asciiBytes " device=" ++
          stream.deviceName ++ asciiBytes ": " ++ asciiBytes status.message)))
    | .ok () => pure (.ok ())
  else pure (.ok ())

/-- `createPlaybackSession` and `createCaptureSession`, called for a stream of their direction. -/
def createStreamSession (config : AudioServiceConfig) (stream : AudioStream) :
    ServerProc (Except Thrown Unit) :=
  orThrow (validateStream stream) fun _ => do
    let stream := config.effective stream
    let exists₁ : Bool ← ask (.hasSession stream.id)
    if exists₁ then pure (.error (sessionExists stream.id))
    else do
      let device ← createSessionDevice config stream
      orThrow device fun _ => do
        let exists₂ : Bool ← ask (.hasSession stream.id)
        if exists₂ then pure (.error (sessionExists stream.id))
        else do
          ask (.emplaceSession stream)
          pure (.ok ())

/-- `createAudioSession` up to its result. -/
def createAudioSession (config : AudioServiceConfig) (direction : StreamDirection)
    (params : JsonValue) : ServerProc (Except Thrown Unit) :=
  orThrow (requireObjectParams params "audio.createSession") fun object => do
    let freshId : Bytes ← ask (.nextSessionId direction.kind)
    orThrow (audioStreamFromParams freshId object direction) (createStreamSession config)

/-- The READ frame of a stream connection: `payload` is a JSON text or nothing. -/
def readAudioFrames (sessionId payload : Bytes) (timeoutMs : UInt32) :
    ServerProc (Except Thrown Bytes) :=
  let maxBytes : Except Thrown UInt32 :=
    if payload = [] then .ok 65536
    else match parseJson payload with
      | .error fault => .error (.standard (fault.what payload))
      | .ok params => optionalUInt32Param params "max_bytes" 65536
  orThrow maxBytes fun maxBytes => do
    let ready : Result Unit ← ask (.captureReady sessionId)
    orThrow (statusResult ready) fun _ =>
      if maxBytes = 0 then
        pure (.error (.standard (asciiBytes "audio read max_bytes is zero")))
      else do
        let data : Result Bytes ← ask (.readDevice sessionId maxBytes.toNat timeoutMs)
        pure (statusResult data)

/-! ## Log sessions -/

def logUnconfigured : Thrown :=
  .rpc JsonRpcErrorCode.kInternalError.numeric (asciiBytes "log service is not configured")

def readLogEntries (hasLogService : Bool) (params : JsonValue) :
    ServerProc (Except Thrown Unit) :=
  if !hasLogService then pure (.error logUnconfigured)
  else orThrow (requireStringParam params "session_id") fun id =>
    orThrow (optionalUInt32Param params "max_entries" 32) fun maxEntries =>
      if maxEntries = 0 then
        pure (.error (invalidParams (asciiBytes "log read max_entries is zero")))
      else do
        let status : Result Unit ← ask (.readEntries id maxEntries.toNat)
        pure (statusResult status)

def readLogRaw (hasLogService : Bool) (params : JsonValue) : ServerProc (Except Thrown Unit) :=
  if !hasLogService then pure (.error logUnconfigured)
  else orThrow (requireStringParam params "session_id") fun id =>
    orThrow (optionalUInt32Param params "max_chunks" 1) fun maxChunks => do
      let ready : Result Unit ← ask (.rawReady id)
      orThrow (statusResult ready) fun _ =>
        if maxChunks = 0 then
          pure (.error (invalidParams (asciiBytes "log read max_chunks is zero")))
        else do
          let status : Result Unit ← ask (.readChunks id maxChunks.toNat)
          pure (statusResult status)

/-- A parameter that becomes an option when it is there. -/
def setOption (object : JsonValue) (name : String) (key : String)
    (read : Except Thrown Bytes) (options : Bytes → Option Bytes) :
    Except Thrown (Bytes → Option Bytes) :=
  if (object.member (asciiBytes name)).isNone then .ok options
  else read.map fun text => Function.update options (asciiBytes key) (some text)

/-- The members of `options`, all of them strings. -/
def mergeOptions : JsonMembers → (Bytes → Option Bytes) → Except Thrown (Bytes → Option Bytes)
  | [], options => .ok options
  | (key, .string value) :: members, options =>
      mergeOptions members (Function.update options key (some value))
  | (key, _) :: _, _ => .error (invalidParams (asciiBytes "log option must be string: " ++ key))

/-- The options behind the named parameters. -/
def extraOptions (object : JsonValue) (options : Bytes → Option Bytes) :
    Except Thrown (Bytes → Option Bytes) :=
  match object.member (asciiBytes "options") with
  | none => .ok options
  | some (.object members) => mergeOptions members options
  | some _ => .error (invalidParams (asciiBytes "param must be object: options"))

def textOption (object : JsonValue) (name key : String) :
    (Bytes → Option Bytes) → Except Thrown (Bytes → Option Bytes) :=
  setOption object name key (optionalStringParam object name [])

def mtuOption (object : JsonValue) :
    (Bytes → Option Bytes) → Except Thrown (Bytes → Option Bytes) :=
  setOption object "datalink_mtu" "mtu"
    ((optionalUInt32Param object "datalink_mtu" 512).map fun mtu => decimalText mtu.toNat)

def logSessionConfigFromParams (params : JsonValue) : Except Thrown LogSessionConfig := do
  let object ← requireObjectParams params "log.createSession"
  let sessionId ← optionalStringParam object "session_id" []
  let driverFactory ← optionalStringParam object "driver_factory" []
  let source ← optionalStringParam object "source" []
  let level ← optionalStringParam object "level" []
  let minLevel ← optionalStringParam object "min_level" level
  let raw ← optionalBoolParam object "raw" false
  let options ← textOption object "datalink_endpoint" "endpoint" fun _ => none
  let options ← textOption object "datalink_rx" "rx_path" options
  let options ← textOption object "datalink_tx" "tx_path" options
  let options ← mtuOption object options
  let options ← textOption object "trace_ldc" "trace_ldc" options
  let options ← textOption object "raw_trace_path" "raw_trace_path" options
  let options ← textOption object "decoded_trace_path" "decoded_trace_path" options
  let options ← extraOptions object options
  return {
    sessionId := sessionId, driverFactory := driverFactory, source := source
    minLevel := minLevel, raw := raw, options := options }

def createLogSession (hasLogService : Bool) (params : JsonValue) :
    ServerProc (Except Thrown Unit) :=
  if !hasLogService then pure (.error logUnconfigured)
  else orThrow (logSessionConfigFromParams params) fun config => do
    let status : Result Unit ← ask (.createLogSession config)
    pure (statusResult status)

def configureLogSession (hasLogService : Bool) (params : JsonValue) :
    ServerProc (Except Thrown Unit) :=
  if !hasLogService then pure (.error logUnconfigured)
  else orThrow (requireStringParam params "session_id") fun id =>
    orThrow (logSessionConfigFromParams params) fun config => do
      let status : Result Unit ← ask (.configureLogSession id config)
      pure (statusResult status)

end AudioStudio.Rpc
