import AudioStudio.Audio.Session
import AudioStudio.Core.Keyed
import AudioStudio.Log.Service

/-!
# Sessions of the log service

How `log_service.cpp` creates, configures and closes sessions.  Devices, their factories
and the file system are parameters.
-/

namespace AudioStudio.Log.Sessions

open AudioStudio.Common LittleEndian
open AudioStudio.Audio (idText)

/-! ## Configurations -/

abbrev Options := List (Bytes × Bytes)

/-- `options[item.first] = item.second` for all items. -/
def setOptions (items options : Options) : Options :=
  items.foldl (fun options item => Keyed.upsert Prod.fst item options) options

structure LogSessionConfig where
  sessionId : Bytes := []
  driverFactory : Bytes := asciiBytes "linux-host"
  source : Bytes := asciiBytes "firmware"
  minLevel : Bytes := asciiBytes "debug"
  options : Options := []
  raw : Bool := false
  deriving DecidableEq, Repr

def optionString (config : LogSessionConfig) (key : String) : Bytes :=
  ((Keyed.find Prod.fst (asciiBytes key) config.options).map Prod.snd).getD []

def optionBool (config : LogSessionConfig) (key : String) : Bool :=
  let value := optionString config key
  value = asciiBytes "true" ∨ value = asciiBytes "1" ∨ value = asciiBytes "yes"

/-- The first text, or the second one where it is empty. -/
def orElse (text fallback : Bytes) : Bytes := if text = [] then fallback else text

def safePathToken (value : Bytes) : Bytes :=
  orElse (value.map fun ch => if isAlnum ch ∨ ch = 0x5f ∨ ch = 0x2d then ch else 0x5f)
    (asciiBytes "log")

/-! ## Sessions -/

structure LogDeviceConfig where
  source : Bytes
  options : Options
  deriving DecidableEq, Repr

/-- The factories, and the devices that they make; a device that refuses a configuration
keeps the one it has. -/
structure LogDevices (δ : Type) where
  create : Bytes → LogDeviceConfig → Option δ
  configure : LogDeviceConfig → δ → Result δ
  start : δ → Result Unit × δ
  stop : δ → Result Unit × δ

/-- `sofDecoder` is the dictionary that the decoder was opened with. -/
structure Session (δ : Type) where
  config : LogSessionConfig
  device : Option δ := none
  running : Bool := false
  entriesRead : Nat := 0
  rawChunksRead : Nat := 0
  rawTracePath : Bytes := []
  decodedTracePath : Bytes := []
  rawTraceOwned : Bool := false
  decodedTraceOwned : Bool := false
  textPending : Bytes := []
  sofDecodedPending : Bytes := []
  sofRawPending : Bytes := []
  sofDecoder : Option Bytes := none
  mirrorEntries : Bool := false
  mirrorEntryCursor : Nat := 0
  deriving DecidableEq

structure LogSessionInfo where
  sessionId : Bytes
  driverFactory : Bytes
  source : Bytes
  minLevel : Bytes
  running : Bool
  entriesRead : Nat
  rawChunksRead : Nat
  deriving DecidableEq, Repr

section Sessions

variable {δ : Type} (devices : LogDevices δ) (creates : Bytes → Bool)

namespace Session

variable (session : Session δ)

def id : Bytes := session.config.sessionId

def sofLoggerEnabled : Bool := optionString session.config "trace_ldc" ≠ []

def infoFor : LogSessionInfo where
  sessionId := session.config.sessionId
  driverFactory := session.config.driverFactory
  source := session.config.source
  minLevel := session.config.minLevel
  running := session.running
  entriesRead := session.entriesRead
  rawChunksRead := session.rawChunksRead

def destroySofDecoder : Session δ := { session with sofDecoder := none }

/-- The path of an option, or the one that the service makes for the session. -/
def tracePathFor (config : LogSessionConfig) (key extension : String) : Bytes :=
  orElse (optionString config key)
    (asciiBytes "/tmp/audio_studio_" ++ safePathToken config.sessionId ++ asciiBytes extension)

def setTracePaths : Session δ :=
  { session with
    rawTracePath := tracePathFor session.config "raw_trace_path" ".trace.raw"
    rawTraceOwned := optionString session.config "raw_trace_path" = []
    decodedTracePath := tracePathFor session.config "decoded_trace_path" ".trace.log"
    decodedTraceOwned := optionString session.config "decoded_trace_path" = [] }

/-- `prepareTraceFiles` with truncation; `creates` says which files can be created. -/
def prepareTraceFiles : Result Unit × Session δ :=
  let session := session.setTracePaths
  if !creates session.rawTracePath then
    (.error (.unavailable ("failed to create SOF raw trace file: " ++ idText session.rawTracePath)),
      session)
  else if !creates session.decodedTracePath then
    (.error (.unavailable
      ("failed to create SOF decoded trace file: " ++ idText session.decodedTracePath)), session)
  else (.ok (), session)

/-! ### Configuring -/

/-- The level, the raw flag and the options of a request. -/
def applyConfig (config : LogSessionConfig) : Session δ :=
  { session with
    config :=
      { session.config with
        minLevel := normalizeLevel (orElse config.minLevel session.config.minLevel)
        raw := config.raw
        options := setOptions config.options session.config.options } }

/-- Changed options begin a new trace. -/
def restartTrace : Result Unit × Session δ :=
  let session := { session.destroySofDecoder with sofRawPending := [], sofDecodedPending := [] }
  if session.sofLoggerEnabled then session.prepareTraceFiles creates else (.ok (), session)

def deviceConfig : LogDeviceConfig where
  source := session.config.source
  options := session.config.options

def setSource (source : Bytes) : Session δ :=
  { session with config := { session.config with source := orElse source session.config.source } }

def configureDevice (config : LogSessionConfig) : Result Unit × Session δ :=
  if (config.source ≠ [] ∧ config.source ≠ session.config.source) ∨ config.options ≠ [] then
    let session := session.setSource config.source
    match session.device with
    | none => (.ok (), session)
    | some device =>
        match devices.configure session.deviceConfig device with
        | .error status => (.error status, session)
        | .ok device => (.ok (), { session with device := some device })
  else (.ok (), session)

/-- `configureSession` of a session that it found. -/
def configure (config : LogSessionConfig) : Result Unit × Session δ :=
  if session.running then
    (.error (.unavailable ("cannot configure running log session: " ++ idText session.id)), session)
  else if session.mirrorEntries then
    (.error (.unavailable ("cannot configure mirrored log session: " ++ idText session.id)), session)
  else
    let session := session.applyConfig config
    let (status, session) :=
      if config.options ≠ [] then session.restartTrace creates else (.ok (), session)
    match status with
    | .error status => (.error status, session)
    | .ok () => session.configureDevice devices config

/-! ### Starting and stopping -/

/-- `opens` says which dictionaries can be opened. -/
def ensureSofDecoder (opens : Bytes → Bool) : Result Unit × Session δ :=
  let traceLdc := optionString session.config "trace_ldc"
  if session.sofDecoder.isSome then (.ok (), session)
  else if opens traceLdc then (.ok (), { session with sofDecoder := some traceLdc })
  else (.error (.unavailable ("failed to open SOF logger dictionary: " ++ idText traceLdc)), session)

/-- A call of the device, and whether the session runs behind it. -/
def callDevice (call : δ → Result Unit × δ) (running : Bool) : Result Unit × Session δ :=
  match session.device with
  | none => (.ok (), { session with running := running })
  | some device =>
      match call device with
      | (.error status, device) => (.error status, { session with device := some device })
      | (.ok (), device) => (.ok (), { session with device := some device, running := running })

def start (opens : Bytes → Bool) : Result Unit × Session δ :=
  if session.mirrorEntries then (.ok (), { session with running := true })
  else
    let (status, session) :=
      if session.sofLoggerEnabled then session.ensureSofDecoder opens else (.ok (), session)
    match status with
    | .error status => (.error status, session)
    | .ok () => session.callDevice devices.start true

def stop : Result Unit × Session δ :=
  if session.mirrorEntries then (.ok (), { session with running := false })
  else session.callDevice devices.stop false

end Session

/-! ## The service -/

structure LogService (δ : Type) where
  hasRegistry : Bool := false
  defaultConfig : LogSessionConfig := {}
  sessions : List (Session δ) := []

namespace LogService

variable (service : LogService δ)

def find (id : Bytes) : Option (Session δ) := Keyed.find Session.id id service.sessions

def put (session : Session δ) : LogService δ :=
  { service with sessions := Keyed.upsert Session.id session service.sessions }

def notFound (id : Bytes) : Status :=
  .unavailable ("log session not found: " ++ idText id)

def setDefaultSessionConfig (config : LogSessionConfig) : LogService δ :=
  { service with
    defaultConfig :=
      { config with
        sessionId := []
        minLevel := if config.minLevel = [] then [] else normalizeLevel config.minLevel } }

def mergeDefaultConfig (config : LogSessionConfig) : LogSessionConfig :=
  let merged := service.defaultConfig
  { sessionId := orElse config.sessionId merged.sessionId
    driverFactory := orElse (orElse config.driverFactory merged.driverFactory)
      (asciiBytes "linux-host")
    source := orElse (orElse config.source merged.source) (asciiBytes "firmware")
    minLevel := orElse (orElse config.minLevel merged.minLevel) (asciiBytes "debug")
    options := setOptions config.options merged.options
    raw := config.raw }

def mirrors (config : LogSessionConfig) (session : Session δ) : Bool :=
  session.running && !session.mirrorEntries && optionBool session.config "system_info_pump" &&
    session.config.driverFactory = config.driverFactory && session.config.source = config.source &&
    optionString session.config "trace_ldc" = optionString config "trace_ldc"

def shouldMirrorEntriesLocked (config : LogSessionConfig) : Bool :=
  !(config.raw || optionBool config "system_info_pump") && service.sessions.any (mirrors config)

/-- The id of a session whose creator leaves it to the service. -/
def generatedId : Bytes := asciiBytes "log_" ++ decimalText (service.sessions.length + 1)

def insert (session : Session δ) : Result LogSessionInfo × LogService δ :=
  (.ok session.infoFor, service.put session)

/-- A session of its own, with a device if there is a registry. -/
def createOwn (config : LogSessionConfig) (device : Option δ) :
    Result LogSessionInfo × LogService δ :=
  let session : Session δ :=
    { config := { config with minLevel := normalizeLevel config.minLevel } }
  let (status, session) :=
    if session.sofLoggerEnabled then session.prepareTraceFiles creates else (.ok (), session)
  match status with
  | .error status => (.error status, service)
  | .ok () => service.insert { session with device := device }

def alreadyExists (id : Bytes) : Status :=
  .invalidArgument ("log session already exists: " ++ idText id)

def createSession (config : LogSessionConfig) : Result LogSessionInfo × LogService δ :=
  let config := service.mergeDefaultConfig config
  let config := { config with sessionId := orElse config.sessionId service.generatedId }
  if config.driverFactory = [] then
    (.error (.invalidArgument "log driver factory is empty"), service)
  else if config.source = [] then (.error (.invalidArgument "log source is empty"), service)
  else if (service.find config.sessionId).isSome then
    (.error (alreadyExists config.sessionId), service)
  else if service.shouldMirrorEntriesLocked config then
    service.insert
      { config := { config with minLevel := normalizeLevel config.minLevel }, mirrorEntries := true }
  else if service.hasRegistry then
    match devices.create config.driverFactory ⟨config.source, config.options⟩ with
    | none =>
        (.error (.unavailable
          ("log device factory not registered: " ++ idText config.driverFactory)), service)
    | some device => service.createOwn creates config (some device)
  else service.createOwn creates config none

/-- A call of a session that the service looks up. -/
def onSession {α : Type} (id : Bytes) (call : Session δ → Result α × Session δ) :
    Result α × LogService δ :=
  match service.find id with
  | none => (.error (notFound id), service)
  | some session =>
      let (status, session) := call session
      (status, service.put session)

def configureSession (id : Bytes) (config : LogSessionConfig) :
    Result LogSessionInfo × LogService δ :=
  service.onSession id fun session =>
    let (status, session) := session.configure devices creates config
    (status.map fun _ => session.infoFor, session)

def start (opens : Bytes → Bool) (id : Bytes) : Result Unit × LogService δ :=
  service.onSession id fun session => session.start devices opens

def stop (id : Bytes) : Result Unit × LogService δ :=
  service.onSession id fun session => session.stop devices

def closeSession (id : Bytes) : Result Unit × LogService δ :=
  match service.find id with
  | none => (.error (notFound id), service)
  | some _ => (.ok (), { service with sessions := Keyed.erase Session.id id service.sessions })

end LogService

end Sessions

end AudioStudio.Log.Sessions
