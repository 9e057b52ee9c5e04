import AudioStudio.Config.CommandLines
import AudioStudio.Config.ControlsCsv
import AudioStudio.Config.SofBasic
import AudioStudio.Config.Uuids
import AudioStudio.Core.Ends

/-!
# The run of the compiler

`ConfigService::compile` over whatever the drivers, the tools and the plugins answer.
-/

namespace AudioStudio.Config

open AudioStudio.Common
open AudioStudio.LittleEndian
open AudioStudio.Rpc

/-! ## Drivers -/

/-- The status that a driver returns. -/
structure Reported where
  code : StatusCode := .ok
  message : Bytes := []
  deriving DecidableEq, Repr

def Reported.check (status : Reported) : Parsed Unit :=
  if status.code = .ok then pure () else .error (.status status.code status.message)

def unavailable {α : Type} (message : String) : Parsed α :=
  .error (.status .unavailable (asciiBytes message))

def internal {α : Type} (message : Bytes) : Parsed α :=
  .error (.status .internal message)

/-- What the driver answers while a file is read: `data` is what is put into the buffer and
`readBytes` the length that is reported for it. -/
structure FileRead where
  created : Bool := true
  opened : Reported := {}
  size : Nat
  read : Reported := {}
  data : Bytes
  readBytes : Nat
  deriving DecidableEq, Repr

/-- `std::string::resize`. -/
def resize (count : Nat) (text : Bytes) : Bytes :=
  text.take count ++ List.replicate (count - text.length) 0

/-- `fits` says how long a string can be. -/
def readText (fits : Nat → Bool) (file : FileRead) : Parsed Bytes :=
  if file.created = false then internal (asciiBytes "failed to create file object")
  else do
    file.opened.check
    if fits file.size = false then raise "basic_string::_M_replace_aux"
    else if file.size = 0 then pure []
    else do
      file.read.check
      if file.size < file.readBytes ∧ fits file.readBytes = false then
        raise "basic_string::_M_replace_aux"
      else pure (resize file.readBytes (resize file.size file.data))

/-- What the driver answers while a file is written. -/
structure FileWrite where
  created : Bool := true
  opened : Reported := {}
  write : Reported := {}
  written : Nat
  flushed : Reported := {}
  deriving DecidableEq, Repr

def writeBytes (path bytes : Bytes) (file : FileWrite) : Parsed Unit :=
  if file.created = false then internal (asciiBytes "failed to create file object")
  else do
    file.opened.check
    file.write.check
    if file.written ≠ bytes.length then internal (asciiBytes "short write: " ++ path)
    else file.flushed.check

structure ToolRun where
  status : Reported := {}
  exitCode : Int := 0
  log : FileRead
  deriving DecidableEq, Repr

def alsaTopologyErrors : List Bytes :=
  ["ALSA lib", "undefined source widget", "undefined sink widget", "failed to",
    "Invalid argument"].map asciiBytes

def containsAlsaTopologyError (log : Bytes) : Bool :=
  alsaTopologyErrors.any fun error => (findText error log).isSome

/-! ## Requests and outputs -/

/-- The files that are written for every request. -/
inductive Artifact where
  | conf
  | privateBin
  | idsHeader
  | privateHeader
  | presetHeader
  | controlsCsv
  | report
  deriving DecidableEq, Repr

structure ConfigCompileRequest where
  inputPath : Bytes
  outputDir : Bytes
  projectName : Bytes := asciiBytes "a2"
  alsatplg : Bytes := asciiBytes "alsatplg"
  buildTplg : Bool
  deriving DecidableEq, Repr

structure ConfigCompileOutput where
  ok : Bool := false
  tplgBuilt : Bool := false
  tplgDecoded : Bool := false
  confPath : Bytes := []
  tplgPath : Bytes := []
  privateBinPath : Bytes := []
  idsHeaderPath : Bytes := []
  privateHeaderPath : Bytes := []
  presetHeaderPath : Bytes := []
  controlsCsvPath : Bytes := []
  reportPath : Bytes := []
  alsatplgLogPath : Bytes := []
  tplgDecodeConfPath : Bytes := []
  tplgDecodeLogPath : Bytes := []
  moduleTypeCount : Nat := 0
  moduleInstanceCount : Nat := 0
  pipelineCount : Nat := 0
  runtimeControlCount : Nat := 0
  installParamCount : Nat := 0
  presetCount : Nat := 0
  pluginCount : Nat := 0
  warnings : List Bytes := []
  deriving DecidableEq, Repr

def ConfigCompileOutput.path (output : ConfigCompileOutput) : Artifact → Bytes
  | .conf => output.confPath
  | .privateBin => output.privateBinPath
  | .idsHeader => output.idsHeaderPath
  | .privateHeader => output.privateHeaderPath
  | .presetHeader => output.presetHeaderPath
  | .controlsCsv => output.controlsCsvPath
  | .report => output.reportPath

/-- The texts that are generated beside the controls table; the conf is given what it asks of
its nodes. -/
structure Texts where
  buildPrivatePayload : ProjectIr → Bytes
  generateAlsaConf : ProjectIr → List PipelineTokens → Bytes → Bytes
  generateIdsHeader : ProjectIr → Bytes
  generatePrivateHeader : Bytes
  generatePresetHeader : ProjectIr → Bytes
  generateReport : ConfigCompileRequest → ConfigCompileOutput → Bytes

/-- What a run finds around it, with every answer that it gets: `imports` is
`loadImportedModuleTypes` and `alsatplg` `resolveAlsaTplgExecutable`. -/
structure Surroundings where
  filesystem : Bool := true
  os : Bool := true
  hostSupportsAlsaTplg : Bool := true
  joinPath : List Bytes → Bytes
  fits : Nat → Bool
  defaultPlugin : Reported := {}
  plugins : Reported := {}
  pluginCount : Nat := 0
  moduleConfigs : ModuleConfigRegistry
  outputDir : Reported := {}
  includeDir : Reported := {}
  input : FileRead
  imports : JsonValue → Parsed (List JsonValue)
  beside : Beside
  registry : UuidRegistry
  texts : Texts
  write : Artifact → FileWrite
  alsatplg : Bytes → Bytes
  build : ToolRun
  decode : ToolRun

/-! ## The run -/

/-- A file that has been written, or has been tried to. -/
structure WrittenFile where
  artifact : Artifact
  path : Bytes
  bytes : Bytes
  file : FileWrite
  deriving DecidableEq, Repr

/-- A command that has been run. -/
structure Ran where
  command : Bytes
  tool : ToolRun
  deriving DecidableEq, Repr

/-- The output, with what has been done to the outside. -/
structure CompileState where
  output : ConfigCompileOutput := {}
  writes : List WrittenFile := []
  runs : List Ran := []
  deriving DecidableEq, Repr

/-- A run that stops with an exception lets it escape; one that stops with a status returns it. -/
abbrev Compile (α : Type) := EStateM ConfigFault CompileState α

def prepare (around : Surroundings) (request : ConfigCompileRequest) : Parsed Unit :=
  if around.filesystem = false then unavailable "filesystem driver is not configured"
  else if request.inputPath = [] then invalidArgument "config input path is empty"
  else if request.outputDir = [] then invalidArgument "config output directory is empty"
  else if request.buildTplg = true ∧ around.hostSupportsAlsaTplg = false then
    unavailable "alsatplg compile/decode validation is supported on Linux hosts only; set build_tplg=false"
  else do
    around.defaultPlugin.check
    around.plugins.check
    around.outputDir.check
    around.includeDir.check

/-- The `try` block. -/
def parseInput (around : Surroundings) (request : ConfigCompileRequest) (text : Bytes) :
    Parsed ProjectIr := do
  let root ← SofBasic.parseText text
  let imported ← around.imports root
  compileProject around.beside around.moduleConfigs root request.projectName imported

/-- Its `catch`. -/
def caught {α : Type} : Parsed α → Parsed α
  | .error (.thrown what) => .error (.status .invalidArgument what)
  | result => result

def describe (around : Surroundings) (request : ConfigCompileRequest) (ir : ProjectIr) :
    ConfigCompileOutput :=
  let out (suffix : String) :=
    around.joinPath [request.outputDir, request.projectName ++ asciiBytes suffix]
  let header (name : String) :=
    around.joinPath [around.joinPath [request.outputDir, asciiBytes "include"], asciiBytes name]
  { confPath := out ".conf"
    tplgPath := out ".tplg"
    privateBinPath := out "_private.bin"
    idsHeaderPath := header "as_config_ids.h"
    privateHeaderPath := header "as_tplg_private.h"
    presetHeaderPath := header "as_preset_ids.h"
    controlsCsvPath := out "_controls.csv"
    reportPath := out "_compile_report.json"
    alsatplgLogPath := out "_alsatplg.log"
    tplgDecodeConfPath := out "_decode.conf"
    tplgDecodeLogPath := out "_decode.log"
    moduleTypeCount := ir.moduleTypes.length
    moduleInstanceCount := ir.instances.length
    pipelineCount := ir.pipelines.length
    runtimeControlCount := ir.controls.length
    installParamCount := ir.installParams.length
    presetCount := ir.presets.length
    pluginCount := around.pluginCount }

/-- `writeText` or `writeBytes` for an artifact. -/
def writeArtifact (around : Surroundings) (output : ConfigCompileOutput)
    (text : Artifact × Bytes) : Compile Unit := do
  let path := output.path text.1
  let file := around.write text.1
  modify fun state => { state with writes := state.writes ++ [⟨text.1, path, text.2, file⟩] }
  reply (writeBytes path text.2 file)

/-- What is written before the tool is run. -/
def artifactTexts (texts : Texts) (ir : ProjectIr) (tokens : List PipelineTokens) :
    List (Artifact × Bytes) :=
  let privateData := texts.buildPrivatePayload ir
  [(.conf, texts.generateAlsaConf ir tokens privateData), (.privateBin, privateData),
    (.idsHeader, texts.generateIdsHeader ir), (.privateHeader, texts.generatePrivateHeader),
    (.presetHeader, texts.generatePresetHeader ir), (.controlsCsv, generateControlsCsv ir)]

def writeArtifacts (around : Surroundings) (output : ConfigCompileOutput) :
    List (Artifact × Bytes) → Compile Unit
  | [] => pure ()
  | text :: rest => do
      writeArtifact around output text
      writeArtifacts around output rest

def runCommand (command : Bytes) (tool : ToolRun) : Compile Unit := do
  modify fun state => { state with runs := state.runs ++ [⟨command, tool⟩] }
  reply tool.status.check

def buildTplgCommand (around : Surroundings) (request : ConfigCompileRequest)
    (output : ConfigCompileOutput) : Bytes :=
  buildCommand (around.alsatplg request.alsatplg) output.confPath output.tplgPath
    output.alsatplgLogPath

def decodeTplgCommand (around : Surroundings) (request : ConfigCompileRequest)
    (output : ConfigCompileOutput) : Bytes :=
  decodeCommand (around.alsatplg request.alsatplg) output.tplgPath output.tplgDecodeConfPath
    output.tplgDecodeLogPath

/-- The log of the tool that builds is the judge of it. -/
def judgeBuild (around : Surroundings) (output : ConfigCompileOutput) : Parsed Unit :=
  if around.build.exitCode ≠ 0 then
    internal (asciiBytes "alsatplg failed with exit code " ++
      SofBasic.intText around.build.exitCode)
  else do
    let log ← readText around.fits around.build.log
    if containsAlsaTopologyError log then
      internal (asciiBytes "alsatplg reported topology errors; see " ++ output.alsatplgLogPath)
    else pure ()

/-- The topology is built and decoded again; what is given back are warnings. -/
def buildTopology (around : Surroundings) (request : ConfigCompileRequest)
    (output : ConfigCompileOutput) : Compile (List Bytes) := do
  reply (if around.os = true then pure () else unavailable "OS driver is not configured")
  runCommand (buildTplgCommand around request output) around.build
  reply (judgeBuild around output)
  modify fun state => { state with output := { state.output with tplgBuilt := true } }
  runCommand (decodeTplgCommand around request output) around.decode
  let decodeLog ← reply (readText around.fits around.decode.log)
  if around.decode.exitCode ≠ 0 ∨ containsAlsaTopologyError decodeLog then
    pure [asciiBytes "alsatplg decode is not available for this topology; see " ++
      output.tplgDecodeLogPath]
  else do
    modify fun state => { state with output := { state.output with tplgDecoded := true } }
    pure []

def finish (around : Surroundings) (request : ConfigCompileRequest) (warnings : List Bytes) :
    Compile Unit := do
  modify fun state => { state with output := { state.output with ok := true, warnings } }
  let state ← get
  writeArtifact around state.output
    (.report, around.texts.generateReport request state.output)

def compile (around : Surroundings) (request : ConfigCompileRequest) : Compile Unit := do
  reply (prepare around request)
  let text ← reply (readText around.fits around.input)
  let ir ← reply (caught (parseInput around request text))
  let output := describe around request ir
  modify fun state => { state with output }
  let tokens ← reply (confTokens around.registry ir)
  writeArtifacts around output (artifactTexts around.texts ir tokens)
  let warnings ← if request.buildTplg then buildTopology around request output else pure []
  finish around request warnings

end AudioStudio.Config
