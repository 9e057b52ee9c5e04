import AudioStudio.Config.Graph

/-!
# Parameter tables and presets

`buildParameterTables` and `buildPresets` of `config_service.cpp`: the runtime controls, the
install parameters and the presets of a project, and the stable ids of what is addressed by
them.
-/

namespace AudioStudio.Config

open AudioStudio.Common
open AudioStudio.LittleEndian
open AudioStudio.Rpc

/-! ## Stable ids -/

def kFnvOffset : UInt32 := 2166136261

def kFnvPrime : UInt32 := 16777619

def fnv1a32 (input : Bytes) : UInt32 :=
  let hash := input.foldl (fun hash ch => (hash ^^^ ch.toUInt32) * kFnvPrime) kFnvOffset
  if hash = 0 then 1 else hash

def stableUid (domain : String) (identity : Bytes) : UInt32 :=
  fnv1a32 (asciiBytes "as:" ++ asciiBytes domain ++ asciiBytes ":v1:" ++ identity)

def hexDigit (value : Nat) : UInt8 :=
  if value < 10 then 0x30 + value.toUInt8 else 0x37 + value.toUInt8

/-- `0x` and eight upper-case digits. -/
def hex32 (value : UInt32) : Bytes :=
  asciiBytes "0x" ++ [28, 24, 20, 16, 12, 8, 4, 0].map fun shift =>
    hexDigit (value.toNat / 2 ^ shift % 16)

/-- The identities that the uids met so far stand for. -/
abbrev UidTable := List (UInt32 × Bytes)

def addCheckedUid (used : UidTable) (uid : UInt32) (identity : Bytes) : Parsed UidTable :=
  match used.lookup uid with
  | none => pure ((uid, identity) :: used)
  | some other =>
      if other = identity then pure used
      else raise "stable id collision: " (identity ++ asciiBytes " collides with " ++ other ++
        asciiBytes " at " ++ hex32 uid)

def joined (parts : List Bytes) : Bytes :=
  (parts.intersperse (asciiBytes ":")).flatten

/-! ## Module configs -/

structure ModuleConfigRequest where
  moduleType : Bytes
  pipelineId : Bytes := []
  nodeId : Bytes := []
  instanceId : Bytes := []
  parameterId : Bytes := []
  presetId : Bytes := []
  moduleTypeJson : Bytes
  moduleInstanceJson : Bytes := []
  pipelineJson : Bytes := []
  nodeJson : Bytes := []
  parameterJson : Bytes := []
  presetEntryJson : Bytes := []
  valuesJson : Bytes := []
  deriving DecidableEq, Repr

structure ModuleConfigBlob where
  format : Bytes := asciiBytes "as-generic-json-v1"
  data : Bytes := []
  deriving DecidableEq, Repr

/-- A handler of a plugin; what it refuses is a status. -/
structure ModuleConfigHandler where
  moduleType : Bytes
  parseModuleType : ModuleConfigRequest → Parsed Unit := fun _ => .ok ()
  validatePreset : ModuleConfigRequest → Parsed Unit
  packPreset : ModuleConfigRequest → Parsed ModuleConfigBlob
  packInstallConfig : ModuleConfigRequest → Parsed ModuleConfigBlob
  packRuntimeParam : ModuleConfigRequest → Parsed ModuleConfigBlob

/-- The handlers of the builtin plugin and of those that were loaded. -/
abbrev ModuleConfigRegistry := List ModuleConfigHandler

/-- The first handler of the module type, or else the last one of any. -/
def findHandler (moduleConfigs : ModuleConfigRegistry) (moduleType : Bytes) :
    Parsed ModuleConfigHandler :=
  match moduleConfigs.find? (·.moduleType = moduleType) with
  | some handler => pure handler
  | none =>
      match moduleConfigs.reverse.find? (·.moduleType = asciiBytes "*") with
      | some handler => pure handler
      | none => .error (.status .unavailable
          (asciiBytes "no module config handler registered for module_type: " ++ moduleType))

def moduleTypeForNode (ir : ProjectIr) (node : NodeInfo) : Parsed ModuleTypeInfo :=
  match findModuleType ir.moduleTypes node.moduleType with
  | some type => pure type
  | none => raise "node module type not found: " node.moduleType

def instanceForNode (ir : ProjectIr) (node : NodeInfo) : Option InstanceInfo :=
  ir.instances.find? (·.instId = node.instId)

def makeModuleConfigRequest (ir : ProjectIr) (pipe : PipelineInfo) (node : NodeInfo)
    (param : Option ParameterInfo) (valuesJson : Bytes) (presetId : Bytes := [])
    (presetEntryJson : Bytes := []) : Parsed ModuleConfigRequest := do
  let type ← moduleTypeForNode ir node
  pure {
    moduleType := node.moduleType
    pipelineId := pipe.pipeId
    nodeId := node.nodeId
    instanceId := node.instId
    parameterId := (param.map ParameterInfo.paramId).getD []
    presetId
    moduleTypeJson := type.sourceJson
    moduleInstanceJson := ((instanceForNode ir node).map InstanceInfo.sourceJson).getD []
    pipelineJson := pipe.sourceJson
    nodeJson := node.sourceJson
    parameterJson := (param.map ParameterInfo.sourceJson).getD []
    presetEntryJson
    valuesJson }

/-! ## Defaults -/

def singleParamValuesJson (param : ParameterInfo) : Bytes :=
  [0x7b] ++ dumpString param.paramId ++ asciiBytes ":" ++ param.defaultJson ++
    [0x7d]

def allDefaultValuesJson (type : ModuleTypeInfo) : Bytes :=
  [0x7b] ++ ((type.parameters.map fun param =>
    dumpString param.paramId ++ asciiBytes ":" ++ param.defaultJson).intersperse
      (asciiBytes ",")).flatten ++ [0x7d]

def usesAggregateSofTopologyControl (moduleType : Bytes) : Bool :=
  moduleType ∈ ["filter.channel_remap", "filter.chremap", "delay.line", "delay.delay_line",
    "mix.fader_balance", "filter.dsp_filter"].map asciiBytes

def aggregateTopologyParamId (type : ModuleTypeInfo) : Bytes :=
  (type.parameters.head?.map ParameterInfo.paramId).getD []

def aggregateTopologyControlLabel (moduleType : Bytes) : Bytes :=
  if moduleType = asciiBytes "filter.channel_remap" ∨ moduleType = asciiBytes "filter.chremap" then
    asciiBytes "Channel Remap"
  else if moduleType = asciiBytes "delay.line" ∨ moduleType = asciiBytes "delay.delay_line" then
    asciiBytes "Delay Line"
  else if moduleType = asciiBytes "mix.fader_balance" then asciiBytes "Fader Balance"
  else if moduleType = asciiBytes "filter.dsp_filter" then asciiBytes "DSP Filter"
  else asciiBytes "Config"

/-- A control is called by its pipeline, its node and a label. -/
def controlLabel (pipe : PipelineInfo) (node : NodeInfo) (label : Bytes) : Bytes :=
  pipe.pipeId ++ asciiBytes " " ++ node.nodeId ++ asciiBytes " " ++ label

def controlName (pipe : PipelineInfo) (node : NodeInfo) (param : ParameterInfo) : Bytes :=
  controlLabel pipe node param.paramName

def aggregateTopologyControlName (pipe : PipelineInfo) (node : NodeInfo) : Bytes :=
  controlLabel pipe node (aggregateTopologyControlLabel node.moduleType)

def packParameterDefault (ir : ProjectIr) (moduleConfigs : ModuleConfigRegistry)
    (pipe : PipelineInfo) (node : NodeInfo) (param : ParameterInfo) (runtime : Bool) :
    Parsed ModuleConfigBlob := do
  let handler ← findHandler moduleConfigs node.moduleType
  let request ← makeModuleConfigRequest ir pipe node (some param) (singleParamValuesJson param)
  if runtime then handler.packRuntimeParam request else handler.packInstallConfig request

/-- The raw text that stands for the parameter of an aggregate. -/
def aggregateParameterJson : Bytes :=
  (JsonValue.object [(asciiBytes "param_id", .ofText "config"),
    (asciiBytes "param_name", .ofText "Config"), (asciiBytes "value_type", .ofText "bytes")]).dump

def packAggregateTopologyDefault (ir : ProjectIr) (moduleConfigs : ModuleConfigRegistry)
    (pipe : PipelineInfo) (node : NodeInfo) : Parsed ModuleConfigBlob := do
  let handler ← findHandler moduleConfigs node.moduleType
  let type ← moduleTypeForNode ir node
  let request ← makeModuleConfigRequest ir pipe node none (allDefaultValuesJson type)
  handler.packInstallConfig
    { request with parameterId := asciiBytes "config", parameterJson := aggregateParameterJson }

/-! ## Tables -/

structure Tables where
  used : UidTable
  controls : List ControlInfo := []
  installParams : List InstallParamInfo := []
  deriving DecidableEq, Repr

def paramUid (moduleType paramId : Bytes) : UInt32 :=
  stableUid "param" (joined [moduleType, paramId])

def addParamUid (type : ModuleTypeInfo) (used : UidTable) (param : ParameterInfo) :
    Parsed UidTable :=
  addCheckedUid used (paramUid type.typeId param.paramId)
    (joined [asciiBytes "param", type.typeId, param.paramId])

def addTypeUids (used : UidTable) (type : ModuleTypeInfo) : Parsed UidTable := do
  let used ← addCheckedUid used (stableUid "type" type.typeId)
    (joined [asciiBytes "type", type.typeId])
  type.parameters.foldlM (addParamUid type) used

/-- The control of a parameter that can be set while running; `aggregate` is the payload of
the one control that stands for all parameters of the node. -/
def runtimeControl (pipe : PipelineInfo) (node : NodeInfo) (type : ModuleTypeInfo)
    (param : ParameterInfo) (aggregate : Option ModuleConfigBlob) (blob : ModuleConfigBlob) :
    ControlInfo :=
  let control : ControlInfo := {
    pipeId := pipe.pipeId
    nodeId := node.nodeId
    instId := node.instId
    moduleType := node.moduleType
    paramId := param.paramId
    paramName := param.paramName
    valueType := param.valueType
    controlName := controlName pipe node param
    typeUid := stableUid "type" node.moduleType
    paramUid := paramUid node.moduleType param.paramId
    controlUid := stableUid "control"
      (joined [pipe.pipeId, node.nodeId, node.moduleType, param.paramId])
    rangePresent := param.rangePresent
    enumValues := param.enumValues
    configFormat := blob.format
    defaultPayload := blob.data }
  match aggregate with
  | none => control
  | some aggregateBlob =>
      if param.paramId = aggregateTopologyParamId type then
        { control with
          topologyControlName := aggregateTopologyControlName pipe node
          topologyDefaultPayload := aggregateBlob.data }
      else { control with emitTopology := false }

def controlIdentity (control : ControlInfo) : Bytes :=
  joined [asciiBytes "control", control.pipeId, control.nodeId, control.paramId]

/-- A parameter of a node: a control where it can be set while running, an install parameter
otherwise. -/
def addParameter (ir : ProjectIr) (moduleConfigs : ModuleConfigRegistry) (pipe : PipelineInfo)
    (node : NodeInfo) (type : ModuleTypeInfo) (aggregate : Option ModuleConfigBlob)
    (tables : Tables) (param : ParameterInfo) : Parsed Tables :=
  if asciiBytes "RUNNING" ∈ param.states then do
    let blob ← packParameterDefault ir moduleConfigs pipe node param true
    let control := runtimeControl pipe node type param aggregate blob
    let used ← addCheckedUid tables.used control.controlUid (controlIdentity control)
    pure { tables with used, controls := tables.controls ++ [control] }
  else do
    let blob ← packParameterDefault ir moduleConfigs pipe node param false
    let install : InstallParamInfo := {
      pipeId := pipe.pipeId
      nodeId := node.nodeId
      instId := node.instId
      moduleType := node.moduleType
      paramId := param.paramId
      paramUid := paramUid node.moduleType param.paramId
      configFormat := blob.format
      payload := blob.data }
    pure { tables with installParams := tables.installParams ++ [install] }

def addNode (ir : ProjectIr) (moduleConfigs : ModuleConfigRegistry) (pipe : PipelineInfo)
    (tables : Tables) (node : NodeInfo) : Parsed Tables :=
  if node.moduleType = [] then pure tables
  else do
    let type ← moduleTypeForNode ir node
    let aggregate ← (if usesAggregateSofTopologyControl node.moduleType then
        some <$> packAggregateTopologyDefault ir moduleConfigs pipe node
      else pure none)
    type.parameters.foldlM (addParameter ir moduleConfigs pipe node type aggregate) tables

def addPipeline (ir : ProjectIr) (moduleConfigs : ModuleConfigRegistry) (tables : Tables)
    (pipe : PipelineInfo) : Parsed Tables :=
  pipe.nodes.foldlM (addNode ir moduleConfigs pipe) tables

def buildParameterTables (ir : ProjectIr) (moduleConfigs : ModuleConfigRegistry) :
    Parsed ProjectIr := do
  let used ← ir.moduleTypes.foldlM addTypeUids []
  let tables ← ir.pipelines.foldlM (addPipeline ir moduleConfigs) { used }
  pure { ir with controls := tables.controls, installParams := tables.installParams }

/-- Handlers see the module types that they are for, and may refuse them. -/
def parseModuleTypeWithHandler (moduleConfigs : ModuleConfigRegistry) (type : ModuleTypeInfo) :
    Parsed Unit :=
  match moduleConfigs.find? (·.moduleType = type.typeId) with
  | none => pure ()
  | some handler =>
      handler.parseModuleType { moduleType := type.typeId, moduleTypeJson := type.sourceJson }

def parseModuleTypesWithHandlers (ir : ProjectIr) (moduleConfigs : ModuleConfigRegistry) :
    Parsed Unit :=
  ir.moduleTypes.forM (parseModuleTypeWithHandler moduleConfigs)

/-! ## Presets -/

/-- The node that an entry of a preset is for. -/
def presetNode (ir : ProjectIr) (pipelineId nodeId : Bytes) :
    Parsed (PipelineInfo × NodeInfo) :=
  match ir.pipelines.find? (·.pipeId = pipelineId) with
  | none => invalidArgument "preset references unknown pipeline: " pipelineId
  | some pipeline =>
      match findNode pipeline nodeId with
      | none => invalidArgument "preset references unknown node: "
          (pipelineId ++ asciiBytes "." ++ nodeId)
      | some node =>
          if node.moduleType = [] then
            invalidArgument "preset node is not a module: " (pipelineId ++ asciiBytes "." ++ nodeId)
          else pure (pipeline, node)

def presetEntry (ir : ProjectIr) (moduleConfigs : ModuleConfigRegistry) (presetId : Bytes)
    (entryJson : JsonValue) : Parsed PresetEntryInfo := do
  let pipelineId ← stringValue entryJson "pipeline_id"
  let nodeId ← stringValue entryJson "node_id"
  let (pipeline, node) ← presetNode ir pipelineId nodeId
  let values ← requiredObject entryJson "values"
  let handler ← findHandler moduleConfigs node.moduleType
  let request ← makeModuleConfigRequest ir pipeline node none values.dump presetId entryJson.dump
  handler.validatePreset request
  let blob ← handler.packPreset request
  pure {
    presetId, pipelineId, nodeId
    instId := node.instId
    moduleType := node.moduleType
    sourceJson := entryJson.dump
    configFormat := blob.format
    payload := blob.data }

/-- The transaction fields of a preset. -/
def presetTransaction (presetJson : JsonValue) : Parsed (Bool × Bool × Bytes) :=
  match presetJson.member (asciiBytes "transaction") with
  | some (.object members) => do
      let validateAll ← boolValue (.object members) "validate_all_before_apply" false
      let rollback ← boolValue (.object members) "rollback_on_error" false
      let applyOrder ← stringValue (.object members) "apply_order" (asciiBytes "as_listed")
      pure (validateAll, rollback, applyOrder)
  | _ => pure (false, false, asciiBytes "as_listed")

def buildPreset (ir : ProjectIr) (moduleConfigs : ModuleConfigRegistry) (presetJson : JsonValue) :
    Parsed PresetInfo := do
  let presetId ← stringValue presetJson "preset_id"
  let description ← stringValue presetJson "description"
  let loadMode ← stringValue presetJson "load_mode" (asciiBytes "bulk")
  if presetId = [] then invalidArgument "preset missing preset_id"
  else do
    let (validateAllBeforeApply, rollbackOnError, applyOrder) ← presetTransaction presetJson
    let entryItems ← requiredArray presetJson "node_values"
    let entries ← entryItems.mapM (presetEntry ir moduleConfigs presetId)
    pure { presetId, description, loadMode, validateAllBeforeApply, rollbackOnError, applyOrder,
           presetUid := stableUid "preset" presetId, entries }

def buildPresets (root : JsonValue) (ir : ProjectIr) (moduleConfigs : ModuleConfigRegistry) :
    Parsed ProjectIr :=
  match root.member (asciiBytes "presets") with
  | none => pure ir
  | some _ => do
      let items ← requiredArray root "presets"
      let presets ← items.mapM (buildPreset ir moduleConfigs)
      pure { ir with presets }

/-- What `compile` makes of the text of a project before it writes anything. -/
def compileProject (beside : Beside) (moduleConfigs : ModuleConfigRegistry) (root : JsonValue)
    (projectName : Bytes) (importedModuleTypes : List JsonValue) : Parsed ProjectIr := do
  let ir ← parseProject beside root projectName importedModuleTypes
  parseModuleTypesWithHandlers ir moduleConfigs
  let ir ← buildParameterTables ir moduleConfigs
  buildPresets root ir moduleConfigs

/-! ## What the tables hold -/

/-- The pipeline and the node that a control belongs to. -/
def HasNode (pipelines : List PipelineInfo) (control : ControlInfo) : Prop :=
  ∃ pipeline ∈ pipelines, ∃ node ∈ pipeline.nodes,
    control.pipeId = pipeline.pipeId ∧ control.nodeId = node.nodeId

theorem runtimeControl_ids (pipe : PipelineInfo) (node : NodeInfo) (type : ModuleTypeInfo)
    (param : ParameterInfo) (aggregate : Option ModuleConfigBlob) (blob : ModuleConfigBlob) :
    (runtimeControl pipe node type param aggregate blob).pipeId = pipe.pipeId ∧
      (runtimeControl pipe node type param aggregate blob).nodeId = node.nodeId ∧
      (runtimeControl pipe node type param aggregate blob).paramId = param.paramId ∧
      (runtimeControl pipe node type param aggregate blob).controlUid = stableUid "control"
        (joined [pipe.pipeId, node.nodeId, node.moduleType, param.paramId]) := by
  unfold runtimeControl
  split
  · exact ⟨rfl, rfl, rfl, rfl⟩
  · dsimp only
    split
    · exact ⟨rfl, rfl, rfl, rfl⟩
    · exact ⟨rfl, rfl, rfl, rfl⟩

section Rounds

variable {ir : ProjectIr} {moduleConfigs : ModuleConfigRegistry}

/-- What a round for a parameter does: at most one control more, whose uid is in the table. -/
theorem addParameter_cases {pipe : PipelineInfo} {node : NodeInfo} {type : ModuleTypeInfo}
    {aggregate : Option ModuleConfigBlob} {tables tables' : Tables} {param : ParameterInfo}
    (hround : addParameter ir moduleConfigs pipe node type aggregate tables param = .ok tables') :
    (tables'.used = tables.used ∧ tables'.controls = tables.controls) ∨
      ∃ blob, addCheckedUid tables.used
          (runtimeControl pipe node type param aggregate blob).controlUid
          (controlIdentity (runtimeControl pipe node type param aggregate blob)) =
            .ok tables'.used ∧
        tables'.controls =
          tables.controls ++ [runtimeControl pipe node type param aggregate blob] := by
  unfold addParameter at hround
  split at hround
  · obtain ⟨blob, _, hround⟩ := bind_eq_ok hround
    obtain ⟨used, hused, hround⟩ := bind_eq_ok hround
    cases hround
    exact .inr ⟨blob, hused, rfl⟩
  · obtain ⟨blob, _, hround⟩ := bind_eq_ok hround
    cases hround
    exact .inl ⟨rfl, rfl⟩

/-- What every parameter of every node preserves holds after the loops. -/
theorem buildParameterTables_preserves {invariant : Tables → Prop}
    (hround : ∀ pipe ∈ ir.pipelines, ∀ node ∈ pipe.nodes, ∀ type aggregate tables param tables',
      invariant tables →
        addParameter ir moduleConfigs pipe node type aggregate tables param = .ok tables' →
          invariant tables')
    (hstart : ∀ used, ir.moduleTypes.foldlM addTypeUids [] = .ok used → invariant { used })
    {built : ProjectIr}
    (hbuild : buildParameterTables ir moduleConfigs = .ok built) :
    ∃ tables, invariant tables ∧ built =
      { ir with controls := tables.controls, installParams := tables.installParams } := by
  unfold buildParameterTables at hbuild
  obtain ⟨used, hused, hbuild⟩ := bind_eq_ok hbuild
  obtain ⟨tables, htables, hbuild⟩ := bind_eq_ok hbuild
  cases hbuild
  refine ⟨tables, ?_, rfl⟩
  refine foldlM_preserves ?_ htables (hstart used hused)
  intro before pipe hpipe after hbefore hpipeline
  refine foldlM_preserves ?_ hpipeline hbefore
  intro before node hnode after hbefore hadd
  unfold addNode at hadd
  split at hadd
  · cases hadd
    exact hbefore
  · obtain ⟨type, _, hadd⟩ := bind_eq_ok hadd
    obtain ⟨aggregate, _, hadd⟩ := bind_eq_ok hadd
    refine foldlM_preserves ?_ hadd hbefore
    intro before param _ after hbefore hparam
    exact hround pipe hpipe node hnode type aggregate before param after hbefore hparam

end Rounds

/-- Every control belongs to a node. -/
theorem buildParameterTables_hasNode {ir built : ProjectIr} {moduleConfigs : ModuleConfigRegistry}
    (hbuild : buildParameterTables ir moduleConfigs = .ok built) :
    ∀ control ∈ built.controls, HasNode built.pipelines control := by
  have hround : ∀ pipe ∈ ir.pipelines, ∀ node ∈ pipe.nodes, ∀ type aggregate tables param tables',
      (∀ control ∈ tables.controls, HasNode ir.pipelines control) →
        addParameter ir moduleConfigs pipe node type aggregate tables param = .ok tables' →
          ∀ control ∈ tables'.controls, HasNode ir.pipelines control := by
    intro pipe hpipe node hnode type aggregate tables param tables' hbefore hadd control hmem
    rcases addParameter_cases hadd with ⟨_, hsame⟩ | ⟨blob, _, hmore⟩
    · rw [hsame] at hmem
      exact hbefore control hmem
    · rw [hmore] at hmem
      rcases List.mem_append.mp hmem with hold | hnew
      · exact hbefore control hold
      · rw [List.mem_singleton.mp hnew]
        have hids := runtimeControl_ids pipe node type param aggregate blob
        exact ⟨pipe, hpipe, node, hnode, hids.1, hids.2.1⟩
  obtain ⟨tables, hcontrols, rfl⟩ := buildParameterTables_preserves hround
    (fun used _ control hmem => nomatch hmem) hbuild
  exact hcontrols

theorem buildPresets_eq {root : JsonValue} {ir built : ProjectIr}
    {moduleConfigs : ModuleConfigRegistry}
    (hbuild : buildPresets root ir moduleConfigs = .ok built) :
    ∃ presets, built = { ir with presets } := by
  unfold buildPresets at hbuild
  split at hbuild
  · cases hbuild
    exact ⟨ir.presets, rfl⟩
  · obtain ⟨items, _, hbuild⟩ := bind_eq_ok hbuild
    obtain ⟨presets, _, hbuild⟩ := bind_eq_ok hbuild
    cases hbuild
    exact ⟨presets, rfl⟩

/-- What `compile` went through. -/
theorem compileProject_cases {beside : Beside} {moduleConfigs : ModuleConfigRegistry}
    {root : JsonValue} {projectName : Bytes} {importedModuleTypes : List JsonValue}
    {ir : ProjectIr}
    (hcompile : compileProject beside moduleConfigs root projectName importedModuleTypes = .ok ir) :
    ∃ parsed built, parseProject beside root projectName importedModuleTypes = .ok parsed ∧
      buildParameterTables parsed moduleConfigs = .ok built ∧
      buildPresets root built moduleConfigs = .ok ir := by
  unfold compileProject at hcompile
  obtain ⟨parsed, hparsed, hcompile⟩ := bind_eq_ok hcompile
  obtain ⟨_, _, hcompile⟩ := bind_eq_ok hcompile
  obtain ⟨built, hbuilt, hcompile⟩ := bind_eq_ok hcompile
  exact ⟨parsed, built, hparsed, hbuilt, hcompile⟩

theorem compileProject_hasNode {beside : Beside} {moduleConfigs : ModuleConfigRegistry}
    {root : JsonValue} {projectName : Bytes} {importedModuleTypes : List JsonValue}
    {ir : ProjectIr}
    (hcompile : compileProject beside moduleConfigs root projectName importedModuleTypes = .ok ir) :
    ∀ control ∈ ir.controls, HasNode ir.pipelines control := by
  obtain ⟨parsed, built, _, hbuilt, hpresets⟩ := compileProject_cases hcompile
  have howned := buildParameterTables_hasNode hbuilt
  obtain ⟨presets, rfl⟩ := buildPresets_eq hpresets
  exact howned

end AudioStudio.Config
