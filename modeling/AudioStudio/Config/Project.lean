import AudioStudio.Common.Status
import AudioStudio.Rpc.Endpoint
import Mathlib.Data.List.Infix
import Mathlib.Data.List.Sort

/-!
# Projects of the config compiler

`parseProject` of `config_service.cpp`: module types, instances, pipelines and their
nodes, with the identifiers that everything else is named by.
-/

namespace AudioStudio.Config

open AudioStudio.Common
open AudioStudio.LittleEndian
open AudioStudio.Rpc

/-- An exception, or a status that is not ok. -/
inductive ConfigFault where
  | thrown (what : Bytes)
  | status (code : StatusCode) (message : Bytes)
  deriving DecidableEq, Repr

abbrev Parsed (α : Type) := Except ConfigFault α

def raise {α : Type} (message : String) (subject : Bytes := []) : Parsed α :=
  .error (.thrown (asciiBytes message ++ subject))

def invalidArgument {α : Type} (message : String) (subject : Bytes := []) : Parsed α :=
  .error (.status .invalidArgument (asciiBytes message ++ subject))

/-! ## Fields -/

def stringValue (object : JsonValue) (key : String) (fallback : Bytes := []) : Parsed Bytes :=
  match object.member (asciiBytes key) with
  | none | some .null => .ok fallback
  | some (.string text) => .ok text
  | some _ => raise "JSON field must be string: " (asciiBytes key)

def boolValue (object : JsonValue) (key : String) (fallback : Bool) : Parsed Bool :=
  match object.member (asciiBytes key) with
  | none | some .null => .ok fallback
  | some (.bool value) => .ok value
  | some _ => raise "JSON field must be bool: " (asciiBytes key)

def requiredArray (object : JsonValue) (key : String) : Parsed (List JsonValue) :=
  match object.member (asciiBytes key) with
  | some (.array items) => .ok items
  | _ => raise "JSON field must be array: " (asciiBytes key)

def requiredObject (object : JsonValue) (key : String) : Parsed JsonValue :=
  match object.member (asciiBytes key) with
  | some (.object members) => .ok (.object members)
  | _ => raise "JSON field must be object: " (asciiBytes key)

def arrayString (key : String) : JsonValue → Parsed Bytes
  | .string text => .ok text
  | _ => raise "JSON array item must be string: " (asciiBytes key)

def stringArray (object : JsonValue) (key : String) : Parsed (List Bytes) :=
  match object.member (asciiBytes key) with
  | none | some .null => .ok []
  | some (.array items) => items.mapM (arrayString key)
  | some _ => raise "JSON field must be array: " (asciiBytes key)

def defaultJson (param : JsonValue) : Bytes :=
  match param.member (asciiBytes "default") with
  | none => asciiBytes "null"
  | some value => value.dump

/-! ## The project -/

structure ParameterInfo where
  paramId : Bytes
  paramName : Bytes
  valueType : Bytes
  sourceJson : Bytes
  defaultJson : Bytes
  rangePresent : Bool := false
  enumValues : List Bytes := []
  applyMode : Bytes := []
  states : List Bytes := []
  deriving DecidableEq, Repr

structure ModuleTypeInfo where
  typeId : Bytes
  category : Bytes
  moduleClass : Bytes
  moduleUuid : Bytes
  sourceJson : Bytes
  parameters : List ParameterInfo
  deriving DecidableEq, Repr

/-- A port, or the endpoint of a host or DAI instance.  `has_dai_index` and `dai_index` are one
option. -/
structure PortInfo where
  portId : Bytes
  role : Bytes := []
  daiId : Bytes := []
  transport : Bytes := []
  hwId : Bytes := []
  daiIndex : Option UInt32 := none
  deriving DecidableEq, Repr

/-- `endpoint_present` and `endpoint` are one option. -/
structure InstanceInfo where
  instId : Bytes
  name : Bytes
  moduleType : Bytes
  sourceJson : Bytes
  endpoint : Option PortInfo := none
  deriving DecidableEq, Repr

structure NodeInfo where
  nodeId : Bytes
  kind : Bytes
  instId : Bytes
  name : Bytes
  moduleType : Bytes := []
  widgetName : Bytes
  sourceJson : Bytes
  endpoint : Option PortInfo := none
  deriving DecidableEq, Repr

structure EdgeInfo where
  fromNode : Bytes
  toNode : Bytes
  deriving DecidableEq, Repr

structure PipelineInfo where
  pipeId : Bytes
  name : Bytes
  domain : Bytes
  direction : Bytes
  sourceJson : Bytes
  ports : List PortInfo
  nodes : List NodeInfo
  edges : List EdgeInfo
  deriving DecidableEq, Repr

structure ControlInfo where
  pipeId : Bytes
  nodeId : Bytes
  instId : Bytes
  moduleType : Bytes
  paramId : Bytes
  paramName : Bytes
  valueType : Bytes
  controlName : Bytes
  typeUid : UInt32
  paramUid : UInt32
  controlUid : UInt32
  rangePresent : Bool := false
  enumValues : List Bytes := []
  configFormat : Bytes
  defaultPayload : Bytes
  emitTopology : Bool := true
  topologyControlName : Bytes := []
  topologyDefaultPayload : Bytes := []
  deriving DecidableEq, Repr

structure InstallParamInfo where
  pipeId : Bytes
  nodeId : Bytes
  instId : Bytes
  moduleType : Bytes
  paramId : Bytes
  paramUid : UInt32
  configFormat : Bytes
  payload : Bytes
  deriving DecidableEq, Repr

structure PresetEntryInfo where
  presetId : Bytes
  pipelineId : Bytes
  nodeId : Bytes
  instId : Bytes
  moduleType : Bytes
  sourceJson : Bytes
  configFormat : Bytes
  payload : Bytes
  deriving DecidableEq, Repr

structure PresetInfo where
  presetId : Bytes
  description : Bytes
  loadMode : Bytes
  validateAllBeforeApply : Bool := false
  rollbackOnError : Bool := false
  applyOrder : Bytes := asciiBytes "as_listed"
  presetUid : UInt32
  entries : List PresetEntryInfo
  deriving DecidableEq, Repr

/-- The maps of the source are their values, in the order of their keys. -/
structure ProjectIr where
  projectName : Bytes
  moduleTypes : List ModuleTypeInfo := []
  instances : List InstanceInfo := []
  pipelines : List PipelineInfo := []
  controls : List ControlInfo := []
  installParams : List InstallParamInfo := []
  presets : List PresetInfo := []
  deriving DecidableEq, Repr

/-! ## Parsing -/

/-- What is parsed beside the identifiers: the UUID of a module type, the limits and the
enumeration of a parameter, the resource catalog, the endpoint of an instance, the frame and
the scheduling of a pipeline, and its ports.  These can refuse a project. -/
structure Beside where
  moduleUuidValue : JsonValue → Parsed Bytes
  parameter : JsonValue → Parsed (List Bytes)
  parseResourceCatalog : JsonValue → Parsed Unit
  parseEndpointModuleInstance : JsonValue → Parsed PortInfo
  scheduling : JsonValue → JsonValue → Parsed Unit
  parsePort : JsonValue → JsonValue → JsonValue → Parsed PortInfo

/-- `std::map::emplace` for a new key, by the key that the value carries. -/
def emplaceBy {α : Type} (key : α → Bytes) (value : α) (entries : List α) : Option (List α) :=
  if entries.any (key · = key value) then none
  else some (entries.orderedInsert (fun first second => key first ≤ key second) value)

def parseApply (item : JsonValue) : Parsed (Bytes × List Bytes) :=
  match item.member (asciiBytes "apply") with
  | some (.object members) => do
      let applyMode ← stringValue (.object members) "mode"
      let states ← stringArray (.object members) "settable_states"
      pure (applyMode, states)
  | _ => pure ([], [])

def rangePresent (param : JsonValue) : Bool :=
  match param.member (asciiBytes "range") with
  | none | some .null => false
  | some _ => true

def parseParameter (beside : Beside) (typeId : Bytes) (item : JsonValue) :
    Parsed ParameterInfo := do
  let paramId ← stringValue item "param_id"
  if paramId = [] then raise "parameter missing param_id in " typeId
  else do
    let paramName ← stringValue item "param_name" paramId
    let valueType ← stringValue item "value_type" (asciiBytes "bytes")
    let enumValues ← beside.parameter item
    let (applyMode, states) ← parseApply item
    pure { paramId, paramName, valueType, sourceJson := item.dump,
           defaultJson := defaultJson item, rangePresent := rangePresent item, enumValues,
           applyMode, states }

def parseParameters (beside : Beside) (typeId : Bytes) (object : JsonValue) :
    Parsed (List ParameterInfo) :=
  match object.member (asciiBytes "parameters") with
  | none => pure []
  | some _ => do
      let items ← requiredArray object "parameters"
      items.mapM (parseParameter beside typeId)

def parseModuleType (beside : Beside) (object : JsonValue) : Parsed ModuleTypeInfo := do
  let typeId ← stringValue object "type_id"
  if typeId = [] then raise "module type missing type_id"
  else do
    let category ← stringValue object "category"
    let moduleClass ← stringValue object "module_class"
    let moduleUuid ← beside.moduleUuidValue object
    if moduleClass = asciiBytes "MODULE_ADAPTER" ∧ moduleUuid = [] then
      raise "MODULE_ADAPTER module type must declare module_uuid: " typeId
    else do
      let parameters ← parseParameters beside typeId object
      pure { typeId, category, moduleClass, moduleUuid, sourceJson := object.dump, parameters }

/-- One more module type; `message` is what a duplicate throws. -/
def addModuleType (beside : Beside) (message : String) (types : List ModuleTypeInfo)
    (item : JsonValue) : Parsed (List ModuleTypeInfo) := do
  let type ← parseModuleType beside item
  match emplaceBy ModuleTypeInfo.typeId type types with
  | none => raise message
  | some types => pure types

def isHostModuleType (moduleType : Bytes) : Bool :=
  moduleType = asciiBytes "builtin.host" ∨ moduleType = asciiBytes "host"

def isDaiModuleType (moduleType : Bytes) : Bool :=
  moduleType = asciiBytes "builtin.dai" ∨ moduleType = asciiBytes "dai"

def findModuleType (types : List ModuleTypeInfo) (typeId : Bytes) : Option ModuleTypeInfo :=
  types.find? (·.typeId = typeId)

def parseInstance (beside : Beside) (types : List ModuleTypeInfo) (item : JsonValue) :
    Parsed InstanceInfo := do
  let instId ← stringValue item "inst_id"
  let name ← stringValue item "name" instId
  let moduleType ← stringValue item "module_type"
  if instId = [] ∨ moduleType = [] then raise "module instance is missing inst_id or module_type"
  else if findModuleType types moduleType = none then
    raise "module instance references unknown module_type: " moduleType
  else if isHostModuleType moduleType ∨ isDaiModuleType moduleType then do
    let endpoint ← beside.parseEndpointModuleInstance item
    pure { instId, name, moduleType, sourceJson := item.dump, endpoint := some endpoint }
  else pure { instId, name, moduleType, sourceJson := item.dump }

def addInstance (beside : Beside) (types : List ModuleTypeInfo) (instances : List InstanceInfo)
    (item : JsonValue) : Parsed (List InstanceInfo) := do
  let inst ← parseInstance beside types item
  match emplaceBy InstanceInfo.instId inst instances with
  | none => raise "duplicate module instance"
  | some instances => pure instances

/-- What a node refers to, by its kind. -/
def parseNodeTarget (types : List ModuleTypeInfo) (instances : List InstanceInfo)
    (pipeId nodeId kind : Bytes) (nodeJson : JsonValue) : Parsed NodeInfo := do
  let sourceJson := nodeJson.dump
  let widgetName := pipeId ++ asciiBytes "." ++ nodeId
  if kind = asciiBytes "module" then do
    let instId ← stringValue nodeJson "inst_ref"
    match instances.find? (·.instId = instId) with
    | none => raise "node references unknown inst_ref: " instId
    | some inst => pure { nodeId, kind, instId, name := inst.name, moduleType := inst.moduleType,
                          widgetName, sourceJson, endpoint := inst.endpoint }
  else if kind = asciiBytes "module_inline" then do
    let inlineObject ← requiredObject nodeJson "inline"
    let name ← stringValue inlineObject "name" nodeId
    let moduleType ← stringValue inlineObject "module_type"
    if findModuleType types moduleType = none then
      raise "inline node references unknown module_type: " moduleType
    else pure { nodeId, kind, name, moduleType, widgetName, sourceJson,
                instId := pipeId ++ asciiBytes "." ++ nodeId ++ asciiBytes ".__inline" }
  else do
    let instId ← stringValue nodeJson "port_ref" nodeId
    pure { nodeId, kind, instId, name := nodeId, widgetName, sourceJson }

def parseNode (types : List ModuleTypeInfo) (instances : List InstanceInfo) (pipeId : Bytes)
    (nodeJson : JsonValue) : Parsed NodeInfo := do
  let nodeId ← stringValue nodeJson "node_id"
  let kind ← stringValue nodeJson "kind"
  if nodeId = [] then raise "pipeline node missing node_id in " pipeId
  else parseNodeTarget types instances pipeId nodeId kind nodeJson

/-- A domain that speaks of capture or radio, wherever in its text. -/
def directionForPipeline (domain : Bytes) : Bytes :=
  if asciiBytes "capture" <:+: domain ∨ asciiBytes "radio" <:+: domain then asciiBytes "capture"
  else asciiBytes "playback"

/-- The text up to the first colon. -/
def graphNodeFromEndpoint (endpoint : Bytes) : Bytes :=
  endpoint.takeWhile (· ≠ 0x3a)

def parseEdge (edgeJson : JsonValue) : Parsed EdgeInfo := do
  let fromNode ← stringValue edgeJson "from"
  let toNode ← stringValue edgeJson "to"
  pure ⟨graphNodeFromEndpoint fromNode, graphNodeFromEndpoint toNode⟩

/-- The `edges` array as it is written. -/
def readEdges (item : JsonValue) : Parsed (List EdgeInfo) :=
  match item.member (asciiBytes "edges") with
  | none => pure []
  | some _ => do
      let items ← requiredArray item "edges"
      items.mapM parseEdge

/-- Edges without one of their ends are left out. -/
def parseEdges (item : JsonValue) : Parsed (List EdgeInfo) := do
  let edges ← readEdges item
  pure (edges.filter fun edge => edge.fromNode ≠ [] ∧ edge.toNode ≠ [])

def parsePorts (beside : Beside) (root item : JsonValue) : Parsed (List PortInfo) :=
  match item.member (asciiBytes "ports") with
  | some (.array items) => items.mapM (beside.parsePort root item)
  | _ => pure []

/-- The endpoint of a node is a port of its pipeline, unless there is one of that name. -/
def addEndpointPort (ports : List PortInfo) (node : NodeInfo) : List PortInfo :=
  match node.endpoint with
  | none => ports
  | some endpoint =>
      let endpoint := if endpoint.portId = [] then { endpoint with portId := node.instId }
        else endpoint
      if ports.any (·.portId = endpoint.portId) then ports else ports ++ [endpoint]

def parsePipeline (beside : Beside) (root : JsonValue) (types : List ModuleTypeInfo)
    (instances : List InstanceInfo) (item : JsonValue) : Parsed PipelineInfo := do
  let pipeId ← stringValue item "pipe_id"
  let name ← stringValue item "name" pipeId
  let domain ← stringValue item "domain"
  beside.scheduling root item
  let ports ← parsePorts beside root item
  let nodeItems ← requiredArray item "nodes"
  let nodes ← nodeItems.mapM (parseNode types instances pipeId)
  let edges ← parseEdges item
  pure { pipeId, name, domain, direction := directionForPipeline domain,
         sourceJson := item.dump, ports := nodes.foldl addEndpointPort ports, nodes, edges }

def parseProject (beside : Beside) (root : JsonValue) (projectName : Bytes)
    (importedModuleTypes : List JsonValue) : Parsed ProjectIr := do
  beside.parseResourceCatalog root
  let imported ← importedModuleTypes.foldlM
    (addModuleType beside "duplicate imported module type") []
  let typeItems ← requiredArray root "module_types"
  let moduleTypes ← typeItems.foldlM (addModuleType beside "duplicate module type") imported
  let instanceItems ← requiredArray root "module_instances"
  let instances ← instanceItems.foldlM (addInstance beside moduleTypes) []
  let pipelineItems ← requiredArray root "pipelines"
  let pipelines ← pipelineItems.mapM (parsePipeline beside root moduleTypes instances)
  pure { projectName := if projectName = [] then asciiBytes "a2" else projectName,
         moduleTypes, instances, pipelines }

end AudioStudio.Config
