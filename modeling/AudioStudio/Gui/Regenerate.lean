import AudioStudio.Config.Project
import AudioStudio.Core.Accumulate
import AudioStudio.Gui.ProjectPath
import Mathlib.Data.List.Count

/-!
# Projects regenerated from a snapshot

`regenerateProjectFromSnapshot` of `project_orchestration.cpp`: the pipelines and the module
instances that a drawn graph becomes.
-/

namespace AudioStudio.Gui

open AudioStudio.LittleEndian

/-! ## Snapshots -/

structure SnapshotNode where
  graphId : Bytes
  name : Bytes := []
  moduleType : Bytes
  pipelineId : Bytes := []
  pipelineNodeId : Bytes := []
  instRef : Bytes := []
  debugFileIo : Bool := false
  portDomains : List (Bytes × Bytes) := []
  deriving DecidableEq, Repr

structure SnapshotConnection where
  fromNode : Bytes
  fromPort : Bytes
  toNode : Bytes
  toPort : Bytes
  fromDomain : Bytes := []
  toDomain : Bytes := []
  deriving DecidableEq, Repr

structure SnapshotGroup where
  pipelineId : Bytes
  originPipelineIds : List Bytes := []
  nodeIds : List Bytes := []
  deriving DecidableEq, Repr

/-- What is read of the workspace file and the snapshot: the ids of the pipelines and the
objects of the module instances of the workspace, and what is drawn. -/
structure Drawing where
  originals : List Bytes := []
  originalInstances : List (Bytes × Bytes) := []
  nodes : List SnapshotNode
  connections : List SnapshotConnection
  groups : List SnapshotGroup
  deriving DecidableEq, Repr

/-! ## What is regenerated -/

/-- An instance of the workspace as it was, or a new one. -/
inductive InstanceObject where
  | original (json : Bytes)
  | generated (name moduleType : Bytes)
  deriving DecidableEq, Repr

structure RegeneratedInstance where
  instId : Bytes
  object : InstanceObject
  deriving DecidableEq, Repr

structure RegeneratedNode where
  nodeId : Bytes
  instRef : Bytes
  deriving DecidableEq, Repr

/-- The texts of `from` and `to`. -/
structure RegeneratedEdge where
  source : Bytes
  sink : Bytes
  deriving DecidableEq, Repr

structure RegeneratedPipeline where
  pipeId : Bytes
  nodes : List RegeneratedNode
  edges : List RegeneratedEdge
  deriving DecidableEq, Repr

structure RegeneratedProject where
  pipelines : List RegeneratedPipeline := []
  instances : List RegeneratedInstance := []
  deriving DecidableEq, Repr

/-! ## Ids -/

def colon : UInt8 := 0x3a

def isHostOrDaiModule (moduleType : Bytes) : Bool :=
  moduleType.map toLower ∈ ["builtin.host", "host", "builtin.dai", "dai"].map asciiBytes

def canonicalPortDomain (value : Bytes) : Bytes :=
  if value.map toLower = asciiBytes "external" then asciiBytes "external" else asciiBytes "sof"

def nodePortDomain (node : SnapshotNode) (port : Bytes) : Bytes :=
  canonicalPortDomain ((node.portDomains.lookup port).getD (asciiBytes "sof"))

def graphLocalNodeId (node : SnapshotNode) (pipeId : Bytes) : Bytes :=
  if node.pipelineNodeId ≠ [] then node.pipelineNodeId
  else
    let marker := asciiBytes "__"
    match findText marker node.graphId with
    | some markerPos => node.graphId.drop (markerPos + marker.length)
    | none =>
        let front := safeId pipeId ++ marker
        if front <+: node.graphId then node.graphId.drop front.length else safeId node.graphId

/-- The map of nodes by graph id: the last one of an id. -/
def nodeByGraphId (nodes : List SnapshotNode) (graphId : Bytes) : Option SnapshotNode :=
  nodes.reverse.find? (·.graphId = graphId)

def originPipeId (originals : List Bytes) (group : SnapshotGroup) : Bytes :=
  let byPipelineId := if group.pipelineId ∈ originals then group.pipelineId else []
  match group.originPipelineIds with
  | [origin] => if origin ∈ originals then origin else byPipelineId
  | _ => byPipelineId

def groupPipeId (originals : List Bytes) (group : SnapshotGroup) (index : Nat) : Bytes :=
  if originPipeId originals group ≠ [] then originPipeId originals group
  else if group.pipelineId ≠ [] then group.pipelineId
  else asciiBytes "GUI_PIPE_" ++ decimalText (index + 1)

/-- The nodes that a group lists, or else those of its pipeline. -/
def groupNodeIds (drawing : Drawing) (group : SnapshotGroup) (index : Nat) : List Bytes :=
  if group.nodeIds = [] then
    (drawing.nodes.filter fun node => node.pipelineId = group.pipelineId ∨
      node.pipelineId = groupPipeId drawing.originals group index ∨
      originPipeId drawing.originals group ≠ [] ∧
        node.pipelineId = originPipeId drawing.originals group).map SnapshotNode.graphId
  else group.nodeIds

/-- The nodes of a group that its pipeline gets. -/
def includedNodes (drawing : Drawing) (group : SnapshotGroup) (index : Nat) :
    List SnapshotNode :=
  ((groupNodeIds drawing group index).filterMap (nodeByGraphId drawing.nodes)).filter
    fun node => !node.debugFileIo

def instanceId (pipeId : Bytes) (node : SnapshotNode) : Bytes :=
  if node.instRef ≠ [] then node.instRef
  else safeId (pipeId ++ asciiBytes "_" ++ graphLocalNodeId node pipeId)

/-! ## Regenerating -/

/-- The diagnostics that end it. -/
def checkNode (drawing : Drawing) (node : SnapshotNode) : Except Bytes Unit :=
  if isHostOrDaiModule node.moduleType ∧ node.instRef = [] then
    .error (asciiBytes "HOST/DAI node requires inst_ref: " ++ node.graphId)
  else if node.moduleType = [] then
    .error (asciiBytes "pipeline node requires module_type: " ++ node.graphId)
  else if node.instRef ≠ [] ∧ drawing.originalInstances.lookup node.instRef = none then
    .error (asciiBytes "pipeline node references unknown inst_ref: " ++ node.instRef)
  else pure ()

def nodeInstance (drawing : Drawing) (pipeId : Bytes) (node : SnapshotNode) :
    RegeneratedInstance :=
  ⟨instanceId pipeId node,
    if node.instRef ≠ [] then
      .original ((drawing.originalInstances.lookup node.instRef).getD [])
    else
      let localId := graphLocalNodeId node pipeId
      .generated (if node.name = [] then localId else node.name) node.moduleType⟩

/-- An instance is added once, by its id. -/
def addModuleInstance (instances : List RegeneratedInstance) (inst : RegeneratedInstance) :
    List RegeneratedInstance :=
  if inst.instId = [] ∨ inst.instId ∈ instances.map RegeneratedInstance.instId then instances
  else instances ++ [inst]

def regeneratedNode (pipeId : Bytes) (node : SnapshotNode) : RegeneratedNode :=
  ⟨graphLocalNodeId node pipeId, instanceId pipeId node⟩

/-- The ends of a connection that lies in a pipeline, between ports of the firmware. -/
def connectedNodes (drawing : Drawing) (included : List SnapshotNode)
    (conn : SnapshotConnection) : Option (SnapshotNode × SnapshotNode) :=
  let ids := included.map SnapshotNode.graphId
  if conn.fromNode ∉ ids ∨ conn.toNode ∉ ids then none
  else match nodeByGraphId drawing.nodes conn.fromNode, nodeByGraphId drawing.nodes conn.toNode with
    | some source, some sink =>
        let fromDomain := if conn.fromDomain = [] then nodePortDomain source conn.fromPort
          else conn.fromDomain
        let toDomain := if conn.toDomain = [] then nodePortDomain sink conn.toPort
          else conn.toDomain
        if canonicalPortDomain fromDomain ≠ asciiBytes "sof" ∨
            canonicalPortDomain toDomain ≠ asciiBytes "sof" then none
        else some (source, sink)
    | _, _ => none

def edgeEnd (pipeId : Bytes) (node : SnapshotNode) (port : Bytes) : Bytes :=
  graphLocalNodeId node pipeId ++ [colon] ++ port

def regeneratedEdge (drawing : Drawing) (pipeId : Bytes) (included : List SnapshotNode)
    (conn : SnapshotConnection) : Option RegeneratedEdge :=
  (connectedNodes drawing included conn).map fun (source, sink) =>
    ⟨edgeEnd pipeId source conn.fromPort, edgeEnd pipeId sink conn.toPort⟩

def regenerateGroup (drawing : Drawing) (regenerated : RegeneratedProject)
    (item : SnapshotGroup × Nat) : Except Bytes RegeneratedProject := do
  let (group, index) := item
  let pipeId := groupPipeId drawing.originals group index
  let included := includedNodes drawing group index
  included.forM (checkNode drawing)
  pure {
    pipelines := regenerated.pipelines ++ [{
      pipeId
      nodes := included.map (regeneratedNode pipeId)
      edges := drawing.connections.filterMap (regeneratedEdge drawing pipeId included) }]
    instances := (included.map (nodeInstance drawing pipeId)).foldl addModuleInstance
      regenerated.instances }

def regenerateProjectFromSnapshot (drawing : Drawing) : Except Bytes RegeneratedProject :=
  if drawing.groups = [] then
    .error (asciiBytes "snapshot.working_groups is required to regenerate platform pipelines")
  else drawing.groups.zipIdx.foldlM (regenerateGroup drawing) {}

end AudioStudio.Gui
