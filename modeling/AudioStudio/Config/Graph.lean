import AudioStudio.Config.Project
import AudioStudio.Core.Accumulate
import Mathlib.Data.List.Count
import Mathlib.Data.List.Perm.Basic

/-!
# The graph of a pipeline

The `SectionWidget` and `SectionGraph` blocks that `generateAlsaConf` writes for a pipeline,
and when they are the graph that the project draws.
-/

namespace AudioStudio.Config

open AudioStudio.Common
open AudioStudio.LittleEndian
open AudioStudio.Rpc

/-! ## Widgets -/

def findNode (pipeline : PipelineInfo) (nodeId : Bytes) : Option NodeInfo :=
  pipeline.nodes.find? (·.nodeId = nodeId)

def findPort (pipeline : PipelineInfo) (node : NodeInfo) : Option PortInfo :=
  match node.endpoint with
  | some endpoint => some endpoint
  | none =>
      if node.kind ≠ asciiBytes "port" then none
      else pipeline.ports.find? (·.portId = node.instId)

def isDaiPortWidget (pipeline : PipelineInfo) (node : NodeInfo) : Bool :=
  if isDaiModuleType node.moduleType then true
  else match findPort pipeline node with
    | none => false
    | some port =>
        if pipeline.direction = asciiBytes "playback" then port.role = asciiBytes "sink"
        else if pipeline.direction = asciiBytes "capture" then port.role = asciiBytes "source"
        else port.hwId ≠ []

def isHostPortWidget (pipeline : PipelineInfo) (node : NodeInfo) : Bool :=
  if isHostModuleType node.moduleType then true
  else match findPort pipeline node with
    | none => false
    | some port =>
        if pipeline.direction = asciiBytes "playback" then port.role = asciiBytes "source"
        else if pipeline.direction = asciiBytes "capture" then port.role = asciiBytes "sink"
        else false

def sofWidgetType (pipeline : PipelineInfo) (node : NodeInfo) : Bytes :=
  if node.kind = asciiBytes "port" ∨ isHostPortWidget pipeline node ∨
      isDaiPortWidget pipeline node then
    if isDaiPortWidget pipeline node then
      if pipeline.direction = asciiBytes "capture" then asciiBytes "dai_out"
      else asciiBytes "dai_in"
    else if pipeline.direction = asciiBytes "capture" then asciiBytes "aif_out"
    else asciiBytes "aif_in"
  else if node.moduleType = asciiBytes "gain.volume" then asciiBytes "pga"
  else if node.moduleType = asciiBytes "mix.mixer" then asciiBytes "mixer"
  else if node.moduleType = asciiBytes "rate.src" then asciiBytes "src"
  else if node.moduleType = asciiBytes "rate.asrc" then asciiBytes "asrc"
  else asciiBytes "effect"

/-- A `SectionWidget` block, by its name and its type. -/
structure SectionWidget where
  name : Bytes
  type : Bytes
  deriving DecidableEq, Repr

/-- Names of a pipeline's own widgets are prefixed by its id. -/
def PipelineInfo.widgetName (pipeline : PipelineInfo) (suffix : Bytes) : Bytes :=
  pipeline.pipeId ++ asciiBytes "." ++ suffix

def bufferSuffix (edgeIndex : Nat) : Bytes :=
  asciiBytes "BUF" ++ decimalText edgeIndex

def inferredBufferName (pipeline : PipelineInfo) (edgeIndex : Nat) : Bytes :=
  pipeline.widgetName (bufferSuffix edgeIndex)

def emitPipelineScheduler (pipeline : PipelineInfo) : SectionWidget :=
  ⟨pipeline.widgetName (asciiBytes "SCHED"), asciiBytes "scheduler"⟩

def emitSofWidgetData (pipeline : PipelineInfo) (node : NodeInfo) : SectionWidget :=
  ⟨node.widgetName, sofWidgetType pipeline node⟩

/-- Both ends of an edge, if the pipeline has them. -/
def edgeNodes (pipeline : PipelineInfo) (edge : EdgeInfo) : Option (NodeInfo × NodeInfo) :=
  match findNode pipeline edge.fromNode, findNode pipeline edge.toNode with
  | some source, some sink => some (source, sink)
  | _, _ => none

def emitInferredBuffers (pipeline : PipelineInfo) : List SectionWidget :=
  pipeline.edges.zipIdx.flatMap fun (edge, edgeIndex) =>
    match edgeNodes pipeline edge with
    | none => []
    | some _ => [⟨inferredBufferName pipeline edgeIndex, asciiBytes "buffer"⟩]

def emitDaiScheduler (node : NodeInfo) : SectionWidget :=
  ⟨node.widgetName ++ asciiBytes ".SCHED", asciiBytes "scheduler"⟩

def emitDaiSchedulers (pipeline : PipelineInfo) : List SectionWidget :=
  (pipeline.nodes.filter (isDaiPortWidget pipeline)).map emitDaiScheduler

/-- The widgets of a pipeline, as they are written one after another. -/
def sectionWidgets (pipeline : PipelineInfo) : List SectionWidget :=
  emitPipelineScheduler pipeline :: pipeline.nodes.map (emitSofWidgetData pipeline) ++
    emitInferredBuffers pipeline ++ emitDaiSchedulers pipeline

/-! ## Routes -/

/-- A line of a graph. -/
structure Route where
  sink : Bytes
  source : Bytes
  deriving DecidableEq, Repr

/-- A line as it is written, with no control in the middle. -/
def Route.line (route : Route) : Bytes :=
  route.sink ++ asciiBytes ", , " ++ route.source

structure SectionGraph where
  name : Bytes
  lines : List Route
  deriving DecidableEq, Repr

/-- What an edge adds to the graph of the pipeline, and the DAI graphs it adds. -/
def edgeGraphs (pipeline : PipelineInfo) (edge : EdgeInfo) (edgeIndex : Nat) :
    List Route × List SectionGraph :=
  match edgeNodes pipeline edge with
  | none => ([], [])
  | some (source, sink) =>
      let bufferName := inferredBufferName pipeline edgeIndex
      if isDaiPortWidget pipeline source then
        ([⟨sink.widgetName, bufferName⟩],
          [⟨source.widgetName ++ asciiBytes ".DAI", [⟨bufferName, source.widgetName⟩]⟩])
      else if isDaiPortWidget pipeline sink then
        ([⟨bufferName, source.widgetName⟩],
          [⟨sink.widgetName ++ asciiBytes ".DAI", [⟨sink.widgetName, bufferName⟩]⟩])
      else ([⟨bufferName, source.widgetName⟩, ⟨sink.widgetName, bufferName⟩], [])

/-- The graph of the pipeline and behind it those of its DAIs. -/
def sectionGraphs (pipeline : PipelineInfo) : List SectionGraph :=
  let graphs := pipeline.edges.zipIdx.map fun (edge, edgeIndex) =>
    edgeGraphs pipeline edge edgeIndex
  ⟨pipeline.pipeId, graphs.flatMap Prod.fst⟩ :: graphs.flatMap Prod.snd

/-- Every route that is written for a pipeline. -/
def routes (pipeline : PipelineInfo) : List Route :=
  (sectionGraphs pipeline).flatMap SectionGraph.lines

/-! ## The graph of the project -/

/-- The routes of an edge: into its buffer, and out of it. -/
def edgeRoutes (pipeline : PipelineInfo) (edge : EdgeInfo) (edgeIndex : Nat) : List Route :=
  [⟨inferredBufferName pipeline edgeIndex, pipeline.widgetName edge.fromNode⟩,
    ⟨pipeline.widgetName edge.toNode, inferredBufferName pipeline edgeIndex⟩]

/-- How many widgets of a pipeline have a name. -/
def widgetCount (pipeline : PipelineInfo) (name : Bytes) : Nat :=
  ((sectionWidgets pipeline).map SectionWidget.name).count name

/-- What is written for a pipeline is the graph of these edges, none of which is left out. -/
structure CompiledGraph (edges : List EdgeInfo) (pipeline : PipelineInfo) : Prop where
  known : ∀ edge ∈ edges, (edgeNodes pipeline edge).isSome
  routes : (routes pipeline).Perm
    (edges.zipIdx.flatMap fun (edge, edgeIndex) => edgeRoutes pipeline edge edgeIndex)
  buffers : (emitInferredBuffers pipeline).map SectionWidget.name =
    (List.range edges.length).map (inferredBufferName pipeline)
  named : ∀ edge ∈ edges.zipIdx, widgetCount pipeline (pipeline.widgetName edge.1.fromNode) = 1 ∧
    widgetCount pipeline (inferredBufferName pipeline edge.2) = 1 ∧
    widgetCount pipeline (pipeline.widgetName edge.1.toNode) = 1

/-- An id that one node of the pipeline has, and no widget that is not a node's. -/
structure NamesNode (pipeline : PipelineInfo) (nodeId : Bytes) : Prop where
  once : (pipeline.nodes.map NodeInfo.nodeId).count nodeId = 1
  not_scheduler : nodeId ≠ asciiBytes "SCHED"
  not_dai_scheduler : ∀ node ∈ pipeline.nodes, isDaiPortWidget pipeline node →
    nodeId ≠ node.nodeId ++ asciiBytes ".SCHED"

/-- Every edge connects nodes, and no node has the name of a buffer. -/
structure Wired (edges : List EdgeInfo) (pipeline : PipelineInfo) : Prop where
  ends : ∀ edge ∈ edges, NamesNode pipeline edge.fromNode ∧ NamesNode pipeline edge.toNode
  buffers : ∀ edgeIndex < edges.length, ∀ node ∈ pipeline.nodes,
    node.nodeId ≠ bufferSuffix edgeIndex

/-- What parsing leaves of a pipeline. -/
structure ParsedGraph (edges : List EdgeInfo) (pipeline : PipelineInfo) : Prop where
  edges_eq : pipeline.edges = edges.filter fun edge => edge.fromNode ≠ [] ∧ edge.toNode ≠ []
  nodes : ∀ node ∈ pipeline.nodes,
    node.nodeId ≠ [] ∧ node.widgetName = pipeline.widgetName node.nodeId

variable {types : List ModuleTypeInfo} {instances : List InstanceInfo} {node : NodeInfo}

theorem parseNode_named {pipeId : Bytes} {nodeJson : JsonValue}
    (hparse : parseNode types instances pipeId nodeJson = .ok node) :
    node.nodeId ≠ [] ∧ node.widgetName = pipeId ++ asciiBytes "." ++ node.nodeId := by
  unfold parseNode at hparse
  obtain ⟨nodeId, _, hparse⟩ := bind_eq_ok hparse
  obtain ⟨kind, _, hparse⟩ := bind_eq_ok hparse
  split at hparse
  · cases hparse
  · next hnamed =>
      unfold parseNodeTarget at hparse
      dsimp only at hparse
      split at hparse
      · obtain ⟨instId, _, hparse⟩ := bind_eq_ok hparse
        split at hparse
        · cases hparse
        · cases hparse
          exact ⟨hnamed, rfl⟩
      · split at hparse
        · obtain ⟨inlineObject, _, hparse⟩ := bind_eq_ok hparse
          obtain ⟨name, _, hparse⟩ := bind_eq_ok hparse
          obtain ⟨moduleType, _, hparse⟩ := bind_eq_ok hparse
          split at hparse
          · cases hparse
          · cases hparse
            exact ⟨hnamed, rfl⟩
        · obtain ⟨instId, _, hparse⟩ := bind_eq_ok hparse
          cases hparse
          exact ⟨hnamed, rfl⟩

variable {beside : Beside} {root : JsonValue}

theorem parsePipeline_graph {item : JsonValue} {pipeline : PipelineInfo}
    (hparse : parsePipeline beside root types instances item = .ok pipeline) :
    ∃ edges, readEdges item = .ok edges ∧ ParsedGraph edges pipeline := by
  unfold parsePipeline at hparse
  obtain ⟨pipeId, _, hparse⟩ := bind_eq_ok hparse
  obtain ⟨name, _, hparse⟩ := bind_eq_ok hparse
  obtain ⟨domain, _, hparse⟩ := bind_eq_ok hparse
  obtain ⟨_, _, hparse⟩ := bind_eq_ok hparse
  obtain ⟨ports, _, hparse⟩ := bind_eq_ok hparse
  obtain ⟨nodeItems, _, hparse⟩ := bind_eq_ok hparse
  obtain ⟨nodes, hnodes, hparse⟩ := bind_eq_ok hparse
  obtain ⟨kept, hkept, hparse⟩ := bind_eq_ok hparse
  obtain ⟨edges, hedges, hfilter⟩ := bind_eq_ok hkept
  cases hfilter
  cases hparse
  refine ⟨edges, hedges, rfl, ?_⟩
  intro node hmem
  obtain ⟨nodeJson, _, hnode⟩ := exists_of_mem_mapM hnodes hmem
  exact parseNode_named hnode

/-! ## Names of widgets -/

theorem PipelineInfo.widgetName_injective (pipeline : PipelineInfo) :
    Function.Injective pipeline.widgetName := by
  intro first second hname
  exact List.append_cancel_left hname

theorem bufferSuffix_injective : Function.Injective bufferSuffix := by
  intro first second hsuffix
  have hdigits := List.append_cancel_left hsuffix
  have hvalue := congrArg decimalValue hdigits
  rwa [decimalValue_decimalText, decimalValue_decimalText] at hvalue

section Known

variable {edges : List EdgeInfo} {pipeline : PipelineInfo}

variable {nodeId : Bytes}

theorem findNode_eq (hnode : findNode pipeline nodeId = some node) :
    node ∈ pipeline.nodes ∧ node.nodeId = nodeId := by
  have hfound : pipeline.nodes.find? (·.nodeId = nodeId) = some node := hnode
  exact ⟨List.mem_of_find?_eq_some hfound,
    of_decide_eq_true (@List.find?_some _ (fun node : NodeInfo => node.nodeId = nodeId) _ _ hfound)⟩

theorem findNode_isSome (hmem : nodeId ∈ pipeline.nodes.map NodeInfo.nodeId) :
    (findNode pipeline nodeId).isSome := by
  obtain ⟨node, hnode, hnodeId⟩ := List.mem_map.mp hmem
  unfold findNode
  rw [List.find?_isSome]
  exact ⟨node, hnode, decide_eq_true hnodeId⟩

/-- Edges whose ends are nodes are not left out by the parser. -/
theorem ParsedGraph.edges_known (hparsed : ParsedGraph edges pipeline)
    (hknown : ∀ edge ∈ edges, (edgeNodes pipeline edge).isSome) : pipeline.edges = edges := by
  rw [hparsed.edges_eq, List.filter_eq_self]
  intro edge hmem
  have hsome := hknown edge hmem
  have hfound : ∀ {nodeId : Bytes}, (findNode pipeline nodeId).isSome → nodeId ≠ [] := by
    intro nodeId hnode
    obtain ⟨node, hnode⟩ := Option.isSome_iff_exists.mp hnode
    obtain ⟨hmember, hnodeId⟩ := findNode_eq hnode
    rw [← hnodeId]
    exact (hparsed.nodes node hmember).1
  unfold edgeNodes at hsome
  split at hsome
  · next hsource hsink =>
      apply decide_eq_true
      exact ⟨hfound (hsource ▸ rfl), hfound (hsink ▸ rfl)⟩
  · cases hsome

variable {edge : EdgeInfo}

/-- The nodes of an edge are found by its ends. -/
theorem edgeNodes_eq {source sink : NodeInfo}
    (hnodes : edgeNodes pipeline edge = some (source, sink)) :
    (source ∈ pipeline.nodes ∧ source.nodeId = edge.fromNode) ∧
      sink ∈ pipeline.nodes ∧ sink.nodeId = edge.toNode := by
  unfold edgeNodes at hnodes
  split at hnodes
  · next hsource hsink =>
      cases hnodes
      exact ⟨findNode_eq hsource, findNode_eq hsink⟩
  · cases hnodes

theorem emitInferredBuffers_known (hedges : pipeline.edges = edges)
    (hknown : ∀ edge ∈ edges, (edgeNodes pipeline edge).isSome) :
    (emitInferredBuffers pipeline).map SectionWidget.name =
      (List.range edges.length).map (inferredBufferName pipeline) := by
  have hblocks : emitInferredBuffers pipeline = edges.zipIdx.flatMap fun (_, edgeIndex) =>
      [⟨inferredBufferName pipeline edgeIndex, asciiBytes "buffer"⟩] := by
    unfold emitInferredBuffers
    rw [hedges]
    apply List.flatMap_congr
    rintro ⟨edge, edgeIndex⟩ hmem
    obtain ⟨nodes, hnodes⟩ := Option.isSome_iff_exists.mp
      (hknown edge (List.fst_mem_of_mem_zipIdx hmem))
    dsimp only
    rw [hnodes]
  rw [hblocks, List.map_flatMap, List.range_eq_range', ← List.zipIdx_map_snd 0 edges,
    List.map_map, List.map_eq_flatMap]
  rfl

/-- A known edge gives its two routes, wherever the DAIs are. -/
theorem edgeGraphs_routes (hparsed : ParsedGraph edges pipeline)
    (hknown : (edgeNodes pipeline edge).isSome) (edgeIndex : Nat) :
    ((edgeGraphs pipeline edge edgeIndex).1 ++
      (edgeGraphs pipeline edge edgeIndex).2.flatMap SectionGraph.lines).Perm
        (edgeRoutes pipeline edge edgeIndex) := by
  obtain ⟨⟨source, sink⟩, hnodes⟩ := Option.isSome_iff_exists.mp hknown
  obtain ⟨⟨hsource, hfrom⟩, hsink, hto⟩ := edgeNodes_eq hnodes
  have hsourceName := (hparsed.nodes source hsource).2
  have hsinkName := (hparsed.nodes sink hsink).2
  rw [hfrom] at hsourceName
  rw [hto] at hsinkName
  unfold edgeGraphs edgeRoutes
  rw [hnodes, ← hsourceName, ← hsinkName]
  dsimp only
  split
  · exact List.Perm.swap _ _ _
  · split
    · exact List.Perm.refl _
    · exact List.Perm.refl _

theorem routes_known (hparsed : ParsedGraph edges pipeline) (hedges : pipeline.edges = edges)
    (hknown : ∀ edge ∈ edges, (edgeNodes pipeline edge).isSome) :
    (routes pipeline).Perm
      (edges.zipIdx.flatMap fun (edge, edgeIndex) => edgeRoutes pipeline edge edgeIndex) := by
  have hsplit : routes pipeline =
      (edges.zipIdx.flatMap fun edge => (edgeGraphs pipeline edge.1 edge.2).1) ++
        edges.zipIdx.flatMap fun edge =>
          (edgeGraphs pipeline edge.1 edge.2).2.flatMap SectionGraph.lines := by
    unfold routes sectionGraphs
    rw [hedges, List.flatMap_cons, List.flatMap_assoc, List.flatMap_map, List.flatMap_map]
  rw [hsplit]
  apply (List.flatMap_append_perm _ _ _).trans
  apply List.Perm.flatMap_left
  intro edge hmem
  apply edgeGraphs_routes hparsed
  exact hknown edge.1 (List.fst_mem_of_mem_zipIdx hmem)

/-- What the names of the widgets of a pipeline are behind its id. -/
def widgetSuffixes (edgeCount : Nat) (pipeline : PipelineInfo) : List Bytes :=
  asciiBytes "SCHED" :: pipeline.nodes.map NodeInfo.nodeId ++
    (List.range edgeCount).map bufferSuffix ++
      (pipeline.nodes.filter (isDaiPortWidget pipeline)).map fun node =>
        node.nodeId ++ asciiBytes ".SCHED"

theorem widgetCount_eq (hparsed : ParsedGraph edges pipeline) (hedges : pipeline.edges = edges)
    (hknown : ∀ edge ∈ edges, (edgeNodes pipeline edge).isSome) (suffix : Bytes) :
    widgetCount pipeline (pipeline.widgetName suffix) =
      (widgetSuffixes edges.length pipeline).count suffix := by
  have hnames : (sectionWidgets pipeline).map SectionWidget.name =
      (widgetSuffixes edges.length pipeline).map pipeline.widgetName := by
    have hnodes : (pipeline.nodes.map (emitSofWidgetData pipeline)).map SectionWidget.name =
        (pipeline.nodes.map NodeInfo.nodeId).map pipeline.widgetName := by
      rw [List.map_map, List.map_map]
      apply List.map_congr_left
      intro node hmem
      exact (hparsed.nodes node hmem).2
    have hdais : (emitDaiSchedulers pipeline).map SectionWidget.name =
        ((pipeline.nodes.filter (isDaiPortWidget pipeline)).map fun node =>
          node.nodeId ++ asciiBytes ".SCHED").map pipeline.widgetName := by
      unfold emitDaiSchedulers
      rw [List.map_map, List.map_map]
      apply List.map_congr_left
      intro node hmem
      have hname := (hparsed.nodes node (List.mem_of_mem_filter hmem)).2
      exact (congrArg (· ++ asciiBytes ".SCHED") hname).trans (List.append_assoc _ _ _)
    have hbuffers : (emitInferredBuffers pipeline).map SectionWidget.name =
        ((List.range edges.length).map bufferSuffix).map pipeline.widgetName := by
      rw [emitInferredBuffers_known hedges hknown, List.map_map]
      rfl
    unfold sectionWidgets widgetSuffixes
    rw [List.map_append, List.map_append, List.map_append, List.map_append, List.map_cons,
      List.map_cons, hnodes, hdais, hbuffers]
    rfl
  unfold widgetCount
  rw [hnames, List.count_map_of_injective _ _ pipeline.widgetName_injective]

theorem bufferSuffix_ne_scheduler (edgeIndex : Nat) (front : Bytes) :
    bufferSuffix edgeIndex ≠ front ++ asciiBytes "SCHED" := by
  intro hsuffix
  have hlast := congrArg List.getLast? hsuffix
  unfold bufferSuffix at hlast
  rw [List.getLast?_append_of_ne_nil _ (decimalText_ne_nil edgeIndex),
    List.getLast?_append_of_ne_nil _ (by decide)] at hlast
  have hdigit := isDigit_of_mem_decimalText (List.mem_of_getLast? hlast)
  exact absurd hdigit (by decide)

theorem mem_daiSuffixes :
    (nodeId ∈ (pipeline.nodes.filter (isDaiPortWidget pipeline)).map fun node =>
        node.nodeId ++ asciiBytes ".SCHED") ↔
      ∃ node ∈ pipeline.nodes, isDaiPortWidget pipeline node ∧
        nodeId = node.nodeId ++ asciiBytes ".SCHED" := by
  rw [List.mem_map]
  constructor
  · rintro ⟨node, hmem, rfl⟩
    obtain ⟨hnode, hdai⟩ := List.mem_filter.mp hmem
    exact ⟨node, hnode, hdai, rfl⟩
  · rintro ⟨node, hnode, hdai, rfl⟩
    exact ⟨node, List.mem_filter.mpr ⟨hnode, hdai⟩, rfl⟩

theorem count_widgetSuffixes (edgeCount : Nat) (suffix : Bytes) :
    (widgetSuffixes edgeCount pipeline).count suffix =
      (if asciiBytes "SCHED" = suffix then 1 else 0) +
        (pipeline.nodes.map NodeInfo.nodeId).count suffix +
        ((List.range edgeCount).map bufferSuffix).count suffix +
        ((pipeline.nodes.filter (isDaiPortWidget pipeline)).map fun node =>
          node.nodeId ++ asciiBytes ".SCHED").count suffix := by
  unfold widgetSuffixes
  rw [List.count_append, List.count_append, List.count_cons]
  simp only [beq_iff_eq]
  omega

variable {edgeCount : Nat}

/-- A buffer has a name of its own where no node has it. -/
theorem count_bufferSuffix {edgeIndex : Nat} (hindex : edgeIndex < edgeCount) :
    (widgetSuffixes edgeCount pipeline).count (bufferSuffix edgeIndex) = 1 ↔
      ∀ node ∈ pipeline.nodes, node.nodeId ≠ bufferSuffix edgeIndex := by
  have hscheduler : asciiBytes "SCHED" ≠ bufferSuffix edgeIndex :=
    (bufferSuffix_ne_scheduler edgeIndex []).symm
  have hbuffers : ((List.range edgeCount).map bufferSuffix).count (bufferSuffix edgeIndex) = 1 := by
    rw [List.count_map_of_injective _ _ bufferSuffix_injective]
    exact List.count_eq_one_of_mem List.nodup_range (List.mem_range.mpr hindex)
  have hdais : ((pipeline.nodes.filter (isDaiPortWidget pipeline)).map fun node =>
      node.nodeId ++ asciiBytes ".SCHED").count (bufferSuffix edgeIndex) = 0 := by
    rw [List.count_eq_zero, mem_daiSuffixes]
    rintro ⟨node, _, _, hsuffix⟩
    have hsplit : node.nodeId ++ asciiBytes ".SCHED" =
        (node.nodeId ++ asciiBytes ".") ++ asciiBytes "SCHED" := by
      rw [List.append_assoc]
      rfl
    exact bufferSuffix_ne_scheduler edgeIndex _ (hsuffix.trans hsplit)
  rw [count_widgetSuffixes, if_neg hscheduler, hbuffers, hdais]
  have hnodes : (pipeline.nodes.map NodeInfo.nodeId).count (bufferSuffix edgeIndex) = 0 ↔
      ∀ node ∈ pipeline.nodes, node.nodeId ≠ bufferSuffix edgeIndex := by
    rw [List.count_eq_zero, List.mem_map]
    constructor
    · intro hnone node hmem hname
      exact hnone ⟨node, hmem, hname⟩
    · rintro hall ⟨node, hmem, hname⟩
      exact hall node hmem hname
  rw [← hnodes]
  omega

/-- The end of an edge is named once where it is one node's and no other widget's. -/
theorem count_nodeId (hmem : nodeId ∈ pipeline.nodes.map NodeInfo.nodeId) :
    (widgetSuffixes edgeCount pipeline).count nodeId = 1 ↔
      NamesNode pipeline nodeId ∧ ∀ edgeIndex < edgeCount, nodeId ≠ bufferSuffix edgeIndex := by
  have hpositive : 0 < (pipeline.nodes.map NodeInfo.nodeId).count nodeId :=
    List.count_pos_iff.mpr hmem
  rw [count_widgetSuffixes]
  constructor
  · intro hcount
    have hscheduler : asciiBytes "SCHED" ≠ nodeId := by
      intro hsame
      rw [if_pos hsame] at hcount
      omega
    rw [if_neg hscheduler] at hcount
    have hbuffers : ((List.range edgeCount).map bufferSuffix).count nodeId = 0 := by omega
    have hdais : ((pipeline.nodes.filter (isDaiPortWidget pipeline)).map fun node =>
        node.nodeId ++ asciiBytes ".SCHED").count nodeId = 0 := by omega
    rw [List.count_eq_zero] at hbuffers hdais
    refine ⟨⟨by omega, hscheduler.symm, ?_⟩, ?_⟩
    · intro node hnode hdai hname
      exact hdais (mem_daiSuffixes.mpr ⟨node, hnode, hdai, hname⟩)
    · intro edgeIndex hindex hname
      exact hbuffers (List.mem_map.mpr ⟨edgeIndex, List.mem_range.mpr hindex, hname.symm⟩)
  · rintro ⟨hnames, hbuffer⟩
    have hbuffers : ((List.range edgeCount).map bufferSuffix).count nodeId = 0 := by
      rw [List.count_eq_zero, List.mem_map]
      rintro ⟨edgeIndex, hindex, hname⟩
      exact hbuffer edgeIndex (List.mem_range.mp hindex) hname.symm
    have hdais : ((pipeline.nodes.filter (isDaiPortWidget pipeline)).map fun node =>
        node.nodeId ++ asciiBytes ".SCHED").count nodeId = 0 := by
      rw [List.count_eq_zero, mem_daiSuffixes]
      rintro ⟨node, hnode, hdai, hname⟩
      exact hnames.not_dai_scheduler node hnode hdai hname
    rw [if_neg hnames.not_scheduler.symm, hbuffers, hdais, hnames.once]

theorem CompiledGraph.wired (hparsed : ParsedGraph edges pipeline)
    (hgraph : CompiledGraph edges pipeline) : Wired edges pipeline := by
  have hedges := hparsed.edges_known hgraph.known
  have hends : ∀ edge ∈ edges, edge.fromNode ∈ pipeline.nodes.map NodeInfo.nodeId ∧
      edge.toNode ∈ pipeline.nodes.map NodeInfo.nodeId := by
    intro edge hmem
    obtain ⟨⟨source, sink⟩, hnodes⟩ := Option.isSome_iff_exists.mp (hgraph.known edge hmem)
    obtain ⟨⟨hsource, hfrom⟩, hsink, hto⟩ := edgeNodes_eq hnodes
    exact ⟨List.mem_map.mpr ⟨source, hsource, hfrom⟩, List.mem_map.mpr ⟨sink, hsink, hto⟩⟩
  constructor
  · intro edge hmem
    obtain ⟨edgeIndex, hindex⟩ := List.mem_iff_getElem?.mp hmem
    obtain ⟨hfrom, _, hto⟩ := hgraph.named (edge, edgeIndex)
      (List.mk_mem_zipIdx_iff_getElem?.mpr hindex)
    rw [widgetCount_eq hparsed hedges hgraph.known] at hfrom hto
    exact ⟨((count_nodeId (hends edge hmem).1).mp hfrom).1,
      ((count_nodeId (hends edge hmem).2).mp hto).1⟩
  · intro edgeIndex hindex
    have hat := List.getElem?_eq_getElem hindex
    obtain ⟨_, hbuffer, _⟩ := hgraph.named (edges[edgeIndex], edgeIndex)
      (List.mk_mem_zipIdx_iff_getElem?.mpr hat)
    have hname : inferredBufferName pipeline edgeIndex =
        pipeline.widgetName (bufferSuffix edgeIndex) := rfl
    rw [hname, widgetCount_eq hparsed hedges hgraph.known] at hbuffer
    exact (count_bufferSuffix hindex).mp hbuffer

theorem Wired.known (hwired : Wired edges pipeline) :
    ∀ edge ∈ edges, (edgeNodes pipeline edge).isSome := by
  intro edge hmem
  have hfound : ∀ {nodeId : Bytes}, NamesNode pipeline nodeId →
      ∃ node, findNode pipeline nodeId = some node := by
    intro nodeId hnames
    apply Option.isSome_iff_exists.mp
    apply findNode_isSome
    rw [← List.count_pos_iff, hnames.once]
    exact Nat.one_pos
  obtain ⟨source, hsource⟩ := hfound (hwired.ends edge hmem).1
  obtain ⟨sink, hsink⟩ := hfound (hwired.ends edge hmem).2
  unfold edgeNodes
  rw [hsource, hsink]
  rfl

theorem Wired.compiledGraph (hparsed : ParsedGraph edges pipeline)
    (hwired : Wired edges pipeline) : CompiledGraph edges pipeline := by
  have hknown := hwired.known
  have hedges := hparsed.edges_known hknown
  refine ⟨hknown, routes_known hparsed hedges hknown, emitInferredBuffers_known hedges hknown, ?_⟩
  have hend : ∀ {nodeId : Bytes}, NamesNode pipeline nodeId →
      widgetCount pipeline (pipeline.widgetName nodeId) = 1 := by
    intro nodeId hnames
    have hmem : nodeId ∈ pipeline.nodes.map NodeInfo.nodeId := by
      rw [← List.count_pos_iff, hnames.once]
      exact Nat.one_pos
    rw [widgetCount_eq hparsed hedges hknown, count_nodeId hmem]
    refine ⟨hnames, ?_⟩
    intro edgeIndex hindex
    obtain ⟨node, hnode, hnodeId⟩ := List.mem_map.mp hmem
    rw [← hnodeId]
    exact hwired.buffers edgeIndex hindex node hnode
  rintro ⟨edge, edgeIndex⟩ hmem
  have hedge := hwired.ends edge (List.fst_mem_of_mem_zipIdx hmem)
  have hindex : edgeIndex < edges.length := List.snd_lt_of_mem_zipIdx hmem
  refine ⟨hend hedge.1, ?_, hend hedge.2⟩
  have hname : inferredBufferName pipeline edgeIndex =
      pipeline.widgetName (bufferSuffix edgeIndex) := rfl
  rw [hname, widgetCount_eq hparsed hedges hknown, count_bufferSuffix hindex]
  exact hwired.buffers edgeIndex hindex

end Known

/-- The pipelines are parsed one by one, and presets come later. -/
theorem parseProject_pipelines {projectName : Bytes} {importedModuleTypes : List JsonValue}
    {ir : ProjectIr} (hparse : parseProject beside root projectName importedModuleTypes = .ok ir) :
    ∃ items, requiredArray root "pipelines" = .ok items ∧ List.Forall₂ (fun item pipeline =>
      parsePipeline beside root ir.moduleTypes ir.instances item = .ok pipeline)
        items ir.pipelines ∧ ir.presets = [] := by
  unfold parseProject at hparse
  obtain ⟨_, _, hparse⟩ := bind_eq_ok hparse
  obtain ⟨imported, _, hparse⟩ := bind_eq_ok hparse
  obtain ⟨typeItems, _, hparse⟩ := bind_eq_ok hparse
  obtain ⟨moduleTypes, _, hparse⟩ := bind_eq_ok hparse
  obtain ⟨instanceItems, _, hparse⟩ := bind_eq_ok hparse
  obtain ⟨instances, _, hparse⟩ := bind_eq_ok hparse
  obtain ⟨items, hitems, hparse⟩ := bind_eq_ok hparse
  obtain ⟨pipelines, hpipelines, hparse⟩ := bind_eq_ok hparse
  cases hparse
  exact ⟨items, hitems, forall₂_of_mapM hpipelines, rfl⟩

/-- What is written for a pipeline is the graph that its `edges` draw, if and only if every
edge connects nodes whose ids name one widget each, and no node has the name of a buffer. -/
theorem compiled_graph_iff (beside : Beside) (root : JsonValue) (projectName : Bytes)
    (importedModuleTypes : List JsonValue) (ir : ProjectIr)
    (hparse : parseProject beside root projectName importedModuleTypes = .ok ir) :
    ∃ items, requiredArray root "pipelines" = .ok items ∧
      List.Forall₂ (fun item pipeline => ∃ edges, readEdges item = .ok edges ∧
        (CompiledGraph edges pipeline ↔ Wired edges pipeline)) items ir.pipelines := by
  obtain ⟨items, hitems, hall, _⟩ := parseProject_pipelines hparse
  refine ⟨items, hitems, hall.imp ?_⟩
  intro item pipeline hpipeline
  obtain ⟨edges, hedges, hparsed⟩ := parsePipeline_graph hpipeline
  exact ⟨edges, hedges, CompiledGraph.wired hparsed, Wired.compiledGraph hparsed⟩

/-! ## Two projects of one edge -/

/-- The parts beside the identifiers, where a project has none of them. -/
def bareBeside : Beside where
  moduleUuidValue _ := .ok []
  parameter _ := .ok []
  parseResourceCatalog _ := .ok ()
  parseEndpointModuleInstance _ := .ok { portId := [] }
  scheduling _ _ := .ok ()
  parsePort _ _ _ := .ok { portId := [] }

def portNodeJson (nodeId : String) : JsonValue :=
  .object [(asciiBytes "kind", .ofText "port"), (asciiBytes "node_id", .ofText nodeId)]

/-- A pipeline `p` of port nodes with an edge from `in` to `out`. -/
def oneEdgeJson (nodeIds : List String) : JsonValue :=
  .object [
    (asciiBytes "edges", .array [.object [(asciiBytes "from", .ofText "in:0"),
      (asciiBytes "to", .ofText "out:0")]]),
    (asciiBytes "nodes", .array (nodeIds.map portNodeJson)),
    (asciiBytes "pipe_id", .ofText "p")]

def oneEdgeProject (nodeIds : List String) : JsonValue :=
  .object [(asciiBytes "module_instances", .array []), (asciiBytes "module_types", .array []),
    (asciiBytes "pipelines", .array [oneEdgeJson nodeIds])]

def oneEdge : EdgeInfo := ⟨asciiBytes "in", asciiBytes "out"⟩

def oneEdgePipeline (nodeIds : List String) : PipelineInfo where
  pipeId := asciiBytes "p"
  name := asciiBytes "p"
  domain := []
  direction := asciiBytes "playback"
  sourceJson := (oneEdgeJson nodeIds).dump
  ports := []
  nodes := nodeIds.map fun nodeId =>
    { nodeId := asciiBytes nodeId, kind := asciiBytes "port", instId := asciiBytes nodeId,
      name := asciiBytes nodeId, widgetName := asciiBytes "p." ++ asciiBytes nodeId,
      sourceJson := (portNodeJson nodeId).dump }
  edges := [oneEdge]

theorem oneEdge_drawn : List.Forall₂ (fun item pipeline => ∃ edges, readEdges item = .ok edges ∧
    CompiledGraph edges pipeline) [oneEdgeJson ["in", "out"]] [oneEdgePipeline ["in", "out"]] := by
  obtain ⟨items, hitems, hall⟩ := compiled_graph_iff bareBeside (oneEdgeProject ["in", "out"]) [] []
    { projectName := asciiBytes "a2", pipelines := [oneEdgePipeline ["in", "out"]] } rfl
  obtain rfl : [oneEdgeJson ["in", "out"]] = items := Except.ok.inj hitems
  obtain ⟨⟨edges, hedges, hiff⟩, _⟩ := List.forall₂_cons.mp hall
  obtain rfl : [oneEdge] = edges := Except.ok.inj hedges
  refine .cons ⟨[oneEdge], rfl, hiff.mpr ?_⟩ .nil
  constructor
  · intro edge hmem
    obtain rfl := List.mem_singleton.mp hmem
    constructor <;> constructor <;> decide
  · intro edgeIndex hindex
    obtain rfl := Nat.lt_one_iff.mp hindex
    decide

/-- An edge between nodes that the pipeline does not have is left out without an error. -/
theorem oneEdge_left_out : ¬ ∀ (beside : Beside) (root : JsonValue) (projectName : Bytes)
    (importedModuleTypes : List JsonValue) (ir : ProjectIr),
    parseProject beside root projectName importedModuleTypes = .ok ir →
      ∃ items, requiredArray root "pipelines" = .ok items ∧
        List.Forall₂ (fun item pipeline => ∃ edges, readEdges item = .ok edges ∧
          CompiledGraph edges pipeline) items ir.pipelines := by
  intro hcompiled
  obtain ⟨items, hitems, hall⟩ := hcompiled bareBeside (oneEdgeProject []) [] []
    { projectName := asciiBytes "a2", pipelines := [oneEdgePipeline []] } rfl
  obtain rfl : [oneEdgeJson []] = items := Except.ok.inj hitems
  obtain ⟨⟨edges, hedges, hgraph⟩, _⟩ := List.forall₂_cons.mp hall
  obtain rfl : [oneEdge] = edges := Except.ok.inj hedges
  exact absurd (hgraph.known oneEdge List.mem_cons_self) (by decide)

end AudioStudio.Config
