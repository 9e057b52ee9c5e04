import AudioStudio.Config.Tables

/-!
# The sections of the ALSA conf

`generateAlsaConf` as the sections it writes: their classes, their names and the names that
they refer to.
-/

namespace AudioStudio.Config

open AudioStudio.Common
open AudioStudio.LittleEndian
open AudioStudio.Rpc

inductive SectionClass where
  | vendorTokens
  | vendorTuples
  | data
  | manifest
  | text
  | tlv
  | controlMixer
  | controlEnum
  | controlBytes
  | widget
  | hwConfig
  | be
  | dai
  | pcmCapabilities
  | pcm
  | graph
  deriving DecidableEq, Repr

/-- The name of a section, as one that exists or one that is referred to. -/
structure SectionName where
  kind : SectionClass
  name : Bytes
  deriving DecidableEq, Repr

/-- A section and what it refers to, in the order of writing. -/
structure ConfSection where
  self : SectionName
  references : List SectionName := []
  deriving DecidableEq, Repr

/-! ## Vendor tuples -/

def sofVendorTokens : List Bytes :=
  ["sof_buffer_tokens", "sof_dai_tokens", "sof_sched_tokens", "sof_comp_tokens",
    "sof_src_tokens", "sof_asrc_tokens", "sof_process_tokens", "sof_vsi_tdm_tokens"].map asciiBytes

def emitSofVendorTokens : List ConfSection :=
  sofVendorTokens.map fun name => ⟨⟨.vendorTokens, name⟩, []⟩

/-- A block of tuples of one token set and the data that holds it: `emitTupleData` behind
`emitWordTuples`, `emitStringTuples` or `emitUuidTuples`. -/
def emitTupleData (tuples data : Bytes) (tokenSet : String) : List ConfSection :=
  [⟨⟨.vendorTuples, tuples⟩, [⟨.vendorTokens, asciiBytes tokenSet⟩]⟩,
    ⟨⟨.data, data⟩, [⟨.vendorTuples, tuples⟩]⟩]

def dataNames (names : List Bytes) : List SectionName :=
  names.map (SectionName.mk .data)

/-! ## Controls -/

/-- What `topologyQuote` is applied to for the name of a control. -/
def topologyName (control : ControlInfo) : Bytes :=
  if control.topologyControlName = [] then control.controlName else control.topologyControlName

def isSofBytes (control : ControlInfo) : Bool :=
  control.configFormat = asciiBytes "sof-ipc3-bytes-v1"

def controlConf (control : ControlInfo) : List ConfSection :=
  if !control.emitTopology then []
  else if isSofBytes control then
    let dataName := topologyName control ++ asciiBytes " Data"
    [⟨⟨.data, dataName⟩, []⟩, ⟨⟨.controlBytes, topologyName control⟩, [⟨.data, dataName⟩]⟩]
  else if control.valueType = asciiBytes "bytes" then
    -- only a comment is written
    []
  else if control.valueType = asciiBytes "enum" then
    [⟨⟨.text, topologyName control⟩, []⟩,
      ⟨⟨.controlEnum, topologyName control⟩, [⟨.text, topologyName control⟩]⟩]
  else if control.rangePresent ∧ control.valueType ≠ asciiBytes "bool" then
    let tlvName := control.controlName ++ asciiBytes " TLV"
    [⟨⟨.tlv, tlvName⟩, []⟩, ⟨⟨.controlMixer, topologyName control⟩, [⟨.tlv, tlvName⟩]⟩]
  else [⟨⟨.controlMixer, topologyName control⟩, []⟩]

/-- The list of a widget that a control goes to. -/
def controlList (control : ControlInfo) : SectionClass :=
  if isSofBytes control then .controlBytes
  else if control.valueType = asciiBytes "enum" then .controlEnum
  else .controlMixer

/-- The topology controls of a node, by pipeline id and node id. -/
def nodeControls (ir : ProjectIr) (pipeline : PipelineInfo) (node : NodeInfo) :
    List ControlInfo :=
  ir.controls.filter fun control =>
    control.pipeId = pipeline.pipeId ∧ control.nodeId = node.nodeId ∧ control.emitTopology

/-- The `mixer`, `enum` and `bytes` lists of a widget. -/
def controlsForNode (ir : ProjectIr) (pipeline : PipelineInfo) (node : NodeInfo)
    (kind : SectionClass) : List Bytes :=
  ((nodeControls ir pipeline node).filter (controlList · = kind)).map topologyName

/-! ## Widgets -/

def sanitizeName (value : Bytes) : Bytes :=
  let out := value.map fun ch => if isAlnum ch then ch else ascii '_'
  if out = [] then asciiBytes "item" else out

def sofSectionBase (pipeline : PipelineInfo) (node : NodeInfo) : Bytes :=
  sanitizeName (pipeline.pipeId ++ asciiBytes "_" ++ node.nodeId)

def sofPipelineBase (pipeline : PipelineInfo) : Bytes :=
  sanitizeName (pipeline.pipeId ++ asciiBytes "_SCHED")

def inferredBufferBase (pipeline : PipelineInfo) (edgeIndex : Nat) : Bytes :=
  sanitizeName (pipeline.pipeId ++ asciiBytes "_" ++ bufferSuffix edgeIndex)

def widgetSection (widget : SectionWidget) (references : List SectionName) : ConfSection :=
  ⟨⟨.widget, widget.name⟩, references⟩

def pipelineSchedulerConf (pipeline : PipelineInfo) : List ConfSection :=
  let base := sofPipelineBase pipeline
  emitTupleData (base ++ asciiBytes "_tuples") (base ++ asciiBytes "_data") "sof_sched_tokens" ++
    [widgetSection (emitPipelineScheduler pipeline) (dataNames [base ++ asciiBytes "_data"])]

/-- The blocks of tuples of a node, by the suffixes of their tuples and their data. -/
def nodeTupleBlocks (pipeline : PipelineInfo) (node : NodeInfo) :
    List (String × String × String) :=
  [("_uuid_tuples", "_uuid_data", "sof_comp_tokens"),
    ("_comp_tuples_w", "_comp_data_w", "sof_comp_tokens"),
    ("_comp_tuples_s", "_comp_data_s", "sof_comp_tokens")] ++
  (if isDaiPortWidget pipeline node then
    [("_dai_tuples_w", "_dai_data_w", "sof_dai_tokens"),
      ("_dai_tuples_s", "_dai_data_s", "sof_dai_tokens")]
  else []) ++
  (if sofWidgetType pipeline node = asciiBytes "effect" then
    [("_process_tuples_s", "_process_data_s", "sof_process_tokens")]
  else []) ++
  (if node.moduleType = asciiBytes "rate.src" then
    [("_src_tuples_w", "_src_data_w", "sof_src_tokens")]
  else []) ++
  (if node.moduleType = asciiBytes "rate.asrc" then
    [("_asrc_tuples_w", "_asrc_data_w", "sof_asrc_tokens")]
  else [])

/-- The control lists of a widget, as what it refers to. -/
def controlLists (ir : ProjectIr) (pipeline : PipelineInfo) (node : NodeInfo) :
    List SectionName :=
  [SectionClass.controlMixer, .controlEnum, .controlBytes].flatMap fun kind =>
    (controlsForNode ir pipeline node kind).map (SectionName.mk kind)

/-- The widget of a node. -/
def nodeWidget (ir : ProjectIr) (pipeline : PipelineInfo) (node : NodeInfo) : ConfSection :=
  widgetSection (emitSofWidgetData pipeline node)
    ((dataNames ((nodeTupleBlocks pipeline node).map fun block =>
      sofSectionBase pipeline node ++ asciiBytes block.2.1)) ++ controlLists ir pipeline node)

def sofWidgetConf (ir : ProjectIr) (pipeline : PipelineInfo) (node : NodeInfo) :
    List ConfSection :=
  let base := sofSectionBase pipeline node
  ((nodeTupleBlocks pipeline node).flatMap fun (tuples, data, tokenSet) =>
    emitTupleData (base ++ asciiBytes tuples) (base ++ asciiBytes data) tokenSet) ++
    [nodeWidget ir pipeline node]

def inferredBufferConf (pipeline : PipelineInfo) (edge : EdgeInfo) (edgeIndex : Nat) :
    List ConfSection :=
  match edgeNodes pipeline edge with
  | none => []
  | some _ =>
      let base := inferredBufferBase pipeline edgeIndex
      emitTupleData (base ++ asciiBytes "_tuples") (base ++ asciiBytes "_data")
          "sof_buffer_tokens" ++
        emitTupleData (base ++ asciiBytes "_comp_tuples") (base ++ asciiBytes "_comp_data")
          "sof_comp_tokens" ++
        [⟨⟨.widget, inferredBufferName pipeline edgeIndex⟩,
          dataNames [base ++ asciiBytes "_data", base ++ asciiBytes "_comp_data"]⟩]

def daiSchedulerConf (pipeline : PipelineInfo) (node : NodeInfo) : List ConfSection :=
  let base := sofSectionBase pipeline node ++ asciiBytes "_SCHED"
  emitTupleData (base ++ asciiBytes "_tuples") (base ++ asciiBytes "_data") "sof_sched_tokens" ++
    [widgetSection (emitDaiScheduler node) (dataNames [base ++ asciiBytes "_data"])]

def daiTypeForPort (port : PortInfo) : Bytes :=
  if port.transport ∈ ["file_io", "file-io", "file_io_dai"].map asciiBytes then
    asciiBytes "FILE_IO"
  else if port.transport = asciiBytes "i2s" then asciiBytes "VSI_I2S"
  else if port.transport = asciiBytes "qtdm" then asciiBytes "VCA_QTDM"
  else if port.transport = asciiBytes "qi2s" then asciiBytes "VCA_QI2S"
  else if port.transport = asciiBytes "pdm" then asciiBytes "VCA_PDM"
  else asciiBytes "VSI_TDM"

def daiObjectConf (pipeline : PipelineInfo) (node : NodeInfo) : List ConfSection :=
  match findPort pipeline node with
  | none => []
  | some port =>
      let base := sofSectionBase pipeline node
      let hwName := base ++ asciiBytes "_hw"
      let beName := if port.daiId = [] then node.widgetName ++ asciiBytes ".BE" else port.daiId
      let vsiData := if daiTypeForPort port = asciiBytes "VSI_TDM" then
          [base ++ asciiBytes "_vsi_tdm_data"]
        else []
      [⟨⟨.hwConfig, hwName⟩, []⟩] ++
        emitTupleData (base ++ asciiBytes "_be_common_tuples_s")
          (base ++ asciiBytes "_be_common_data_s") "sof_dai_tokens" ++
        emitTupleData (base ++ asciiBytes "_be_common_tuples_w")
          (base ++ asciiBytes "_be_common_data_w") "sof_dai_tokens" ++
        emitTupleData (base ++ asciiBytes "_vsi_tdm_tuples") (base ++ asciiBytes "_vsi_tdm_data")
          "sof_vsi_tdm_tokens" ++
        [⟨⟨.be, beName⟩, ⟨.hwConfig, hwName⟩ ::
          dataNames ([base ++ asciiBytes "_be_common_data_s",
            base ++ asciiBytes "_be_common_data_w"] ++ vsiData)⟩,
          ⟨⟨.dai, beName⟩, []⟩]

def pipelineConf (ir : ProjectIr) (pipeline : PipelineInfo) : List ConfSection :=
  let dais := pipeline.nodes.filter (isDaiPortWidget pipeline)
  pipelineSchedulerConf pipeline ++ pipeline.nodes.flatMap (sofWidgetConf ir pipeline) ++
    (pipeline.edges.zipIdx.flatMap fun (edge, edgeIndex) =>
      inferredBufferConf pipeline edge edgeIndex) ++
    dais.flatMap (daiSchedulerConf pipeline) ++ dais.flatMap (daiObjectConf pipeline)

/-! ## The conf -/

def pcmConf (pipeline : PipelineInfo) : List ConfSection :=
  let pcmName := asciiBytes "A2 " ++ pipeline.name
  let capsName := pcmName ++ asciiBytes " Capabilities"
  [⟨⟨.pcmCapabilities, capsName⟩, []⟩, ⟨⟨.pcm, pcmName⟩, [⟨.pcmCapabilities, capsName⟩]⟩]

/-- The lines of a graph refer to widgets. -/
def graphSection (graph : SectionGraph) : ConfSection :=
  ⟨⟨.graph, graph.name⟩, graph.lines.flatMap fun route =>
    [⟨.widget, route.sink⟩, ⟨.widget, route.source⟩]⟩

def privateConf : List ConfSection :=
  [⟨⟨.data, asciiBytes "AS_PRIVATE"⟩, []⟩,
    ⟨⟨.manifest, asciiBytes "sof_manifest"⟩, dataNames [asciiBytes "AS_PRIVATE"]⟩]

def generateAlsaConf (ir : ProjectIr) : List ConfSection :=
  emitSofVendorTokens ++ privateConf ++ ir.controls.flatMap controlConf ++
    ir.pipelines.flatMap (pipelineConf ir) ++ ir.pipelines.flatMap pcmConf ++
    ir.pipelines.flatMap fun pipeline => (sectionGraphs pipeline).map graphSection

end AudioStudio.Config
