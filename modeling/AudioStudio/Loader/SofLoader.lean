import AudioStudio.Core.LittleEndian
import AudioStudio.Core.Proc

/-!
# Installing a topology

`ac_sof_loader.c`: each pipeline of a parsed topology becomes a SOF pipe, and each of its
widgets that stands for a component a component of that pipe.  The allocator and the SOF
library answer at will.
-/

namespace AudioStudio.Loader

open LittleEndian

def ascii (text : String) : Bytes := text.toList.map fun character => character.toNat.toUInt8

/-! ## The parsed topology -/

def acDapmMux : UInt32 := 2
def acDapmMixer : UInt32 := 3
def acDapmPga : UInt32 := 4
def acDapmAifIn : UInt32 := 11
def acDapmAifOut : UInt32 := 12
def acDapmDaiIn : UInt32 := 13
def acDapmDaiOut : UInt32 := 14
def acDapmBuffer : UInt32 := 16
def acDapmScheduler : UInt32 := 17
def acDapmEffect : UInt32 := 18
def acDapmSrc : UInt32 := 20
def acDapmAsrc : UInt32 := 21

def acSofTknDaiType : UInt32 := 154
def acSofTknDaiIndex : UInt32 := 155
def acSofTknSchedPeriod : UInt32 := 200
def acSofTknSchedPriority : UInt32 := 201
def acSofTknSchedCore : UInt32 := 203
def acSofTknSrcRateIn : UInt32 := 300
def acSofTknSrcRateOut : UInt32 := 301
def acSofTknAsrcRateIn : UInt32 := 320
def acSofTknAsrcRateOut : UInt32 := 321
def acSofTknAsrcAsynchronousMode : UInt32 := 322
def acSofTknAsrcOperationMode : UInt32 := 323
def acSofTknCompPeriodSinkCount : UInt32 := 400
def acSofTknCompPeriodSourceCount : UInt32 := 401
def acSofTknCompCoreId : UInt32 := 404
def acSofTknCompUuid : UInt32 := 405
def acSofTknProcessType : UInt32 := 900

inductive AcTokenValue where
  | value (value : UInt32)
  | uuid (uuid : Bytes)
  | string (string : Bytes)
  deriving DecidableEq, Repr

structure AcToken where
  token : UInt32
  value : AcTokenValue
  deriving DecidableEq, Repr

/-- A control; one without a payload has an empty one. -/
structure AcControl where
  name : Bytes
  payloadType : UInt32 := 0
  payload : Bytes := []
  deriving DecidableEq, Repr

structure AcWidget where
  name : Bytes
  streamName : Bytes := []
  id : UInt32
  pipelineId : UInt32
  tokens : List AcToken := []
  controls : List AcControl := []
  deriving DecidableEq, Repr

structure AcRoute where
  sink : Bytes
  source : Bytes
  deriving DecidableEq, Repr

structure AcPipeline where
  name : Bytes
  id : UInt32
  maxSampleRate : UInt32 := 48000
  maxChannels : UInt32 := 2
  maxBytesPerSample : UInt32 := 2
  deriving DecidableEq, Repr

structure AcTopology where
  widgets : List AcWidget
  routes : List AcRoute := []
  pipelines : List AcPipeline

def acFindToken (tokens : List AcToken) (token : UInt32) : Option AcToken :=
  tokens.find? (·.token == token)

def acTokenValue (widget : AcWidget) (token fallback : UInt32) : UInt32 :=
  match acFindToken widget.tokens token with
  | some ⟨_, .value value⟩ => value
  | _ => fallback

def acTokenString (widget : AcWidget) (token : UInt32) : Option Bytes :=
  match acFindToken widget.tokens token with
  | some ⟨_, .string string⟩ => some string
  | _ => none

def acTokenUuid (widget : AcWidget) : Option Bytes :=
  match acFindToken widget.tokens acSofTknCompUuid with
  | some ⟨_, .uuid uuid⟩ => some uuid
  | _ => none

/-! ## Component and DAI types -/

/-- The component types of SOF that a widget can have. -/
inductive CompType where
  | none | host | dai | volume | mixer | mux | src | asrc | moduleAdapter | dcblock | eqIir
  | eqFir | kpb | selector | demux | channelRemap | delayLine | faderBalance | dspFilter
  | verisiliconCodec
  deriving DecidableEq, Repr

inductive DaiType where
  | fileIo | vsiTdm | vsiI2s | dwI2s | dwTdm
  deriving DecidableEq, Repr

def acProcessTypeFromString : Option Bytes → CompType
  | .none => .moduleAdapter
  | some processType =>
      if processType = ascii "DCBLOCK" then .dcblock
      else if processType = ascii "EQIIR" then .eqIir
      else if processType = ascii "EQFIR" then .eqFir
      else if processType = ascii "KPB" then .kpb
      else if processType = ascii "CHAN_SELECTOR" then .selector
      else if processType = ascii "MUX" then .mux
      else if processType = ascii "DEMUX" then .demux
      else if processType = ascii "CHAN_REMAP" ∨ processType = ascii "CHANNEL_REMAP" then
        .channelRemap
      else if processType = ascii "DELAY_LINE" then .delayLine
      else if processType = ascii "FADER_BALANCE" then .faderBalance
      else if processType = ascii "DSP_FILTER" then .dspFilter
      else if processType = ascii "VERISILICON_CODEC" then .verisiliconCodec
      else .moduleAdapter

def acDaiTypeFromString : Option Bytes → Option DaiType
  | .none => .none
  | some daiType =>
      if daiType = ascii "FILE_IO" ∨ daiType = ascii "file_io_dai" then some .fileIo
      else if daiType = ascii "VSI_TDM" ∨ daiType = ascii "vsi_tdm_dai" then some .vsiTdm
      else if daiType = ascii "VSI_I2S" ∨ daiType = ascii "vsi_i2s_dai" then some .vsiI2s
      else if daiType = ascii "DW_I2S" ∨ daiType = ascii "dw_i2s_dai" then some .dwI2s
      else if daiType = ascii "DW_TDM" ∨ daiType = ascii "dw_tdm_dai" then some .dwTdm
      else .none

def acCompUsesInitPayload : CompType → Bool
  | .channelRemap => false
  | .dspFilter => false
  | _ => true

def acCompUsesRuntimePayload : CompType → Bool
  | .channelRemap => true
  | .dspFilter => true
  | _ => false

def acCompTypeForWidget (widget : AcWidget) : CompType :=
  if widget.id = acDapmAifIn ∨ widget.id = acDapmAifOut then .host
  else if widget.id = acDapmDaiIn ∨ widget.id = acDapmDaiOut then .dai
  else if widget.id = acDapmPga then .volume
  else if widget.id = acDapmMixer then .mixer
  else if widget.id = acDapmMux then .mux
  else if widget.id = acDapmSrc then .src
  else if widget.id = acDapmAsrc then .asrc
  else if widget.id = acDapmEffect then
    acProcessTypeFromString (acTokenString widget acSofTknProcessType)
  else .none

/-! ## Routes -/

def acMaxRouteIds : Nat := 8

def acAddUniqueId (ids : List UInt16) (id : UInt16) : Option (List UInt16) :=
  if id = 0 then some ids
  else if id ∈ ids then some ids
  else if acMaxRouteIds ≤ ids.length then none
  else some (ids ++ [id])

/-- The ids of the components next to a widget, through its buffers and the widgets
without a component; `depth` is how often it may recur. -/
def acCollectRouteIds (topology : AcTopology) (pipelineId : UInt32) (compIds : List UInt16)
    (sourceSide : Bool) : (depth : Nat) → (widgetName : Bytes) → List UInt16 →
    Option (List UInt16)
  | 0, _, _ => none
  | depth + 1, widgetName, ids =>
      topology.routes.foldlM (m := Option) (fun ids route =>
        let other :=
          if sourceSide then if route.sink = widgetName then route.source else []
          else if route.source = widgetName then route.sink else []
        if other.isEmpty then some ids
        else
          match topology.widgets.findIdx? (·.name == other) with
          | none => some ids
          | some index =>
              match topology.widgets[index]? with
              | none => some ids
              | some widget =>
                  if widget.pipelineId ≠ pipelineId then some ids
                  else if widget.id = acDapmBuffer ∨ acCompTypeForWidget widget = .none then
                    acCollectRouteIds topology pipelineId compIds sourceSide depth widget.name ids
                  else acAddUniqueId ids (compIds.getD index 0)) ids

/-! ## Control payloads -/

/-- The header that SOF puts before binary control data. -/
structure SofAbiHdr where
  magic : UInt32
  type : UInt32
  size : UInt32
  deriving DecidableEq, Repr

/-- What the loader uses of SOF's ABI: the magic, and the size and layout of the header. -/
structure SofAbi where
  magic : UInt32
  hdrSize : Nat
  hdr : Bytes → SofAbiHdr

structure ControlPayload where
  data : Bytes
  type : UInt32
  deriving DecidableEq, Repr

/-- The payload of a control, which need not have one; an error when its header is too
large for it. -/
def acControlPayloadData (abi : SofAbi) (control : AcControl) :
    Except Unit (Option ControlPayload) :=
  if control.payload.isEmpty then .ok none
  else if abi.hdrSize ≤ control.payload.length ∧ (abi.hdr control.payload).magic = abi.magic then
    if (abi.hdr control.payload).size.toNat > control.payload.length - abi.hdrSize then .error ()
    else
      .ok (some
        { data := (control.payload.drop abi.hdrSize).take (abi.hdr control.payload).size.toNat
          type := (abi.hdr control.payload).type })
  else .ok (some { data := control.payload, type := control.payloadType })

def acFirstControlPayload (abi : SofAbi) : List AcControl → Except Unit (Option ControlPayload)
  | [] => .ok none
  | control :: controls =>
      match acControlPayloadData abi control with
      | .error error => .error error
      | .ok none => acFirstControlPayload abi controls
      | .ok (some payload) => .ok (some payload)

/-! ## Component configurations -/

/-- The part of a configuration that depends on the component's type. -/
inductive CompParams where
  | host (streamName : Bytes)
  | fileIo (sampleRate channels sampleWidth daiIndex : UInt32)
  | dai (type : DaiType) (daiIndex : UInt32)
  | volume (channels minValue maxValue initialRamp : UInt32)
  | src (sourceRate sinkRate : UInt32)
  | asrc (sourceRate sinkRate asynchronousMode operationMode : UInt32)
  | generic (payload : Option ControlPayload)
  deriving DecidableEq, Repr

structure SofCompConfig where
  compId : UInt16
  name : Bytes
  core : UInt32
  type : CompType
  periodsSink : UInt16
  periodsSource : UInt16
  uuid : Option Bytes
  params : CompParams
  deriving DecidableEq, Repr

def acCompParams (abi : SofAbi) (widget : AcWidget) (pipeline : AcPipeline) :
    CompType → Option CompParams
  | .host => some (.host widget.streamName)
  | .dai =>
      match acDaiTypeFromString (acTokenString widget acSofTknDaiType) with
      | none => none
      | some .fileIo =>
          some (.fileIo 48000 (if pipeline.maxChannels ≠ 0 then pipeline.maxChannels else 2) 16
            (acTokenValue widget acSofTknDaiIndex 0))
      | some daiType => some (.dai daiType (acTokenValue widget acSofTknDaiIndex 0))
  | .volume =>
      some (.volume (if pipeline.maxChannels ≠ 0 then pipeline.maxChannels else 2) 0 65536 250)
  | .src =>
      some (.src (acTokenValue widget acSofTknSrcRateIn 0)
        (acTokenValue widget acSofTknSrcRateOut 0))
  | .asrc =>
      some (.asrc (acTokenValue widget acSofTknAsrcRateIn 0)
        (acTokenValue widget acSofTknAsrcRateOut 0)
        (acTokenValue widget acSofTknAsrcAsynchronousMode 0)
        (acTokenValue widget acSofTknAsrcOperationMode 0))
  | type =>
      if acCompUsesInitPayload type then
        match acFirstControlPayload abi widget.controls with
        | .error _ => none
        | .ok payload => some (.generic payload)
      else some (.generic none)

def acFillCompConfig (abi : SofAbi) (widget : AcWidget) (pipeline : AcPipeline)
    (compId : UInt16) : Option SofCompConfig :=
  (acCompParams abi widget pipeline (acCompTypeForWidget widget)).map fun params =>
    { compId, name := widget.name
      core := acTokenValue widget acSofTknCompCoreId 0
      type := acCompTypeForWidget widget
      periodsSink := (acTokenValue widget acSofTknCompPeriodSinkCount 2).toUInt16
      periodsSource := (acTokenValue widget acSofTknCompPeriodSourceCount 2).toUInt16
      uuid := acTokenUuid widget
      params }

/-! ## What the loader calls -/

inductive PipeAttribute where
  | pipeIndex | pipeCoreId | period | priority | channelMax | bytesPerSampleMax | sampleRateMax
  | pipeSchedId | lastSubPipe
  deriving DecidableEq, Repr

structure SofPipeConfig where
  pipeIdx : UInt32
  core : UInt32
  period : UInt32
  priority : UInt8
  channelMax : UInt8
  bytesPerSampleMax : UInt8
  sampleRateMax : UInt32
  pipeSchedId : UInt32
  lastSubPipe : Bool
  deriving DecidableEq, Repr

/-- The driver's allocator and the functions of the SOF library.  Buffers and pipes are
named by their addresses. -/
inductive LoaderCmd where
  | alloc (size : Nat)
  | free (address : Nat)
  | pipelineCreate
  | pipelineConfig (pipe : Nat) (key : PipeAttribute) (config : SofPipeConfig)
  | pipelineAddComp (pipe : Nat) (config : SofCompConfig) (sources sinks : List UInt16)
  | pipelineInstall (pipe : Nat)
  | pipelineRemove (pipe : Nat)
  | pipelineDestroy (pipe : Nat)
  | ctrlSet (compId : UInt16) (payload : ControlPayload)

abbrev LoaderReply : LoaderCmd → Type
  | .alloc _ => Option Nat
  | .free _ => Unit
  | .pipelineCreate => Option Nat
  | .pipelineConfig _ _ _ => Int
  | .pipelineAddComp _ _ _ _ => Int
  | .pipelineInstall _ => Int
  | .pipelineRemove _ => Int
  | .pipelineDestroy _ => Int
  | .ctrlSet _ _ => Int

abbrev LoaderProc := Proc LoaderReply

def driverAlloc (size : Nat) : LoaderProc (Option Nat) :=
  Proc.request (LoaderCmd.alloc size)

def sofPipelineCreate : LoaderProc (Option Nat) :=
  Proc.request LoaderCmd.pipelineCreate

/-- The message that the controller reports, with what stands behind it. -/
inductive LoaderError where
  | plain (message : String)
  | detail (message : String) (detail : Bytes)
  | int (message : String) (value : Int)
  deriving DecidableEq, Repr

abbrev LoaderResult := Except LoaderError

/-! ## Controls of installed components -/

/-- The size of `struct sof_ipc_ctrl_data` is `ctrlDataSize`. -/
def acApplyControlPayload (abi : SofAbi) (ctrlDataSize : Nat) (compId : UInt16)
    (control : AcControl) : LoaderProc Bool :=
  match acControlPayloadData abi control with
  | .error _ => pure false
  | .ok none => pure true
  | .ok (some payload) => do
      match ← driverAlloc (ctrlDataSize + abi.hdrSize + payload.data.length) with
      | none => pure false
      | some cdata => do
          let ret ← Proc.request (.ctrlSet compId payload)
          let _ ← Proc.request (.free cdata)
          pure (0 ≤ ret)

def acApplyControls (abi : SofAbi) (ctrlDataSize : Nat) (compId : UInt16) :
    List AcControl → LoaderProc Bool
  | [] => pure true
  | control :: controls => do
      if ← acApplyControlPayload abi ctrlDataSize compId control then
        acApplyControls abi ctrlDataSize compId controls
      else pure false

/-- The widgets with their component ids. -/
def acApplyWidgetControls (abi : SofAbi) (ctrlDataSize : Nat) (pipeline : AcPipeline) :
    List (AcWidget × UInt16) → LoaderProc (LoaderResult Unit)
  | [] => pure (.ok ())
  | (widget, compId) :: rest =>
      if compId = 0 ∨ widget.pipelineId ≠ pipeline.id ∨
          acCompUsesRuntimePayload (acCompTypeForWidget widget) = false then
        acApplyWidgetControls abi ctrlDataSize pipeline rest
      else do
        if ← acApplyControls abi ctrlDataSize compId widget.controls then
          acApplyWidgetControls abi ctrlDataSize pipeline rest
        else pure (.error (.detail "sof_ctrl_set failed: " widget.name))

/-! ## Component ids -/

def acPipelineCompIdStride : UInt32 := 256

/-- Whether a widget becomes a component of a pipeline. -/
def isComponent (pipeline : AcPipeline) (widget : AcWidget) : Bool :=
  widget.pipelineId = pipeline.id ∧ acCompTypeForWidget widget ≠ .none

/-- An id for each component of the pipeline, from `nextId` on, and 0 for all other
widgets. -/
def acNumberWidgets (pipeline : AcPipeline) : List AcWidget → (nextId : UInt16) →
    Option (List UInt16)
  | [], _ => some []
  | widget :: widgets, nextId =>
      if isComponent pipeline widget then
        if nextId = 65535 then none
        else (acNumberWidgets pipeline widgets (nextId + 1)).map (nextId :: ·)
      else (acNumberWidgets pipeline widgets nextId).map (0 :: ·)

/-- The ids with the address of their array. -/
def acAllocCompIds (topology : AcTopology) (pipeline : AcPipeline) :
    LoaderProc (Option (Nat × List UInt16)) := do
  match ← driverAlloc (topology.widgets.length * 2) with
  | none => pure none
  | some address =>
      let baseId := pipeline.id * acPipelineCompIdStride + 1
      if baseId > 65535 then do
        let _ ← Proc.request (.free address)
        pure none
      else
        match acNumberWidgets pipeline topology.widgets baseId.toUInt16 with
        | none => do
            let _ ← Proc.request (.free address)
            pure none
        | some compIds => pure (some (address, compIds))

/-! ## Installation -/

def acFindScheduler (topology : AcTopology) (pipeline : AcPipeline) : Option AcWidget :=
  topology.widgets.find? fun widget =>
    widget.pipelineId = pipeline.id ∧ widget.id = acDapmScheduler

def pipeAttributes : List PipeAttribute :=
  [.pipeIndex, .pipeCoreId, .period, .priority, .channelMax, .bytesPerSampleMax, .sampleRateMax,
    .pipeSchedId, .lastSubPipe]

/-- Every attribute is set, also after one that failed. -/
def acConfigAttributes (pipe : Nat) (config : SofPipeConfig) :
    List PipeAttribute → LoaderProc Bool
  | [] => pure true
  | key :: keys => do
      let ret ← Proc.request (.pipelineConfig pipe key config)
      let others ← acConfigAttributes pipe config keys
      pure (ret = 0 && others)

def acConfigPipe (pipe : Nat) (pipeline : AcPipeline) (scheduler : AcWidget)
    (lastSubPipe : Bool) : LoaderProc Bool :=
  acConfigAttributes pipe
    { pipeIdx := pipeline.id
      core := acTokenValue scheduler acSofTknSchedCore 0
      period := acTokenValue scheduler acSofTknSchedPeriod 4000
      priority := (acTokenValue scheduler acSofTknSchedPriority 0).toUInt8
      channelMax := pipeline.maxChannels.toUInt8
      bytesPerSampleMax := pipeline.maxBytesPerSample.toUInt8
      sampleRateMax := pipeline.maxSampleRate
      pipeSchedId := 0
      lastSubPipe } pipeAttributes

def acDestroyPipe (pipe : Nat) : LoaderProc Unit := do
  let _ ← Proc.request (.pipelineRemove pipe)
  let _ ← Proc.request (.pipelineDestroy pipe)
  pure ()

/-- The components next to a widget on both sides. -/
def acRouteIds (topology : AcTopology) (pipeline : AcPipeline) (compIds : List UInt16)
    (widget : AcWidget) : Option (List UInt16 × List UInt16) := do
  let sources ← acCollectRouteIds topology pipeline.id compIds true (topology.widgets.length + 1)
    widget.name []
  let sinks ← acCollectRouteIds topology pipeline.id compIds false (topology.widgets.length + 1)
    widget.name []
  pure (sources, sinks)

def acAddComps (abi : SofAbi) (topology : AcTopology) (pipeline : AcPipeline) (pipe : Nat)
    (compIds : List UInt16) : List (AcWidget × UInt16) → LoaderProc (LoaderResult Unit)
  | [] => pure (.ok ())
  | (widget, compId) :: rest =>
      if compId = 0 then acAddComps abi topology pipeline pipe compIds rest
      else
        match acRouteIds topology pipeline compIds widget with
        | none => pure (.error (.detail "too many routes for component: " widget.name))
        | some (sources, sinks) =>
            match acFillCompConfig abi widget pipeline compId with
            | none => pure (.error (.detail "unsupported component config: " widget.name))
            | some config => do
                let ret ← Proc.request (.pipelineAddComp pipe config sources sinks)
                if ret < 0 then
                  pure (.error (.detail "sof_pipeline_add_comp failed: " widget.name))
                else acAddComps abi topology pipeline pipe compIds rest

structure InstalledPipeline where
  pipeId : UInt32
  maxSampleRate : UInt32
  maxChannels : UInt32
  pipeline : Nat
  deriving DecidableEq, Repr

/-- The part of `ac_install_one_pipeline` behind the configuration of the pipe. -/
def acInstallComps (abi : SofAbi) (ctrlDataSize : Nat) (topology : AcTopology)
    (pipeline : AcPipeline) (pipe address : Nat) (compIds : List UInt16) :
    LoaderProc (LoaderResult InstalledPipeline) := do
  match ← acAddComps abi topology pipeline pipe compIds (topology.widgets.zip compIds) with
  | .error error => do
      let _ ← Proc.request (.free address)
      acDestroyPipe pipe
      pure (.error error)
  | .ok () => do
      let ret ← Proc.request (.pipelineInstall pipe)
      if ret < 0 then do
        let _ ← Proc.request (.free address)
        acDestroyPipe pipe
        pure (.error (.int "sof_pipeline_install failed: " ret))
      else
        match ← acApplyWidgetControls abi ctrlDataSize pipeline (topology.widgets.zip compIds) with
        | .error error => do
            let _ ← Proc.request (.free address)
            acDestroyPipe pipe
            pure (.error error)
        | .ok () => do
            let _ ← Proc.request (.free address)
            pure (.ok
              { pipeId := pipeline.id, maxSampleRate := pipeline.maxSampleRate
                maxChannels := pipeline.maxChannels, pipeline := pipe })

def acInstallOnePipeline (abi : SofAbi) (ctrlDataSize : Nat) (topology : AcTopology)
    (pipeline : AcPipeline) (lastSubPipe : Bool) : LoaderProc (LoaderResult InstalledPipeline) :=
  match acFindScheduler topology pipeline with
  | none => pure (.error (.detail "pipeline has no scheduler: " pipeline.name))
  | some scheduler => do
      match ← acAllocCompIds topology pipeline with
      | none => pure (.error (.plain "out of memory while building install plan"))
      | some (address, compIds) => do
          match ← sofPipelineCreate with
          | none => do
              let _ ← Proc.request (.free address)
              pure (.error (.detail "sof_pipeline_create failed: " pipeline.name))
          | some pipe => do
              if ← acConfigPipe pipe pipeline scheduler lastSubPipe then
                acInstallComps abi ctrlDataSize topology pipeline pipe address compIds
              else do
                let _ ← Proc.request (.free address)
                let _ ← Proc.request (.pipelineDestroy pipe)
                pure (.error (.detail "sof_pipeline_config failed: " pipeline.name))

def acCleanupInstalled : List InstalledPipeline → LoaderProc Unit
  | [] => pure ()
  | installed :: rest => do
      acDestroyPipe installed.pipeline
      acCleanupInstalled rest

def audioControllerMaxInstalledPipelines : Nat := 16

/-- The loop of `audio_controller_install_all`. -/
def acInstallPipelines (abi : SofAbi) (ctrlDataSize : Nat) (topology : AcTopology) :
    List AcPipeline → List InstalledPipeline → LoaderProc (LoaderResult (List InstalledPipeline))
  | [], installed => pure (.ok installed)
  | pipeline :: rest, installed => do
      match ← acInstallOnePipeline abi ctrlDataSize topology pipeline rest.isEmpty with
      | .error error => do
          acCleanupInstalled installed
          pure (.error error)
      | .ok pipeline => acInstallPipelines abi ctrlDataSize topology rest (installed ++ [pipeline])

def audioControllerInstallAll (abi : SofAbi) (ctrlDataSize : Nat) (topology : AcTopology) :
    LoaderProc (LoaderResult (List InstalledPipeline)) :=
  if topology.pipelines.length > audioControllerMaxInstalledPipelines then
    pure (.error (.plain "too many pipelines in topology"))
  else if topology.pipelines.isEmpty then
    pure (.error (.plain "topology has no pipelines"))
  else acInstallPipelines abi ctrlDataSize topology topology.pipelines []

end AudioStudio.Loader
