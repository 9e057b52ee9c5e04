import AudioStudio.Config.Graph
import AudioStudio.Core.Arcs
import AudioStudio.Rpc.ServerMethods

/-!
# Buffer sizes and link ids

What `config_service.cpp` computes in words of 32 bits: the period of a pipeline, the sizes of
the buffers between its nodes, and the ids of its DAI links.
-/

namespace AudioStudio.Config

open AudioStudio.Common
open AudioStudio.LittleEndian
open AudioStudio.Rpc

/-! ## Numbers of the project -/

/-- `asUInt64`, whose exceptions the compiler passes on. -/
def numberValue (value : JsonValue) : Parsed Nat :=
  match value.asUInt64 with
  | .ok number => .ok number
  | .error (.standard what) => .error (.thrown what)
  | .error _ => .error (.thrown [])

/-- The number is cut to 32 bits. -/
def uintValue (object : JsonValue) (key : Bytes) (fallback : UInt32) : Parsed UInt32 :=
  match object.member key with
  | none | some .null => .ok fallback
  | some (.number scalar) => (numberValue (.number scalar)).map Nat.toUInt32
  | some _ => raise "JSON field must be number: " key

def hasValue (object : JsonValue) (key : Bytes) : Bool :=
  match object.member key with
  | none | some .null => false
  | some _ => true

/-- The first of the keys that has a value. -/
def uintValueAny (object : JsonValue) (keys : List Bytes) (fallback : UInt32) : Parsed UInt32 :=
  match keys.find? (hasValue object ·) with
  | none => .ok fallback
  | some key => uintValue object key fallback

/-- The member, if it is an object. -/
def objectMember (object : JsonValue) (key : String) : Option JsonValue :=
  match object.member (asciiBytes key) with
  | some (.object members) => some (.object members)
  | _ => none

/-! ## Scheduling -/

structure SofSchedulingInfo where
  periodUs : UInt32 := 10000
  priority : UInt32 := 0
  core : UInt32 := 0
  timeDomain : UInt32 := 0
  deriving DecidableEq, Repr

def parseFrameScheduling (item : JsonValue) (scheduling : SofSchedulingInfo) :
    Parsed SofSchedulingInfo :=
  match objectMember item "frame" with
  | none => .ok scheduling
  | some frame => do
      let blockMs ← uintValue frame (asciiBytes "block_ms") 0
      if blockMs ≠ 0 then pure { scheduling with periodUs := blockMs * 1000 }
      else pure scheduling

def sofPeriodKeys : List Bytes := ["period_us", "sched_period_us"].map asciiBytes

def parseSofScheduling (item : JsonValue) (scheduling : SofSchedulingInfo) :
    Parsed SofSchedulingInfo :=
  match objectMember item "sof" with
  | none => .ok scheduling
  | some sof => do
      let periodUs ← uintValueAny sof sofPeriodKeys scheduling.periodUs
      let priority ← uintValueAny sof (["priority", "sched_priority"].map asciiBytes)
        scheduling.priority
      let core ← uintValueAny sof (["core", "core_id", "sched_core"].map asciiBytes)
        scheduling.core
      let timeDomain ← uintValueAny sof (["time_domain", "sched_time_domain"].map asciiBytes)
        scheduling.timeDomain
      pure { periodUs, priority, core, timeDomain }

def runtimePeriodKeys : List Bytes := ["period_us", "schedule_period_us"].map asciiBytes

/-- A core is named by its resource or by its index. -/
def parseRuntimeCore (cores : List (Bytes × UInt32)) (runtime : JsonValue) (core : UInt32) :
    Parsed UInt32 := do
  let coreRef ← stringValue runtime "core_ref"
  let core ←
    (if coreRef = [] then pure core
    else
      match cores.lookup coreRef with
      | none => raise "pipeline runtime references unknown core_ref: " coreRef
      | some core => pure core)
  uintValueAny runtime (["core_index", "core"].map asciiBytes) core

def clockDomain (clock : Bytes) (timeDomain : UInt32) : UInt32 :=
  if clock = asciiBytes "timer" ∨ clock = asciiBytes "wall" then 1
  else if clock = asciiBytes "dma" ∨ clock = asciiBytes "dai" then 0
  else timeDomain

def parseRuntimeScheduling (cores : List (Bytes × UInt32)) (item : JsonValue)
    (scheduling : SofSchedulingInfo) : Parsed SofSchedulingInfo :=
  match objectMember item "runtime" with
  | none => .ok scheduling
  | some runtime => do
      let periodUs ← uintValueAny runtime runtimePeriodKeys scheduling.periodUs
      let priority ← uintValueAny runtime (["priority", "schedule_priority"].map asciiBytes)
        scheduling.priority
      let core ← parseRuntimeCore cores runtime scheduling.core
      let scheduleClock ← stringValue runtime "schedule_clock"
      let clock ← stringValue runtime "clock" scheduleClock
      pure { periodUs, priority, core,
             timeDomain := clockDomain (clock.map toLower) scheduling.timeDomain }

/-- `cores` are those of the resource catalog. -/
def parseScheduling (cores : List (Bytes × UInt32)) (item : JsonValue) :
    Parsed SofSchedulingInfo := do
  let scheduling ← parseFrameScheduling item {}
  let scheduling ← parseSofScheduling item scheduling
  parseRuntimeScheduling cores item scheduling

/-! ## Pipelines with their numbers -/

structure PortFormat where
  maxCh : UInt32
  sampleBits : UInt32
  deriving DecidableEq, Repr

def maxChannelsFromPortInfos (ports : List PortFormat) : UInt32 :=
  ports.foldl (fun channels port => if port.maxCh ≠ 0 then max channels port.maxCh else channels) 2

def sampleBitsFromPortInfos (ports : List PortFormat) : UInt32 :=
  let sampleBits := ports.foldl
    (fun bits port => if port.sampleBits ≠ 0 then max bits port.sampleBits else bits) 0
  if sampleBits = 0 then 32 else sampleBits

structure SizedPipeline extends PipelineInfo where
  pcmIndex : UInt32 := 0
  sampleRate : UInt32 := 48000
  channelsMax : UInt32 := 2
  sampleBits : UInt32 := 32
  scheduling : SofSchedulingInfo := {}
  deriving DecidableEq, Repr

/-- What is written of a pipeline: its text, what it is without its numbers, and the formats of
its ports. -/
structure PipelineSource where
  item : JsonValue
  info : PipelineInfo
  formats : List PortFormat

def frameRate (item : JsonValue) : Parsed UInt32 :=
  match objectMember item "frame" with
  | none => .ok 48000
  | some frame => uintValue frame (asciiBytes "rate") 48000

def sizePipeline (cores : List (Bytes × UInt32)) (source : PipelineSource) (index : Nat) :
    Parsed SizedPipeline := do
  let sampleRate ← frameRate source.item
  let scheduling ← parseScheduling cores source.item
  pure { source.info with
    pcmIndex := index.toUInt32
    sampleRate
    channelsMax := maxChannelsFromPortInfos source.formats
    sampleBits := sampleBitsFromPortInfos source.formats
    scheduling }

/-- Pipelines are counted as they are read. -/
def sizePipelines (cores : List (Bytes × UInt32)) (sources : List PipelineSource) :
    Parsed (List SizedPipeline) :=
  sources.zipIdx.mapM fun source => sizePipeline cores source.1 source.2

/-! ## Buffers -/

namespace SizedPipeline

variable (pipeline : SizedPipeline)

def periodsSinkForNode (node : NodeInfo) : UInt32 :=
  if isHostPortWidget pipeline.toPipelineInfo node then
    if pipeline.direction = asciiBytes "playback" then 4 else 0
  else if isDaiPortWidget pipeline.toPipelineInfo node then
    if pipeline.direction = asciiBytes "playback" then 0 else 2
  else 2

def periodsSourceForNode (node : NodeInfo) : UInt32 :=
  if isHostPortWidget pipeline.toPipelineInfo node then
    if pipeline.direction = asciiBytes "capture" then 2 else 0
  else if isDaiPortWidget pipeline.toPipelineInfo node then
    if pipeline.direction = asciiBytes "playback" then 2 else 0
  else if node.moduleType ∈ ["filter.channel_remap", "filter.chremap", "delay.line",
      "delay.delay_line", "filter.dsp_filter"].map asciiBytes then 3
  else 2

def edgeBufferPeriods (source sink : NodeInfo) : UInt32 :=
  let periods := pipeline.periodsSourceForNode source
  let periods := if periods = 0 then pipeline.periodsSinkForNode source else periods
  let periods := if periods = 0 then pipeline.periodsSinkForNode sink else periods
  if periods = 0 then 2 else periods

/-- The quotient is taken in 64 bits, where nothing is lost, and then cut to 32. -/
def periodFrames : UInt32 :=
  let product : UInt64 := pipeline.sampleRate.toUInt64 * pipeline.scheduling.periodUs.toUInt64
  ((product + 1000000 - 1) / 1000000).toUInt32

def sampleBytes : UInt32 :=
  if pipeline.sampleBits ≤ 16 then 2 else 4

def edgeBufferCaps (source sink : NodeInfo) : UInt32 :=
  if [source, sink].any fun node =>
      isHostPortWidget pipeline.toPipelineInfo node || isDaiPortWidget pipeline.toPipelineInfo node
  then 97 else 65

structure InferredBuffer where
  edgeIndex : Nat
  widgetName : Bytes
  sizeBytes : UInt32
  caps : UInt32
  deriving DecidableEq, Repr

def inferBufferForEdge (source sink : NodeInfo) (edgeIndex : Nat) : InferredBuffer :=
  let channels := max 1 pipeline.channelsMax
  let periodFrames := max 1 pipeline.periodFrames
  { edgeIndex
    widgetName := inferredBufferName pipeline.toPipelineInfo edgeIndex
    sizeBytes := pipeline.edgeBufferPeriods source sink * pipeline.sampleBytes * channels *
      periodFrames
    caps := pipeline.edgeBufferCaps source sink }

/-! ## Links -/

/-- The nodes that DAI objects are written for, in their order. -/
def daiLinks : List NodeInfo :=
  pipeline.nodes.filter fun node =>
    isDaiPortWidget pipeline.toPipelineInfo node &&
      (findPort pipeline.toPipelineInfo node).isSome

def linkId (localId : Nat) : UInt32 :=
  pipeline.pcmIndex * 16 + localId.toUInt32

/-- `local_id` counts the links of the pipeline. -/
def linkIds : List UInt32 :=
  (List.range pipeline.daiLinks.length).map pipeline.linkId

/-! ## What the numbers are to be -/

/-- The frames of a period, rounded up. -/
def exactPeriodFrames : Nat :=
  (pipeline.sampleRate.toNat * pipeline.scheduling.periodUs.toNat + 999999) / 1000000

def exactSize (source sink : NodeInfo) : Nat :=
  (pipeline.edgeBufferPeriods source sink).toNat * pipeline.sampleBytes.toNat *
    max 1 pipeline.channelsMax.toNat * max 1 pipeline.exactPeriodFrames

/-- An edge that a buffer is written for, with its nodes. -/
def Buffered (edgeIndex : Nat) (source sink : NodeInfo) : Prop :=
  ∃ edge, pipeline.edges[edgeIndex]? = some edge ∧
    edgeNodes pipeline.toPipelineInfo edge = some (source, sink)

end SizedPipeline

/-- The period of a pipeline is that of its frame: there is a number of milliseconds, and
neither the `sof` nor the `runtime` object has a period. -/
structure TakenFromBlock (item : JsonValue) (blockMs : Nat) : Prop where
  block : ∃ frame scalar, objectMember item "frame" = some frame ∧
    frame.member (asciiBytes "block_ms") = some (.number scalar) ∧
    numberValue (.number scalar) = .ok blockMs
  given : blockMs ≠ 0
  sof : ∀ sof, objectMember item "sof" = some sof → ∀ key ∈ sofPeriodKeys, hasValue sof key = false
  runtime : ∀ runtime, objectMember item "runtime" = some runtime →
    ∀ key ∈ runtimePeriodKeys, hasValue runtime key = false

/-- Periods and sizes are the natural numbers they are to be, and link ids differ. -/
structure ComputedExactly (sources : List PipelineSource) (pipelines : List SizedPipeline) :
    Prop where
  periods : List.Forall₂ (fun source pipeline => ∀ blockMs, TakenFromBlock source.item blockMs →
    pipeline.scheduling.periodUs.toNat = 1000 * blockMs) sources pipelines
  sizes : ∀ pipeline ∈ pipelines, ∀ edgeIndex source sink,
    pipeline.Buffered edgeIndex source sink →
      (pipeline.inferBufferForEdge source sink edgeIndex).sizeBytes.toNat =
        pipeline.exactSize source sink
  links : (pipelines.flatMap SizedPipeline.linkIds).Nodup

/-- The links of pipelines that have some leave room for each other, around 32 bits. -/
structure LinksFit (pipelines : List SizedPipeline) : Prop where
  each : ∀ pipeline ∈ pipelines, pipeline.daiLinks.length ≤ 2 ^ 32
  apart : ∀ first second (hfirst : first < pipelines.length) (hsecond : second < pipelines.length),
    first < second → pipelines[first].daiLinks ≠ [] → pipelines[second].daiLinks ≠ [] →
      pipelines[first].daiLinks.length ≤ 16 * ((second - first) % 2 ^ 28) ∧
        pipelines[second].daiLinks.length + 16 * ((second - first) % 2 ^ 28) ≤ 2 ^ 32

/-- All of it fits into 32 bits. -/
structure FitsWords (sources : List PipelineSource) (pipelines : List SizedPipeline) : Prop where
  periods : ∀ source ∈ sources, ∀ blockMs, TakenFromBlock source.item blockMs →
    1000 * blockMs < 2 ^ 32
  sizes : ∀ pipeline ∈ pipelines, ∀ edgeIndex source sink,
    pipeline.Buffered edgeIndex source sink → pipeline.exactSize source sink < 2 ^ 32
  links : LinksFit pipelines

/-! ## Periods -/

theorem uintValueAny_absent {object : JsonValue} {keys : List Bytes}
    (habsent : ∀ key ∈ keys, hasValue object key = false) (fallback : UInt32) :
    uintValueAny object keys fallback = .ok fallback := by
  have hnone : keys.find? (hasValue object ·) = none := by
    rw [List.find?_eq_none]
    intro key hmem
    rw [habsent key hmem]
    exact Bool.false_ne_true
  rw [uintValueAny, hnone]

variable {item : JsonValue} {scheduling : SofSchedulingInfo}

theorem parseSofScheduling_period {scheduling' : SofSchedulingInfo}
    (habsent : ∀ sof, objectMember item "sof" = some sof →
      ∀ key ∈ sofPeriodKeys, hasValue sof key = false)
    (hparse : parseSofScheduling item scheduling = .ok scheduling') :
    scheduling'.periodUs = scheduling.periodUs := by
  unfold parseSofScheduling at hparse
  split at hparse
  · cases hparse
    rfl
  · next sof hsof =>
      rw [uintValueAny_absent (habsent sof hsof)] at hparse
      obtain ⟨periodUs, hperiod, hparse⟩ := bind_eq_ok hparse
      obtain ⟨priority, _, hparse⟩ := bind_eq_ok hparse
      obtain ⟨core, _, hparse⟩ := bind_eq_ok hparse
      obtain ⟨timeDomain, _, hparse⟩ := bind_eq_ok hparse
      cases hparse
      exact (Except.ok.inj hperiod).symm

variable {cores : List (Bytes × UInt32)}

theorem parseRuntimeScheduling_period {scheduling' : SofSchedulingInfo}
    (habsent : ∀ runtime, objectMember item "runtime" = some runtime →
      ∀ key ∈ runtimePeriodKeys, hasValue runtime key = false)
    (hparse : parseRuntimeScheduling cores item scheduling = .ok scheduling') :
    scheduling'.periodUs = scheduling.periodUs := by
  unfold parseRuntimeScheduling at hparse
  split at hparse
  · cases hparse
    rfl
  · next runtime hruntime =>
      rw [uintValueAny_absent (habsent runtime hruntime)] at hparse
      obtain ⟨periodUs, hperiod, hparse⟩ := bind_eq_ok hparse
      obtain ⟨priority, _, hparse⟩ := bind_eq_ok hparse
      obtain ⟨core, _, hparse⟩ := bind_eq_ok hparse
      obtain ⟨scheduleClock, _, hparse⟩ := bind_eq_ok hparse
      obtain ⟨clock, _, hparse⟩ := bind_eq_ok hparse
      cases hparse
      exact (Except.ok.inj hperiod).symm

variable {blockMs : Nat}

/-- A period that is taken from the frame is a product of 32 bits, if its factor is not lost. -/
theorem parseScheduling_block (htaken : TakenFromBlock item blockMs)
    (hparse : parseScheduling cores item = .ok scheduling) :
    scheduling.periodUs = if blockMs.toUInt32 ≠ 0 then blockMs.toUInt32 * 1000 else 10000 := by
  unfold parseScheduling at hparse
  obtain ⟨framed, hframe, hparse⟩ := bind_eq_ok hparse
  obtain ⟨chosen, hsof, hparse⟩ := bind_eq_ok hparse
  rw [parseRuntimeScheduling_period htaken.runtime hparse,
    parseSofScheduling_period htaken.sof hsof]
  obtain ⟨frame, scalar, hmember, hblock, hnumber⟩ := htaken.block
  unfold parseFrameScheduling at hframe
  rw [hmember] at hframe
  dsimp only at hframe
  unfold uintValue at hframe
  rw [hblock] at hframe
  dsimp only at hframe
  rw [hnumber] at hframe
  obtain ⟨narrow, hnarrow, hframe⟩ := bind_eq_ok hframe
  obtain rfl : blockMs.toUInt32 = narrow := Except.ok.inj hnarrow
  split at hframe
  · next hlost =>
      cases hframe
      rw [if_pos hlost]
  · next hlost =>
      cases hframe
      rw [if_neg hlost]

theorem period_exact_iff (hsome : blockMs ≠ 0) :
    (if blockMs.toUInt32 ≠ 0 then blockMs.toUInt32 * 1000 else 10000 : UInt32).toNat =
      1000 * blockMs ↔ 1000 * blockMs < 2 ^ 32 := by
  have hnarrow : blockMs.toUInt32.toNat = blockMs % 2 ^ 32 := UInt32.toNat_ofNat'
  split
  · rw [UInt32.toNat_mul, hnarrow]
    have hthousand : (1000 : UInt32).toNat = 1000 := rfl
    rw [hthousand]
    omega
  · next hlost =>
      have hzero : blockMs % 2 ^ 32 = 0 := by
        rw [← hnarrow, not_not.mp hlost]
        rfl
      have hdefault : (10000 : UInt32).toNat = 10000 := rfl
      rw [hdefault]
      omega

theorem parseScheduling_exact_iff (htaken : TakenFromBlock item blockMs)
    (hparse : parseScheduling cores item = .ok scheduling) :
    scheduling.periodUs.toNat = 1000 * blockMs ↔ 1000 * blockMs < 2 ^ 32 := by
  rw [parseScheduling_block htaken hparse, period_exact_iff htaken.given]

/-! ## Sizes -/

theorem max_one_toNat (number : UInt32) : (max 1 number).toNat = max 1 number.toNat := by
  have hone : (1 : UInt32).toNat = 1 := rfl
  rw [UInt32.max_def]
  split
  · next hle =>
      rw [UInt32.le_iff_toNat_le, hone] at hle
      exact (Nat.max_eq_right hle).symm
  · next hless =>
      rw [UInt32.le_iff_toNat_le, hone] at hless
      exact (Nat.max_eq_left (Nat.le_of_not_le hless)).symm

namespace SizedPipeline

variable {pipeline : SizedPipeline} {source sink : NodeInfo}

/-- The quotient of 64 bits is exact. -/
theorem periodFrames_toNat : pipeline.periodFrames.toNat = pipeline.exactPeriodFrames % 2 ^ 32 := by
  have hproduct : pipeline.sampleRate.toNat * pipeline.scheduling.periodUs.toNat ≤
      (2 ^ 32 - 1) * (2 ^ 32 - 1) :=
    Nat.mul_le_mul (Nat.le_pred_of_lt pipeline.sampleRate.toNat_lt)
      (Nat.le_pred_of_lt pipeline.scheduling.periodUs.toNat_lt)
  have hmillion : (1000000 : UInt64).toNat = 1000000 := rfl
  have hone : (1 : UInt64).toNat = 1 := rfl
  unfold periodFrames exactPeriodFrames
  dsimp only
  rw [UInt64.toNat_toUInt32, UInt64.toNat_div, UInt64.toNat_sub, UInt64.toNat_add,
    UInt64.toNat_mul, UInt32.toNat_toUInt64, UInt32.toNat_toUInt64, hmillion, hone]
  generalize pipeline.sampleRate.toNat * pipeline.scheduling.periodUs.toNat = product at hproduct
  omega

theorem edgeBufferPeriods_pos : 0 < (pipeline.edgeBufferPeriods source sink).toNat := by
  have hdefault : ∀ periods : UInt32, 0 < (if periods = 0 then 2 else periods).toNat := by
    intro periods
    split
    · decide
    · next hnonzero =>
        rw [Nat.pos_iff_ne_zero]
        intro hzero
        exact hnonzero (UInt32.toNat_inj.mp hzero)
  exact hdefault _

theorem sampleBytes_pos : 0 < pipeline.sampleBytes.toNat := by
  unfold sampleBytes
  split
  · decide
  · decide

/-- The product of 32 bits is the size exactly when the size fits. -/
theorem sizeBytes_exact_iff (edgeIndex : Nat) :
    (pipeline.inferBufferForEdge source sink edgeIndex).sizeBytes.toNat =
      pipeline.exactSize source sink ↔ pipeline.exactSize source sink < 2 ^ 32 := by
  have hsize : (pipeline.inferBufferForEdge source sink edgeIndex).sizeBytes.toNat =
      (pipeline.edgeBufferPeriods source sink).toNat * pipeline.sampleBytes.toNat *
        max 1 pipeline.channelsMax.toNat *
        max 1 (pipeline.exactPeriodFrames % 2 ^ 32) % 2 ^ 32 := by
    simp only [inferBufferForEdge, UInt32.toNat_mul, max_one_toNat, periodFrames_toNat,
      Nat.mod_mul_mod]
  have hfactor : 0 < (pipeline.edgeBufferPeriods source sink).toNat *
      pipeline.sampleBytes.toNat * max 1 pipeline.channelsMax.toNat :=
    Nat.mul_pos (Nat.mul_pos edgeBufferPeriods_pos sampleBytes_pos) (by omega)
  rw [hsize, exactSize]
  generalize (pipeline.edgeBufferPeriods source sink).toNat * pipeline.sampleBytes.toNat *
    max 1 pipeline.channelsMax.toNat = factor at hfactor
  constructor
  · intro hexact
    rw [← hexact]
    exact Nat.mod_lt _ (by decide)
  · intro hfits
    have hframes : pipeline.exactPeriodFrames < 2 ^ 32 :=
      calc pipeline.exactPeriodFrames
        _ ≤ max 1 pipeline.exactPeriodFrames := Nat.le_max_right _ _
        _ ≤ factor * max 1 pipeline.exactPeriodFrames := Nat.le_mul_of_pos_left _ hfactor
        _ < 2 ^ 32 := hfits
    rw [Nat.mod_eq_of_lt hframes, Nat.mod_eq_of_lt hfits]

/-! ## Link ids -/

/-- The ids of the pipeline at a position are an arc from sixteen times that on. -/
theorem linkIds_arc {index : Nat} (hindex : pipeline.pcmIndex = index.toUInt32) :
    pipeline.linkIds.map UInt32.toNat = Arcs.arc (2 ^ 32) (16 * index) pipeline.daiLinks.length := by
  rw [linkIds, Arcs.arc, List.map_map]
  apply List.map_congr_left
  intro localId _
  have hsixteen : (16 : UInt32).toNat = 16 := rfl
  have hpcm : index.toUInt32.toNat = index % 2 ^ 32 := UInt32.toNat_ofNat'
  have hlocal : localId.toUInt32.toNat = localId % 2 ^ 32 := UInt32.toNat_ofNat'
  rw [Function.comp_apply, linkId, hindex, UInt32.toNat_add, UInt32.toNat_mul, hpcm, hlocal,
    hsixteen]
  omega

end SizedPipeline

theorem ahead_blocks {first second : Nat} (hlater : first < second) :
    Arcs.ahead (2 ^ 32) (16 * first) (16 * second) = 16 * ((second - first) % 2 ^ 28) := by
  unfold Arcs.ahead
  omega

/-- `pcm_index` is the position of a pipeline. -/
def Numbered (pipelines : List SizedPipeline) : Prop :=
  ∀ index (hindex : index < pipelines.length), pipelines[index].pcmIndex = index.toUInt32

theorem nodup_iff_toNat {ids : List UInt32} : ids.Nodup ↔ (ids.map UInt32.toNat).Nodup :=
  (List.nodup_map_iff fun _ _ hsame => UInt32.toNat_inj.mp hsame).symm

theorem disjoint_iff_toNat {ids ids' : List UInt32} :
    ids.Disjoint ids' ↔ (ids.map UInt32.toNat).Disjoint (ids'.map UInt32.toNat) := by
  constructor
  · exact List.disjoint_map fun _ _ hsame => UInt32.toNat_inj.mp hsame
  · intro hdisjoint id hmem hmem'
    exact hdisjoint (List.mem_map_of_mem hmem) (List.mem_map_of_mem hmem')

variable {pipelines : List SizedPipeline}

/-- Link ids differ exactly when the arcs of the pipelines do not meet. -/
theorem linkIds_nodup_iff (hnumbered : Numbered pipelines) :
    (pipelines.flatMap SizedPipeline.linkIds).Nodup ↔ LinksFit pipelines := by
  have harc : ∀ index (hindex : index < pipelines.length),
      pipelines[index].linkIds.map UInt32.toNat =
        Arcs.arc (2 ^ 32) (16 * index) pipelines[index].daiLinks.length :=
    fun index hindex => SizedPipeline.linkIds_arc (hnumbered index hindex)
  have heach : ∀ index (hindex : index < pipelines.length),
      pipelines[index].linkIds.Nodup ↔ pipelines[index].daiLinks.length ≤ 2 ^ 32 := by
    intro index hindex
    rw [nodup_iff_toNat, harc index hindex, Arcs.nodup_arc_iff (by decide)]
  have hpair : ∀ first second (hfirst : first < pipelines.length)
      (hsecond : second < pipelines.length), first < second →
      pipelines[first].daiLinks ≠ [] → pipelines[second].daiLinks ≠ [] →
      (pipelines[first].linkIds.Disjoint pipelines[second].linkIds ↔
        pipelines[first].daiLinks.length ≤ 16 * ((second - first) % 2 ^ 28) ∧
          pipelines[second].daiLinks.length + 16 * ((second - first) % 2 ^ 28) ≤ 2 ^ 32) := by
    intro first second hfirst hsecond hlater hsome hsome'
    rw [disjoint_iff_toNat, harc first hfirst, harc second hsecond,
      Arcs.disjoint_arc_iff (by decide) (List.length_pos_iff.mpr hsome)
        (List.length_pos_iff.mpr hsome'), ahead_blocks hlater]
  rw [List.nodup_flatMap, List.pairwise_iff_getElem]
  constructor
  · rintro ⟨hnodup, hdisjoint⟩
    constructor
    · intro pipeline hmem
      obtain ⟨index, hindex, rfl⟩ := List.mem_iff_getElem.mp hmem
      exact (heach index hindex).mp (hnodup _ hmem)
    · intro first second hfirst hsecond hlater hsome hsome'
      exact (hpair first second hfirst hsecond hlater hsome hsome').mp
        (hdisjoint first second hfirst hsecond hlater)
  · rintro ⟨hlengths, hapart⟩
    constructor
    · intro pipeline hmem
      obtain ⟨index, hindex, rfl⟩ := List.mem_iff_getElem.mp hmem
      exact (heach index hindex).mpr (hlengths _ hmem)
    · intro first second hfirst hsecond hlater
      have hempty : ∀ pipeline : SizedPipeline, pipeline.daiLinks = [] → pipeline.linkIds = [] := by
        intro pipeline hnone
        rw [SizedPipeline.linkIds, hnone]
        rfl
      by_cases hsome : pipelines[first].daiLinks = []
      · change List.Disjoint _ _
        rw [hempty _ hsome]
        exact List.disjoint_nil_left _
      · by_cases hsome' : pipelines[second].daiLinks = []
        · change List.Disjoint _ _
          rw [hempty _ hsome']
          exact List.disjoint_nil_right _
        · exact (hpair first second hfirst hsecond hlater hsome hsome').mpr
            (hapart first second hfirst hsecond hlater hsome hsome')

/-! ## A project -/

theorem sizePipelines_numbered {sources : List PipelineSource}
    (hsize : sizePipelines cores sources = .ok pipelines) : Numbered pipelines := by
  have hall := forall₂_of_mapM hsize
  intro index hindex
  have hsource : index < sources.zipIdx.length := by rwa [hall.length_eq]
  have hone := (List.forall₂_iff_get.mp hall).2 index hsource hindex
  rw [List.get_eq_getElem, List.get_eq_getElem, List.getElem_zipIdx] at hone
  unfold sizePipeline at hone
  obtain ⟨sampleRate, _, hone⟩ := bind_eq_ok hone
  obtain ⟨scheduling, _, hone⟩ := bind_eq_ok hone
  rw [← Except.ok.inj hone]
  simp only [Nat.zero_add]

/-- Each pipeline has the scheduling of its source. -/
theorem sizePipelines_scheduling {sources : List PipelineSource}
    (hsize : sizePipelines cores sources = .ok pipelines) :
    List.Forall₂ (fun source pipeline =>
      parseScheduling cores source.item = .ok pipeline.scheduling) sources pipelines := by
  have hall := forall₂_of_mapM hsize
  rw [List.forall₂_iff_get] at hall ⊢
  obtain ⟨hlength, hall⟩ := hall
  rw [List.length_zipIdx] at hlength
  refine ⟨hlength, fun index hsource hindex => ?_⟩
  have hone := hall index (by rwa [List.length_zipIdx]) hindex
  rw [List.get_eq_getElem, List.get_eq_getElem, List.getElem_zipIdx] at hone
  unfold sizePipeline at hone
  obtain ⟨sampleRate, _, hone⟩ := bind_eq_ok hone
  obtain ⟨scheduling, hscheduling, hone⟩ := bind_eq_ok hone
  rw [List.get_eq_getElem, List.get_eq_getElem, ← Except.ok.inj hone]
  exact hscheduling

/-- Nothing wraps around exactly when everything fits into 32 bits. -/
theorem computed_exactly_iff {cores : List (Bytes × UInt32)} {sources : List PipelineSource}
    {pipelines : List SizedPipeline} (hsize : sizePipelines cores sources = .ok pipelines) :
    ComputedExactly sources pipelines ↔ FitsWords sources pipelines := by
  have hlinks := linkIds_nodup_iff (sizePipelines_numbered hsize)
  have hrow : ∀ (source : PipelineSource) (pipeline : SizedPipeline),
      parseScheduling cores source.item = .ok pipeline.scheduling →
      ((∀ blockMs, TakenFromBlock source.item blockMs →
        pipeline.scheduling.periodUs.toNat = 1000 * blockMs) ↔
      ∀ blockMs, TakenFromBlock source.item blockMs → 1000 * blockMs < 2 ^ 32) := by
    intro source pipeline hparse
    exact forall_congr' fun blockMs => imp_congr_right fun htaken =>
      parseScheduling_exact_iff htaken hparse
  have hperiods := forall₂_iff_forall_mem (sizePipelines_scheduling hsize) hrow
  constructor
  · intro hexact
    constructor
    · exact hperiods.mp hexact.periods
    · intro pipeline hmem edgeIndex source sink hbuffered
      exact (SizedPipeline.sizeBytes_exact_iff edgeIndex).mp
        (hexact.sizes pipeline hmem edgeIndex source sink hbuffered)
    · exact hlinks.mp hexact.links
  · intro hfits
    constructor
    · exact hperiods.mpr hfits.periods
    · intro pipeline hmem edgeIndex source sink hbuffered
      exact (SizedPipeline.sizeBytes_exact_iff edgeIndex).mpr
        (hfits.sizes pipeline hmem edgeIndex source sink hbuffered)
    · exact hlinks.mpr hfits.links

/-- A pipeline of ten milliseconds with DAI endpoints, the first of them joined to the last. -/
def daiSource (pipeId : String) (daiCount : Nat) : PipelineSource where
  item := .object [(asciiBytes "frame", .object [
    (asciiBytes "block_ms", .number (asciiBytes "10")),
    (asciiBytes "rate", .number (asciiBytes "48000"))])]
  info := {
    pipeId := asciiBytes pipeId, name := [], domain := [], direction := asciiBytes "playback"
    sourceJson := [], ports := []
    nodes := (List.range daiCount).map fun index => {
      nodeId := decimalText index, kind := asciiBytes "module", instId := [], name := []
      moduleType := asciiBytes "builtin.dai", widgetName := [], sourceJson := []
      endpoint := some { portId := decimalText index } }
    edges := [⟨decimalText 0, decimalText (daiCount - 1)⟩] }
  formats := [⟨2, 32⟩]

def daiPipeline (pipeId : String) (daiCount index : Nat) : SizedPipeline :=
  { (daiSource pipeId daiCount).info with
    pcmIndex := index.toUInt32
    scheduling := { periodUs := 10000 } }

theorem computed_exactly_two : ComputedExactly [daiSource "p" 2] [daiPipeline "p" 2 0] := by
  apply (@computed_exactly_iff [] _ _ rfl).mpr
  constructor
  · intro source hmem blockMs htaken
    rw [List.mem_singleton.mp hmem] at htaken
    obtain ⟨frame, scalar, hframe, hblock, hnumber⟩ := htaken.block
    cases hframe
    cases hblock
    cases hnumber
    decide
  · intro pipeline hmem edgeIndex source sink hbuffered
    rw [List.mem_singleton.mp hmem] at hbuffered ⊢
    obtain ⟨edge, hedge, hnodes⟩ := hbuffered
    cases edgeIndex with
    | succ edgeIndex => cases hedge
    | zero =>
        cases hedge
        cases hnodes
        decide
  · constructor
    · intro pipeline hmem
      rw [List.mem_singleton.mp hmem]
      decide
    · intro first second hfirst hsecond hlater
      rw [List.length_singleton] at hsecond
      omega

/-- The seventeenth link of a pipeline has the id of the first link of the next one. -/
theorem link_ids_collide : ¬ ∀ (cores : List (Bytes × UInt32)) (sources : List PipelineSource)
    (pipelines : List SizedPipeline), sizePipelines cores sources = .ok pipelines →
      ComputedExactly sources pipelines := by
  intro hexact
  have hlinks := (hexact [] [daiSource "p" 17, daiSource "q" 1]
    [daiPipeline "p" 17 0, daiPipeline "q" 1 1] rfl).links
  exact absurd hlinks (by decide +kernel)

end AudioStudio.Config
