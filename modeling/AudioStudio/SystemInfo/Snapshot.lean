import AudioStudio.Core.Keyed
import AudioStudio.Core.Text
import Mathlib.Logic.Function.Basic

/-!
# The system snapshot

`SystemInfoService::applyRecordLocked`: records of the firmware, which it prints as
`ASINFO|type|key=value|...`, are put into the collections of one snapshot.
-/

namespace AudioStudio.SystemInfo

open LittleEndian

/-! ## Numbers in text -/

/-- `0.0` and what `std::strtod` reads from a C string, if it reads any of it. -/
structure Doubles (δ : Type) where
  zero : δ
  strtod : Bytes → Option δ

/-- `c_str()` as the C library sees it. -/
def cString (value : Bytes) : Bytes := value.takeWhile (· ≠ 0)

/-- The sign, the digits and the rest of a C string that begins with a decimal number. -/
def scanDecimal (text : Bytes) : Option (Bool × Bytes × Bytes) :=
  let behind := text.dropWhile (isSpace ·)
  let negative : Bool := behind.head? = some 0x2d
  let unsigned := if negative ∨ behind.head? = some 0x2b then behind.tail else behind
  let digits := unsigned.takeWhile (isDigit ·)
  if digits = [] then none else some (negative, digits, unsigned.dropWhile (isDigit ·))

/-- `std::strtol` in base ten, with the rest behind the number. -/
def strtol (text : Bytes) : Option (Int × Bytes) :=
  (scanDecimal text).map fun (negative, digits, rest) =>
    let value : Int := if negative then -(decimalValue digits) else decimalValue digits
    (if value < -2 ^ 63 then -2 ^ 63 else if 2 ^ 63 - 1 < value then 2 ^ 63 - 1 else value, rest)

/-- `std::strtoull` in base ten. -/
def strtoull (text : Bytes) : Option UInt64 :=
  (scanDecimal text).map fun (negative, digits, _) =>
    if 2 ^ 64 ≤ decimalValue digits then UInt64.ofNat (2 ^ 64 - 1)
    else if negative then 0 - UInt64.ofNat (decimalValue digits)
    else UInt64.ofNat (decimalValue digits)

/-! ## Fields of a record -/

abbrev Fields := Bytes → Option Bytes

def fieldString (fields : Fields) (name : String) (fallback : Bytes) : Bytes :=
  (fields (asciiBytes name)).getD fallback

/-- What the readers of numbers share: an absent or empty field, or one that is no
number, is not read. -/
def readField {β : Type} (read : Bytes → Option β) (name : String) (fields : Fields) : Option β :=
  match fields (asciiBytes name) with
  | none => none
  | some value => if value = [] then none else read (cString value)

def readU64 (name : String) (fields : Fields) : Option UInt64 := readField strtoull name fields

def readU32 (name : String) (fields : Fields) : Option UInt32 :=
  (readU64 name fields).map UInt64.toUInt32

def readInt (name : String) (fields : Fields) : Option Int32 :=
  (readField strtol name fields).map fun number => Int32.ofInt number.1

def fieldU64 (fields : Fields) (name : String) (fallback : UInt64) : UInt64 :=
  (readU64 name fields).getD fallback

def fieldU32 (fields : Fields) (name : String) (fallback : UInt32) : UInt32 :=
  (fieldU64 fields name fallback.toUInt64).toUInt32

def fieldInt (fields : Fields) (name : String) (fallback : Int32) : Int32 :=
  (readInt name fields).getD fallback

def fieldDouble {δ : Type} (doubles : Doubles δ) (fields : Fields) (name : String)
    (fallback : δ) : δ :=
  (readField doubles.strtod name fields).getD fallback

def componentStates : List String :=
  ["NOT_EXIST", "INIT", "READY", "SUSPEND", "PREPARE", "PAUSED", "ACTIVE", "PRE_ACTIVE"]

def unknownState : Bytes := asciiBytes "UNKNOWN"

def componentStateName (value fallback : Bytes) : Bytes :=
  if value = [] then (if fallback = [] then unknownState else fallback)
  else
    match strtol (cString value) with
    | some (numeric, []) =>
        if 0 ≤ numeric then ((componentStates[numeric.toNat]?).map asciiBytes).getD unknownState
        else unknownState
    | _ => value

/-! ## Records -/

def kAudioStudioInfoPrefix : Bytes := asciiBytes "ASINFO|"

/-- A record: its type and its fields. -/
structure InfoRecord where
  type : Bytes
  fields : Fields

/-- The pieces between bars; an empty piece at the end is none. -/
def splitPipe (value : Bytes) : List Bytes :=
  let pieces := value.splitOn 0x7c
  if pieces.getLast? = some [] then pieces.dropLast else pieces

/-- `fields[name] = value` for a part with an equals sign. -/
def addField (fields : Fields) (part : Bytes) : Fields :=
  match part.dropWhile (· ≠ 0x3d) with
  | [] => fields
  | _ :: value => Function.update fields (part.takeWhile (· ≠ 0x3d)) (some value)

def parseRecord (text : Bytes) : Option InfoRecord :=
  if kAudioStudioInfoPrefix.isPrefixOf text then
    match splitPipe (text.drop kAudioStudioInfoPrefix.length) with
    | [] => none
    | type :: parts =>
        if type = [] then none
        else some { type, fields := parts.foldl addField fun _ => none }
  else none

/-! ## The snapshot -/

structure SystemCoreInfo (δ : Type) where
  id : Int32
  freqMhz : δ
  loadPercent : δ
  deriving DecidableEq

structure SystemModuleInfo (δ : Type) where
  nodeId : Bytes
  pipelineId : UInt32
  state : Bytes
  core : Int32
  cpuPercent : δ
  memoryBytes : UInt64
  latencyMs : δ
  deriving DecidableEq

structure SystemBufferInfo where
  edgeKey : Bytes
  origin : Bytes
  target : Bytes
  sizeBytes : UInt64
  availBytes : UInt64
  producedBytes : UInt64
  consumedBytes : UInt64
  stalled : Bool
  deriving DecidableEq

structure SystemHeapInfo where
  category : Bytes
  index : Int32
  blockSize : UInt32
  freeCount : UInt32
  totalCount : UInt32
  usedBytes : UInt64
  freeBytes : UInt64
  deriving DecidableEq

structure SystemPipelineInfo (δ : Type) where
  id : UInt32
  latencyMs : δ
  xruns : UInt32
  dropouts : UInt32
  deriving DecidableEq

structure SystemInfoSnapshot (δ : Type) where
  connected : Bool := false
  running : Bool := false
  sequence : UInt64 := 0
  timestampMs : Int64 := 0
  cores : List (SystemCoreInfo δ) := []
  modules : List (SystemModuleInfo δ) := []
  buffers : List SystemBufferInfo := []
  heap : List SystemHeapInfo := []
  pipelines : List (SystemPipelineInfo δ) := []

def SystemHeapInfo.key (heap : SystemHeapInfo) : Bytes × Int32 × UInt32 :=
  (heap.category, heap.index, heap.blockSize)

section Apply

variable {δ : Type} (doubles : Doubles δ)

def coreInfo (fields : Fields) : SystemCoreInfo δ where
  id := fieldInt fields "id" 0
  freqMhz := fieldDouble doubles fields "freq_mhz" doubles.zero
  loadPercent := fieldDouble doubles fields "load_percent" doubles.zero

def moduleNodeId (fields : Fields) : Bytes :=
  fieldString fields "id" (fieldString fields "node_id" [])

/-- `SystemModuleInfo module;` -/
def emptyModule : SystemModuleInfo δ where
  nodeId := []
  pipelineId := 0
  state := []
  core := 0
  cpuPercent := doubles.zero
  memoryBytes := 0
  latencyMs := doubles.zero

/-- Every reader falls back to the field as it is, also where the source asks first
whether the record has it. -/
def moduleInfo (existing : Option (SystemModuleInfo δ)) (fields : Fields) : SystemModuleInfo δ :=
  let module := existing.getD (emptyModule doubles)
  let state :=
    if (fields (asciiBytes "state")).isSome then
      componentStateName (fieldString fields "state" []) module.state
    else module.state
  { nodeId := moduleNodeId fields
    pipelineId := fieldU32 fields "pipeline" module.pipelineId
    state := if state = [] then unknownState else state
    core := fieldInt fields "core" module.core
    cpuPercent := fieldDouble doubles fields "cpu_percent" module.cpuPercent
    memoryBytes := fieldU64 fields "memory_bytes" module.memoryBytes
    latencyMs := fieldDouble doubles fields "latency_ms" module.latencyMs }

def bufferEdgeKey (fields : Fields) : Bytes :=
  fieldString fields "id" (fieldString fields "edge_key" [])

/-- `SystemBufferInfo buffer;` -/
def emptyBuffer : SystemBufferInfo where
  edgeKey := []
  origin := []
  target := []
  sizeBytes := 0
  availBytes := 0
  producedBytes := 0
  consumedBytes := 0
  stalled := false

def bufferInfo (existing : Option SystemBufferInfo) (fields : Fields) : SystemBufferInfo :=
  let buffer := existing.getD emptyBuffer
  { edgeKey := bufferEdgeKey fields
    origin := fieldString fields "from" buffer.origin
    target := fieldString fields "to" buffer.target
    sizeBytes := fieldU64 fields "size_bytes" buffer.sizeBytes
    availBytes := fieldU64 fields "avail_bytes" buffer.availBytes
    producedBytes := fieldU64 fields "produced_bytes" buffer.producedBytes
    consumedBytes := fieldU64 fields "consumed_bytes" buffer.consumedBytes
    stalled :=
      if (fields (asciiBytes "stalled")).isSome then
        decide (fieldString fields "stalled" (asciiBytes "0") = asciiBytes "1")
      else buffer.stalled }

def heapInfo (fields : Fields) : SystemHeapInfo where
  category := fieldString fields "category" (asciiBytes "heap")
  index := fieldInt fields "index" 0
  blockSize := fieldU32 fields "block_size" 0
  freeCount := fieldU32 fields "free_count" 0
  totalCount := fieldU32 fields "total_count" 0
  usedBytes := fieldU64 fields "used_bytes" 0
  freeBytes := fieldU64 fields "free_bytes" 0

def pipelineInfo (fields : Fields) : SystemPipelineInfo δ where
  id := fieldU32 fields "id" 0
  latencyMs := fieldDouble doubles fields "latency_ms" doubles.zero
  xruns := fieldU32 fields "xruns" 0
  dropouts := fieldU32 fields "dropouts" 0

/-- The branches of `applyRecordLocked` behind the parsing; `now` is what `nowMs`
returns. -/
def applyInfo (now : Int64) (record : InfoRecord) (snapshot : SystemInfoSnapshot δ) :
    SystemInfoSnapshot δ :=
  let fields := record.fields
  let snapshot := { snapshot with connected := true, running := true, timestampMs := now }
  if record.type = asciiBytes "heartbeat" then
    let timestamp := fieldU64 fields "timestamp_ms" 0
    { snapshot with
      sequence := fieldU64 fields "seq" snapshot.sequence
      timestampMs := if timestamp ≠ 0 then timestamp.toInt64 else snapshot.timestampMs }
  else if record.type = asciiBytes "core" then
    { snapshot with cores := Keyed.upsert (·.id) (coreInfo doubles fields) snapshot.cores }
  else if record.type = asciiBytes "module" then
    let nodeId := moduleNodeId fields
    let module := moduleInfo doubles (Keyed.find (·.nodeId) nodeId snapshot.modules) fields
    if nodeId = [] then snapshot
    else { snapshot with modules := Keyed.upsert (·.nodeId) module snapshot.modules }
  else if record.type = asciiBytes "buffer" then
    let edgeKey := bufferEdgeKey fields
    let buffer := bufferInfo (Keyed.find (·.edgeKey) edgeKey snapshot.buffers) fields
    if edgeKey = [] then snapshot
    else { snapshot with buffers := Keyed.upsert (·.edgeKey) buffer snapshot.buffers }
  else if record.type = asciiBytes "heap" then
    { snapshot with heap := Keyed.upsert SystemHeapInfo.key (heapInfo fields) snapshot.heap }
  else if record.type = asciiBytes "pipeline" then
    { snapshot with
      pipelines := Keyed.upsert (·.id) (pipelineInfo doubles fields) snapshot.pipelines }
  else snapshot

/-- `applyRecordLocked`: whether the text is a record, and the snapshot. -/
def applyRecordLocked (now : Int64) (text : Bytes) (snapshot : SystemInfoSnapshot δ) :
    Bool × SystemInfoSnapshot δ :=
  match parseRecord text with
  | none => (false, snapshot)
  | some record => (true, applyInfo doubles now record snapshot)

/-- The snapshot behind all texts that were applied since the last clear. -/
def applyAll (texts : List (Int64 × Bytes)) : SystemInfoSnapshot δ :=
  texts.foldl (fun snapshot text => (applyRecordLocked doubles text.1 text.2 snapshot).2) {}

end Apply

end AudioStudio.SystemInfo
