import AudioStudio.SystemInfo.KeyedFold

/-!
# Last writers

What an entry of the snapshot says is what the last record of its key said, field by
field for modules and buffers.  Records of different types or keys can change places.
-/

namespace AudioStudio.SystemInfo

open LittleEndian Keyed

variable {δ : Type} {doubles : Doubles δ}

/-! ## Fields of modules and buffers -/

/-- The last value that one of the records has in a field. -/
def lastField {β : Type} (read : Fields → Option β) (records : List InfoRecord) : Option β :=
  lastRead (fun record => read record.fields) records

/-- The fields of a module are those that the records of its node wrote last. -/
structure ModuleLaw (doubles : Doubles δ) (records : List InfoRecord)
    (module : SystemModuleInfo δ) : Prop where
  pipelineId : module.pipelineId = (lastField (readU32 "pipeline") records).getD 0
  state : module.state = (lastField readState records).getD unknownState
  core : module.core = (lastField (readInt "core") records).getD 0
  cpuPercent : module.cpuPercent =
    (lastField (readField doubles.strtod "cpu_percent") records).getD doubles.zero
  memoryBytes : module.memoryBytes = (lastField (readU64 "memory_bytes") records).getD 0
  latencyMs : module.latencyMs =
    (lastField (readField doubles.strtod "latency_ms") records).getD doubles.zero

/-- The text of a field. -/
def readText (name : String) (fields : Fields) : Option Bytes := fields (asciiBytes name)

/-- Whether a field is `1`. -/
def readFlag (name : String) (fields : Fields) : Option Bool :=
  (fields (asciiBytes name)).map fun value => decide (value = asciiBytes "1")

/-- The fields of a buffer are those that the records of its edge wrote last. -/
structure BufferLaw (records : List InfoRecord) (buffer : SystemBufferInfo) : Prop where
  origin : buffer.origin = (lastField (readText "from") records).getD []
  target : buffer.target = (lastField (readText "to") records).getD []
  sizeBytes : buffer.sizeBytes = (lastField (readU64 "size_bytes") records).getD 0
  availBytes : buffer.availBytes = (lastField (readU64 "avail_bytes") records).getD 0
  producedBytes : buffer.producedBytes = (lastField (readU64 "produced_bytes") records).getD 0
  consumedBytes : buffer.consumedBytes = (lastField (readU64 "consumed_bytes") records).getD 0
  stalled : buffer.stalled = (lastField (readFlag "stalled") records).getD false

variable {records : List InfoRecord}

variable {α κ : Type} {key : α → κ} {keyOf : InfoRecord → Option κ}
  {build : Option α → InfoRecord → α}

/-- A field that each record reads over what the item has, or over that of an empty
item, is the last value read for its key. -/
theorem field_read_over {β : Type} [DecidableEq κ]

    (hkeeps : KeepsKey key keyOf build) (empty : α) (field : α → β) {read : Fields → Option β}
    (hfield : ∀ existing record, field (build existing record) =
      (read record.fields).getD (field (existing.getD empty)))
    {item : α}
    (hmem : item ∈ records.foldl (merge key keyOf build) []) :
    field item = (lastField read (recordsOf keyOf (key item) records)).getD (field empty) := by
  refine field_merged hkeeps (fun existing record => ?_) hmem
  rw [hfield, getD_field existing empty field]

variable {module : SystemModuleInfo δ}

theorem stateOf_eq (hstate : module.state ≠ []) :
    stateOf module = module.state := if_neg hstate

theorem moduleLaw_of_mem (hmem : module ∈ records.foldl
      (merge (·.nodeId) moduleKey fun existing record => moduleInfo doubles existing record.fields)
      []) :
    ModuleLaw doubles (recordsOf moduleKey module.nodeId records) module := by
  constructor
  · exact field_read_over keepsKey_modules (emptyModule doubles) (·.pipelineId)
      (fun _ _ => fieldU32_eq _ _ _) hmem
  · have hstate : module.state ≠ [] := by
      obtain ⟨existing, record, heq⟩ := entryOf_eq_apply (entryOf_of_mem keepsKey_modules hmem)
      rw [← heq]
      exact moduleInfo_state_ne_nil existing record.fields
    rw [← stateOf_eq hstate]
    exact field_merged keepsKey_modules (fun item record => stateOf_moduleInfo item record.fields)
      hmem
  · exact field_read_over keepsKey_modules (emptyModule doubles) (·.core) (fun _ _ => rfl) hmem
  · exact field_read_over keepsKey_modules (emptyModule doubles) (·.cpuPercent)
      (fun _ _ => rfl) hmem
  · exact field_read_over keepsKey_modules (emptyModule doubles) (·.memoryBytes)
      (fun _ _ => rfl) hmem
  · exact field_read_over keepsKey_modules (emptyModule doubles) (·.latencyMs) (fun _ _ => rfl) hmem

theorem stalled_bufferInfo (existing : Option SystemBufferInfo) (fields : Fields) :
    (bufferInfo existing fields).stalled =
      (readFlag "stalled" fields).getD (existing.getD emptyBuffer).stalled := by
  unfold bufferInfo readFlag fieldString
  dsimp only
  cases fields (asciiBytes "stalled") with
  | none => rfl
  | some value => rfl

theorem bufferLaw_of_mem {buffer : SystemBufferInfo}
    (hmem : buffer ∈ records.foldl
      (merge (·.edgeKey) bufferKey fun existing record => bufferInfo existing record.fields) []) :
    BufferLaw (recordsOf bufferKey buffer.edgeKey records) buffer := by
  constructor
  · exact field_read_over keepsKey_buffers emptyBuffer (·.origin) (fun _ _ => rfl) hmem
  · exact field_read_over keepsKey_buffers emptyBuffer (·.target) (fun _ _ => rfl) hmem
  · exact field_read_over keepsKey_buffers emptyBuffer (·.sizeBytes) (fun _ _ => rfl) hmem
  · exact field_read_over keepsKey_buffers emptyBuffer (·.availBytes) (fun _ _ => rfl) hmem
  · exact field_read_over keepsKey_buffers emptyBuffer (·.producedBytes) (fun _ _ => rfl) hmem
  · exact field_read_over keepsKey_buffers emptyBuffer (·.consumedBytes) (fun _ _ => rfl) hmem
  · exact field_read_over keepsKey_buffers emptyBuffer (·.stalled)
      (fun existing record => stalled_bufferInfo existing record.fields) hmem

/-! ## Records that change places -/

/-- The type of a record with its key, where records of the type have one. -/
inductive InfoKey where
  | core (id : Int32)
  | module (nodeId : Bytes)
  | buffer (edgeKey : Bytes)
  | heap (category : Bytes) (index : Int32) (blockSize : UInt32)
  | pipeline (id : UInt32)
  | other (type : Bytes)
  deriving DecidableEq

def infoKey (record : InfoRecord) : InfoKey :=
  let fields := record.fields
  if record.type = asciiBytes "core" then .core (fieldInt fields "id" 0)
  else if record.type = asciiBytes "module" then .module (moduleNodeId fields)
  else if record.type = asciiBytes "buffer" then .buffer (bufferEdgeKey fields)
  else if record.type = asciiBytes "heap" then
    .heap (heapInfo fields).category (heapInfo fields).index (heapInfo fields).blockSize
  else if record.type = asciiBytes "pipeline" then .pipeline (fieldU32 fields "id" 0)
  else .other record.type

variable {record : InfoRecord}

theorem infoKey_of_core {id : Int32} (hkey : coreKey record = some id) :
    infoKey record = .core id := by
  obtain ⟨htype, hfields⟩ := keyWhen_eq_some hkey
  cases hfields
  exact if_pos htype

theorem infoKey_of_module {nodeId : Bytes} (hkey : moduleKey record = some nodeId) :
    infoKey record = .module nodeId := by
  obtain ⟨htype, hfields⟩ := keyWhen_eq_some hkey
  cases nonEmpty_eq_some hfields
  rw [infoKey, htype, if_neg (by decide), if_pos rfl]

theorem infoKey_of_buffer {edgeKey : Bytes} (hkey : bufferKey record = some edgeKey) :
    infoKey record = .buffer edgeKey := by
  obtain ⟨htype, hfields⟩ := keyWhen_eq_some hkey
  cases nonEmpty_eq_some hfields
  rw [infoKey, htype, if_neg (by decide), if_neg (by decide), if_pos rfl]

theorem infoKey_of_heap {key : Bytes × Int32 × UInt32} (hkey : heapKey record = some key) :
    infoKey record = .heap key.1 key.2.1 key.2.2 := by
  obtain ⟨htype, hfields⟩ := keyWhen_eq_some hkey
  cases hfields
  rw [infoKey, htype, if_neg (by decide), if_neg (by decide),
    if_neg (by decide), if_pos rfl]
  rfl

theorem infoKey_of_pipeline {id : UInt32} (hkey : pipelineKey record = some id) :
    infoKey record = .pipeline id := by
  obtain ⟨htype, hfields⟩ := keyWhen_eq_some hkey
  cases hfields
  rw [infoKey, htype, if_neg (by decide), if_neg (by decide),
    if_neg (by decide), if_neg (by decide), if_pos rfl]

/-- Two lists differ in the order of two neighbours of different types or keys. -/
inductive Swapped : List InfoRecord → List InfoRecord → Prop where
  | swap (before after : List InfoRecord) {first second : InfoRecord}
      (differ : infoKey first ≠ infoKey second) :
      Swapped (before ++ first :: second :: after) (before ++ second :: first :: after)

/-- The same snapshots but for the order of entries, the time and the sequence number. -/
structure SameEntries (snapshot other : SystemInfoSnapshot δ) : Prop where
  connected : snapshot.connected = other.connected
  running : snapshot.running = other.running
  cores : snapshot.cores.Perm other.cores
  modules : snapshot.modules.Perm other.modules
  buffers : snapshot.buffers.Perm other.buffers
  heap : snapshot.heap.Perm other.heap
  pipelines : snapshot.pipelines.Perm other.pipelines

theorem Swapped.merged {others : List InfoRecord} (hswap : Swapped records others) [DecidableEq κ]
    (hkeeps : KeepsKey key keyOf build) {tag : κ → InfoKey}
    (htag : ∀ record wanted, keyOf record = some wanted → infoKey record = tag wanted) :
    (records.foldl (merge key keyOf build) []).Perm (others.foldl (merge key keyOf build) []) := by
  cases hswap with
  | swap before after differ =>
      refine foldl_merge_swap hkeeps (fun wanted hfirst hsecond => differ ?_) before after
      rw [htag _ _ hfirst, htag _ _ hsecond]

theorem applyInfo_flags (doubles : Doubles δ) (now : Int64) (record : InfoRecord)
    (snapshot : SystemInfoSnapshot δ) :
    (applyInfo doubles now record snapshot).connected = true ∧
      (applyInfo doubles now record snapshot).running = true := by
  unfold applyInfo
  dsimp only
  split_ifs <;> exact ⟨rfl, rfl⟩

/-- Whether a record was applied shows in both flags. -/
theorem applyAll_flags (texts : List (Int64 × Bytes)) :
    (applyAll doubles texts).connected = !(recordsIn texts).isEmpty ∧
      (applyAll doubles texts).running = !(recordsIn texts).isEmpty := by
  unfold applyAll recordsIn
  induction texts using List.reverseRecOn with
  | nil => exact ⟨rfl, rfl⟩
  | append_singleton texts text ih =>
      rw [List.foldl_append, List.filterMap_append]
      generalize texts.foldl _ _ = snapshot at ih ⊢
      change (applyRecordLocked doubles text.1 text.2 snapshot).2.connected = _ ∧
        (applyRecordLocked doubles text.1 text.2 snapshot).2.running = _
      unfold applyRecordLocked
      cases hparse : parseRecord text.2 with
      | none => simpa [hparse] using ih
      | some record =>
          obtain ⟨hconnected, hrunning⟩ := applyInfo_flags doubles text.1 record snapshot
          simp [hparse, hconnected, hrunning]

theorem cores_applyAll (texts : List (Int64 × Bytes)) : (applyAll doubles texts).cores =
    (recordsIn texts).foldl (merge (·.id) coreKey fun _ record => coreInfo doubles record.fields)
      [] :=
  applyAll_collection rfl (fun now _ snapshot => applyInfo_cores now snapshot) texts

theorem modules_applyAll (texts : List (Int64 × Bytes)) : (applyAll doubles texts).modules =
    (recordsIn texts).foldl
      (merge (·.nodeId) moduleKey fun existing record => moduleInfo doubles existing record.fields)
      [] :=
  applyAll_collection rfl (fun now _ snapshot => applyInfo_modules now snapshot) texts

theorem buffers_applyAll (texts : List (Int64 × Bytes)) : (applyAll doubles texts).buffers =
    (recordsIn texts).foldl
      (merge (·.edgeKey) bufferKey fun existing record => bufferInfo existing record.fields) [] :=
  applyAll_collection rfl (fun now _ snapshot => applyInfo_buffers now snapshot) texts

theorem heap_applyAll (texts : List (Int64 × Bytes)) : (applyAll doubles texts).heap =
    (recordsIn texts).foldl
      (merge SystemHeapInfo.key heapKey fun _ record => heapInfo record.fields) [] :=
  applyAll_collection rfl (fun now _ snapshot => applyInfo_heap now snapshot) texts

theorem pipelines_applyAll (texts : List (Int64 × Bytes)) : (applyAll doubles texts).pipelines =
    (recordsIn texts).foldl
      (merge (·.id) pipelineKey fun _ record => pipelineInfo doubles record.fields) [] :=
  applyAll_collection rfl (fun now _ snapshot => applyInfo_pipelines now snapshot) texts

theorem sameEntries_of_swapped {texts others : List (Int64 × Bytes)}
    (hswap : Swapped (recordsIn texts) (recordsIn others)) :
    SameEntries (applyAll doubles texts) (applyAll doubles others) := by
  have hempty : (recordsIn texts).isEmpty = (recordsIn others).isEmpty := by
    generalize recordsIn texts = records at hswap ⊢
    generalize recordsIn others = rest at hswap ⊢
    cases hswap with
    | swap before after _ => cases before <;> rfl
  constructor
  · rw [(applyAll_flags texts).1, (applyAll_flags others).1, hempty]
  · rw [(applyAll_flags texts).2, (applyAll_flags others).2, hempty]
  · rw [cores_applyAll, cores_applyAll]
    exact hswap.merged keepsKey_cores fun _ _ => infoKey_of_core
  · rw [modules_applyAll, modules_applyAll]
    exact hswap.merged keepsKey_modules fun _ _ => infoKey_of_module
  · rw [buffers_applyAll, buffers_applyAll]
    exact hswap.merged keepsKey_buffers fun _ _ => infoKey_of_buffer
  · rw [heap_applyAll, heap_applyAll]
    exact hswap.merged keepsKey_heap fun _ _ => infoKey_of_heap
  · rw [pipelines_applyAll, pipelines_applyAll]
    exact hswap.merged keepsKey_pipelines fun _ _ => infoKey_of_pipeline

/-! ## The snapshot -/

/-- The snapshot behind texts is what their records say, the last one of a key first. -/
structure LastWriterWins (doubles : Doubles δ) (texts : List (Int64 × Bytes)) : Prop where
  cores : Collects (·.id) coreKey (recordsIn texts) (applyAll doubles texts).cores
  modules : Collects (·.nodeId) moduleKey (recordsIn texts) (applyAll doubles texts).modules
  buffers : Collects (·.edgeKey) bufferKey (recordsIn texts) (applyAll doubles texts).buffers
  heap : Collects SystemHeapInfo.key heapKey (recordsIn texts) (applyAll doubles texts).heap
  pipelines : Collects (·.id) pipelineKey (recordsIn texts) (applyAll doubles texts).pipelines
  core : ∀ core ∈ (applyAll doubles texts).cores,
    (recordsOf coreKey core.id (recordsIn texts)).getLast?.map (coreInfo doubles ·.fields) =
      some core
  heapEntry : ∀ heap ∈ (applyAll doubles texts).heap,
    (recordsOf heapKey heap.key (recordsIn texts)).getLast?.map (heapInfo ·.fields) = some heap
  pipeline : ∀ pipeline ∈ (applyAll doubles texts).pipelines,
    (recordsOf pipelineKey pipeline.id (recordsIn texts)).getLast?.map
      (pipelineInfo doubles ·.fields) = some pipeline
  module : ∀ module ∈ (applyAll doubles texts).modules,
    ModuleLaw doubles (recordsOf moduleKey module.nodeId (recordsIn texts)) module
  buffer : ∀ buffer ∈ (applyAll doubles texts).buffers,
    BufferLaw (recordsOf bufferKey buffer.edgeKey (recordsIn texts)) buffer
  swapped : ∀ others, Swapped (recordsIn texts) (recordsIn others) →
    SameEntries (applyAll doubles texts) (applyAll doubles others)

/-- The snapshot is a fold by key in which the last writer of a field wins, where a field
that cannot be read is not written. -/
theorem snapshot_last_writer_wins (doubles : Doubles δ) (texts : List (Int64 × Bytes)) :
    LastWriterWins doubles texts := by
  constructor
  · rw [cores_applyAll]
    exact collects_foldl keepsKey_cores _
  · rw [modules_applyAll]
    exact collects_foldl keepsKey_modules _
  · rw [buffers_applyAll]
    exact collects_foldl keepsKey_buffers _
  · rw [heap_applyAll]
    exact collects_foldl keepsKey_heap _
  · rw [pipelines_applyAll]
    exact collects_foldl keepsKey_pipelines _
  · rw [cores_applyAll]
    exact fun core hmem => entry_replaced keepsKey_cores hmem
  · rw [heap_applyAll]
    exact fun heap hmem => entry_replaced keepsKey_heap hmem
  · rw [pipelines_applyAll]
    exact fun pipeline hmem => entry_replaced keepsKey_pipelines hmem
  · rw [modules_applyAll]
    exact fun module hmem => moduleLaw_of_mem hmem
  · rw [buffers_applyAll]
    exact fun buffer hmem => bufferLaw_of_mem hmem
  · exact fun others hswap => sameEntries_of_swapped hswap

/-- The pipeline that a module has in the snapshot. -/
def pipelineOf (texts : List (Int64 × Bytes)) (nodeId : Bytes) : Option UInt32 :=
  (Keyed.find (·.nodeId) nodeId (applyAll ⟨(), fun _ => none⟩ texts).modules).map (·.pipelineId)

/-- What the last record of a module that has the field `pipeline` has there. -/
def lastPipelineText (texts : List (Int64 × Bytes)) (nodeId : Bytes) : Option Bytes :=
  lastField (readText "pipeline") (recordsOf moduleKey nodeId (recordsIn texts))

/-- A text that is no number leaves the pipeline of the module as it was, so that the last
record that has the field does not say what the entry has. -/
theorem unreadable_pipeline_kept : ¬ ∃ value : Bytes → UInt32,
    ∀ texts nodeId pipelineId text, pipelineOf texts nodeId = some pipelineId →
      lastPipelineText texts nodeId = some text → pipelineId = value text := by
  rintro ⟨value, hvalue⟩
  have hnumber : (10 : UInt32) = value (asciiBytes "x") :=
    hvalue [(0, asciiBytes "ASINFO|module|id=a|pipeline=10"),
      (0, asciiBytes "ASINFO|module|id=a|pipeline=x")] (asciiBytes "a") 10 (asciiBytes "x")
      (by decide) (by decide)
  have hnone : (0 : UInt32) = value (asciiBytes "x") :=
    hvalue [(0, asciiBytes "ASINFO|module|id=a|pipeline=x")] (asciiBytes "a") 0 (asciiBytes "x")
      (by decide) (by decide)
  rw [← hnone] at hnumber
  revert hnumber
  decide

end AudioStudio.SystemInfo
