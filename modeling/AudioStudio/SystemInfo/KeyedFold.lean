import AudioStudio.SystemInfo.Snapshot

/-!
# The snapshot as a fold by key

Each collection of the snapshot merges the records of its type into the entries of
their keys.
-/

namespace AudioStudio.SystemInfo

open LittleEndian Keyed

variable {δ : Type} {doubles : Doubles δ}

/-! ## Keys of records -/

/-- A record of a type has the key that its fields give, if it is one. -/
def keyWhen {κ : Type} (type : String) (key : Fields → Option κ) (record : InfoRecord) : Option κ :=
  if record.type = asciiBytes type then key record.fields else none

/-- An empty key is none. -/
def nonEmpty (key : Bytes) : Option Bytes := if key = [] then none else some key

def coreKey : InfoRecord → Option Int32 :=
  keyWhen "core" fun fields => some (fieldInt fields "id" 0)

def moduleKey : InfoRecord → Option Bytes :=
  keyWhen "module" fun fields => nonEmpty (moduleNodeId fields)

def bufferKey : InfoRecord → Option Bytes :=
  keyWhen "buffer" fun fields => nonEmpty (bufferEdgeKey fields)

def heapKey : InfoRecord → Option (Bytes × Int32 × UInt32) :=
  keyWhen "heap" fun fields => some (heapInfo fields).key

def pipelineKey : InfoRecord → Option UInt32 :=
  keyWhen "pipeline" fun fields => some (fieldU32 fields "id" 0)

variable {record : InfoRecord} {κ : Type} {key : Fields → Option κ}

variable {type : String}

theorem keyWhen_of_type (htype : record.type = asciiBytes type) :
    keyWhen type key record = key record.fields := if_pos htype

theorem keyWhen_of_other (htype : record.type ≠ asciiBytes type) :
    keyWhen type key record = none := if_neg htype

/-! ## Collections -/

variable (now : Int64) (snapshot : SystemInfoSnapshot δ)

theorem applyInfo_cores : (applyInfo doubles now record snapshot).cores =
    merge (·.id) coreKey (fun _ record => coreInfo doubles record.fields) snapshot.cores record := by
  unfold merge coreKey
  by_cases htype : record.type = asciiBytes "core"
  · rw [keyWhen_of_type htype, applyInfo, htype, if_neg (by decide), if_pos rfl]
  · rw [keyWhen_of_other htype, applyInfo, if_neg htype]
    dsimp only
    split_ifs <;> rfl

theorem applyInfo_modules : (applyInfo doubles now record snapshot).modules =
    merge (·.nodeId) moduleKey (fun existing record => moduleInfo doubles existing record.fields)
      snapshot.modules record := by
  unfold merge moduleKey
  by_cases htype : record.type = asciiBytes "module"
  · rw [keyWhen_of_type htype, applyInfo, htype, if_neg (by decide),
      if_neg (by decide), if_pos rfl, nonEmpty]
    dsimp only
    split_ifs with hempty
    · rfl
    · rfl
  · rw [keyWhen_of_other htype, applyInfo, if_neg htype]
    dsimp only
    split_ifs <;> rfl

theorem applyInfo_buffers : (applyInfo doubles now record snapshot).buffers =
    merge (·.edgeKey) bufferKey (fun existing record => bufferInfo existing record.fields)
      snapshot.buffers record := by
  unfold merge bufferKey
  by_cases htype : record.type = asciiBytes "buffer"
  · rw [keyWhen_of_type htype, applyInfo, htype, if_neg (by decide),
      if_neg (by decide), if_neg (by decide), if_pos rfl, nonEmpty]
    dsimp only
    split_ifs with hempty
    · rfl
    · rfl
  · rw [keyWhen_of_other htype, applyInfo, if_neg htype]
    dsimp only
    split_ifs <;> rfl

theorem applyInfo_heap : (applyInfo doubles now record snapshot).heap =
    merge SystemHeapInfo.key heapKey (fun _ record => heapInfo record.fields) snapshot.heap
      record := by
  unfold merge heapKey
  by_cases htype : record.type = asciiBytes "heap"
  · rw [keyWhen_of_type htype, applyInfo, htype, if_neg (by decide),
      if_neg (by decide), if_neg (by decide), if_neg (by decide), if_pos rfl]
  · rw [keyWhen_of_other htype, applyInfo, if_neg htype]
    dsimp only
    split_ifs <;> rfl

theorem applyInfo_pipelines : (applyInfo doubles now record snapshot).pipelines =
    merge (·.id) pipelineKey (fun _ record => pipelineInfo doubles record.fields)
      snapshot.pipelines record := by
  unfold merge pipelineKey
  by_cases htype : record.type = asciiBytes "pipeline"
  · rw [keyWhen_of_type htype, applyInfo, htype, if_neg (by decide),
      if_neg (by decide), if_neg (by decide), if_neg (by decide),
      if_neg (by decide), if_pos rfl]
  · rw [keyWhen_of_other htype, applyInfo, if_neg htype]
    dsimp only
    split_ifs <;> rfl

/-- The records among texts that were applied. -/
def recordsIn (texts : List (Int64 × Bytes)) : List InfoRecord :=
  texts.filterMap fun text => parseRecord text.2

variable {α : Type} {build : Option α → InfoRecord → α}

/-- A collection that every record merges into is the merge of all records. -/
theorem applyAll_collection {κ : Type} [DecidableEq κ] {key : α → κ}
    {keyOf : InfoRecord → Option κ}
    {items : SystemInfoSnapshot δ → List α}
    (hempty : items {} = [])
    (happly : ∀ now record snapshot, items (applyInfo doubles now record snapshot) =
      merge key keyOf build (items snapshot) record) (texts : List (Int64 × Bytes)) :
    items (applyAll doubles texts) = (recordsIn texts).foldl (merge key keyOf build) [] := by
  unfold applyAll recordsIn
  induction texts using List.reverseRecOn with
  | nil => exact hempty
  | append_singleton texts text ih =>
      rw [List.foldl_append, List.filterMap_append, List.foldl_append, ← ih]
      change items (applyRecordLocked doubles text.1 text.2 _).2 = _
      unfold applyRecordLocked
      cases hparse : parseRecord text.2 with
      | none => simp [hparse]
      | some record => simp [hparse, happly]

/-- The entries have distinct keys, those of the records that were applied. -/
structure Collects {α κ : Type} (key : α → κ) (keyOf : InfoRecord → Option κ)
    (records : List InfoRecord) (items : List α) : Prop where
  distinct : Distinct key items
  keys : ∀ wanted, (∃ item ∈ items, key item = wanted) ↔
    ∃ record ∈ records, keyOf record = some wanted

theorem collects_foldl {κ : Type} [DecidableEq κ] {key : α → κ} {keyOf : InfoRecord → Option κ}
    (hkeeps : KeepsKey key keyOf build) (records : List InfoRecord) :
    Collects key keyOf records (records.foldl (merge key keyOf build) []) where
  distinct := distinct_foldl_merge records List.nodup_nil
  keys wanted := key_mem_foldl_merge_iff hkeeps records wanted

theorem keyWhen_eq_some {wanted : κ} (hkey : keyWhen type key record = some wanted) :
    record.type = asciiBytes type ∧ key record.fields = some wanted := by
  unfold keyWhen at hkey
  split at hkey
  · next htype => exact ⟨htype, hkey⟩
  · cases hkey

theorem nonEmpty_eq_some {text wanted : Bytes} (hkey : nonEmpty text = some wanted) :
    text = wanted := by
  unfold nonEmpty at hkey
  split at hkey
  · cases hkey
  · exact Option.some.inj hkey

theorem keepsKey_cores : KeepsKey (·.id) coreKey fun (_ : Option (SystemCoreInfo δ)) record =>
    coreInfo doubles record.fields :=
  fun _ _ _ hkey _ => Option.some.inj (keyWhen_eq_some hkey).2

theorem keepsKey_modules : KeepsKey (·.nodeId) moduleKey fun existing record =>
    moduleInfo doubles existing record.fields :=
  fun _ _ _ hkey _ => nonEmpty_eq_some (keyWhen_eq_some hkey).2

theorem keepsKey_buffers : KeepsKey (·.edgeKey) bufferKey fun existing record =>
    bufferInfo existing record.fields :=
  fun _ _ _ hkey _ => nonEmpty_eq_some (keyWhen_eq_some hkey).2

theorem keepsKey_heap : KeepsKey SystemHeapInfo.key heapKey
    fun (_ : Option SystemHeapInfo) record => heapInfo record.fields :=
  fun _ _ _ hkey _ => Option.some.inj (keyWhen_eq_some hkey).2

theorem keepsKey_pipelines : KeepsKey (·.id) pipelineKey
    fun (_ : Option (SystemPipelineInfo δ)) record => pipelineInfo doubles record.fields :=
  fun _ _ _ hkey _ => Option.some.inj (keyWhen_eq_some hkey).2

/-! ## Entries -/

/-- An entry that each record replaces is that of the last record of its key. -/
theorem entry_replaced {κ : Type} [DecidableEq κ] {key : α → κ} {keyOf : InfoRecord → Option κ}
    {build : InfoRecord → α} (hkeeps : KeepsKey key keyOf fun _ record => build record)
    {records : List InfoRecord} {item : α}
    (hmem : item ∈ records.foldl (merge key keyOf fun _ record => build record) []) :
    (recordsOf keyOf (key item) records).getLast?.map build = some item := by
  have hentry := entryOf_of_mem hkeeps hmem
  rw [entryOf_replace, Option.or_none] at hentry
  exact hentry

/-- A field that each record sets or leaves is the last value read for its key. -/
theorem field_merged {κ β : Type} [DecidableEq κ] {key : α → κ} {keyOf : InfoRecord → Option κ}
    (hkeeps : KeepsKey key keyOf build) {field : α → β}
    {read : InfoRecord → Option β} {initial : β}
    (hfield : ∀ item record, field (build item record) =
      (read record).getD ((item.map field).getD initial))
    {records : List InfoRecord} {item : α}
    (hmem : item ∈ records.foldl (merge key keyOf build) []) :
    field item = (lastRead read (recordsOf keyOf (key item) records)).getD initial := by
  have hentry := field_entryOf hfield (recordsOf keyOf (key item) records) none
  rw [entryOf_of_mem hkeeps hmem] at hentry
  exact hentry

theorem fieldU32_eq (fields : Fields) (name : String) (fallback : UInt32) :
    fieldU32 fields name fallback = (readU32 name fields).getD fallback := by
  unfold fieldU32 fieldU64 readU32
  cases readU64 name fields with
  | none => exact UInt32.toUInt32_toUInt64 fallback
  | some value => rfl

theorem getD_field {β : Type} (item : Option α) (empty : α) (field : α → β) :
    field (item.getD empty) = (item.map field).getD (field empty) := by
  cases item <;> rfl

/-- The state that a record names. -/
def readState (fields : Fields) : Option Bytes :=
  match fields (asciiBytes "state") with
  | none => none
  | some value => if value = [] then none else some (componentStateName value [])

/-- The name of a state that is not empty. -/
def stateOf (module : SystemModuleInfo δ) : Bytes :=
  if module.state = [] then unknownState else module.state

theorem componentStates_named (index : Nat) :
    ((componentStates[index]?).map asciiBytes).getD unknownState ≠ [] := by
  cases hname : componentStates[index]? with
  | none => exact by decide
  | some name =>
      have hall : ∀ name ∈ componentStates, asciiBytes name ≠ [] := by decide
      exact hall name (List.mem_of_getElem? hname)

theorem componentStateName_ne_nil (value fallback : Bytes) :
    componentStateName value fallback ≠ [] := by
  have hunknown : unknownState ≠ [] := by decide
  unfold componentStateName
  split
  · split
    · exact hunknown
    · assumption
  next hvalue =>
  split
  · split
    · exact componentStates_named _
    · exact hunknown
  · exact hvalue

theorem componentStateName_of_value {value : Bytes} (hvalue : value ≠ []) (first second : Bytes) :
    componentStateName value first = componentStateName value second := by
  unfold componentStateName
  rw [if_neg hvalue, if_neg hvalue]

theorem orUnknown_ne_nil (state : Bytes) : (if state = [] then unknownState else state) ≠ [] := by
  split
  · exact by decide
  · assumption

theorem moduleInfo_state_ne_nil (existing : Option (SystemModuleInfo δ)) (fields : Fields) :
    (moduleInfo doubles existing fields).state ≠ [] :=
  orUnknown_ne_nil _

theorem stateOf_moduleInfo (existing : Option (SystemModuleInfo δ)) (fields : Fields) :
    stateOf (moduleInfo doubles existing fields) =
      (readState fields).getD ((existing.map stateOf).getD unknownState) := by
  have hexisting : (if (existing.getD (emptyModule doubles)).state = [] then unknownState
      else (existing.getD (emptyModule doubles)).state) =
        (existing.map stateOf).getD unknownState := by
    cases existing <;> rfl
  rw [stateOf, if_neg (moduleInfo_state_ne_nil existing fields)]
  unfold moduleInfo readState fieldString
  dsimp only
  cases fields (asciiBytes "state") with
  | none =>
      simp only [Option.isSome_none, Bool.false_eq_true, if_false]
      exact hexisting
  | some value =>
      simp only [Option.isSome_some, if_true, Option.getD_some]
      rw [if_neg (componentStateName_ne_nil _ _)]
      by_cases hvalue : value = []
      · rw [if_pos hvalue, hvalue]
        unfold componentStateName
        rw [if_pos rfl]
        exact hexisting
      · rw [if_neg hvalue]
        exact componentStateName_of_value hvalue _ _

end AudioStudio.SystemInfo
