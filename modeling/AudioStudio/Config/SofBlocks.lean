import AudioStudio.Config.SofBasic
import AudioStudio.Core.ByteFields
import AudioStudio.Loader.SofLoader

/-!
# Blocks of filters, routes and mappings

What the blobs of DSP filters and channel remaps say, and a reader that walks them by their own
headers.  It finds the configuration if every number of it fits its field.
-/

namespace AudioStudio.Config.SofBasic

open AudioStudio.ByteReader
open AudioStudio.Common
open AudioStudio.LittleEndian
open AudioStudio.Loader
open AudioStudio.Rpc

/-! ## Configurations -/

structure FilterBlock where
  index : Nat
  type : UInt16
  coefficients : List Int16
  deriving DecidableEq, Repr

/-- A matrix entry is the index of a filter, or -1. -/
structure RouteBlock where
  index : Nat
  inputs : List UInt16
  outputs : List UInt16
  matrix : List (List Int)
  deriving DecidableEq, Repr

structure MappingBlock where
  index : Nat
  inputs : List UInt16
  outputs : List UInt16
  matrix : List (List Int32)
  deriving DecidableEq, Repr

structure DspBlock where
  filters : List FilterBlock
  routes : List RouteBlock
  deriving DecidableEq, Repr

/-- The number as it is given. -/
def indexValue (object : JsonValue) (key : String) (fallback : Nat) : Parsed Nat :=
  match object.member (asciiBytes key) with
  | none | some .null => .ok fallback
  | some (.number scalar) => do
      let value ← int64Value (.number scalar)
      if value < 0 then raise "JSON field must be non-negative: " (asciiBytes key)
      else return value.toNat
  | some _ => raise "JSON field must be number: " (asciiBytes key)

/-- The indexes of the filters that have a name, the last one in front. -/
abbrev FilterNames := List (Bytes × Nat)

/-- What an entry stands for: no filter, a number, or the filter of a name. -/
def entryIndex (names : FilterNames) : JsonValue → Parsed Int
  | .null => .ok (-1)
  | .number scalar => int64Value (.number scalar)
  | .string text =>
      if text = [] ∨ text = asciiBytes "off" ∨ text = asciiBytes "none" ∨
          text = asciiBytes "null" then .ok (-1)
      else
        match names.lookup text with
        | some index => .ok index
        | none => raise "dsp_filter matrix references unknown filter: " text
  | .object members =>
      match _hfilter : lookup (asciiBytes "filter") members with
      | some entry => entryIndex names entry
      | none =>
          match _hid : lookup (asciiBytes "filter_id") members with
          | some entry => entryIndex names entry
          | none => raise "JSON object key is missing: filter_id"
  | .bool _ | .array _ => raise "dsp_filter matrix entry must be filter id, number, or null"
termination_by entry => sizeOf entry
decreasing_by
  · have hless := sizeOf_of_lookup _hfilter
    simp only [JsonValue.object.sizeOf_spec]
    omega
  · have hless := sizeOf_of_lookup _hid
    simp only [JsonValue.object.sizeOf_spec]
    omega

section

variable {D : Type} (x : Doubles D)

def filterBlocks (place : Nat) (names : FilterNames) :
    List JsonValue → Parsed (FilterNames × List FilterBlock)
  | [] => .ok (names, [])
  | filter :: filters => do
      let index ← indexValue filter "index" place
      let id ← stringValue filter "id"
      let filterId ← stringValue filter "filter_id" id
      let type ← stringValue filter "type" (asciiBytes "fir")
      let (filterType, coefficients) ← filterBody x filter (type.map toLower)
      let names := if filterId = [] then names else (filterId, index) :: names
      let (names, blocks) ← filterBlocks (place + 1) names filters
      return (names, { index, type := filterType, coefficients } :: blocks)

def routeBlock (names : FilterNames) (route : JsonValue) (place : Nat) : Parsed RouteBlock := do
  let inputs ← channelList route "input"
  let outputs ← channelList route "output"
  let rows ← requiredArray route "matrix"
  if rows.length ≠ outputs.length then
    raise "dsp_filter matrix row count must match output channels"
  else do
    let matrix ← rows.mapM (matrixRow "dsp_filter" (entryIndex names) inputs.length)
    let index ← indexValue route "config_idx" place
    return { index, inputs, outputs, matrix }

def routeBlocks (names : FilterNames) (place : Nat) : List JsonValue → Parsed (List RouteBlock)
  | [] => .ok []
  | route :: routes => do
      let block ← routeBlock names route place
      let blocks ← routeBlocks names (place + 1) routes
      return block :: blocks

/-- The filters and routes that a document lists. -/
def dspBlock (value : JsonValue) : Parsed DspBlock := do
  let filters ← requiredArray value "filters"
  let routes ← requiredArray value "routes"
  let (names, filters) ← filterBlocks x 0 [] filters
  let routes ← routeBlocks names 0 routes
  return { filters, routes }

def mappingBlock (mapping : JsonValue) (place : Nat) : Parsed MappingBlock := do
  let inputs ← channelList mapping "input"
  let outputs ← channelList mapping "output"
  let rows ← requiredArray mapping "matrix"
  if rows.length ≠ outputs.length then
    raise "channel_remap matrix row count must match output channels"
  else do
    let index ← indexValue mapping "config_idx" place
    let matrix ← rows.mapM (matrixRow "channel_remap" (remapEntry x) inputs.length)
    return { index, inputs, outputs, matrix }

def mappingBlocks (place : Nat) : List JsonValue → Parsed (List MappingBlock)
  | [] => .ok []
  | mapping :: mappings => do
      let block ← mappingBlock x mapping place
      let blocks ← mappingBlocks (place + 1) mappings
      return block :: blocks

/-- The mappings that a document lists. -/
def remapBlock (value : JsonValue) : Parsed (List MappingBlock) := do
  let mappings ← requiredArray value "mappings"
  mappingBlocks x 0 mappings

end

/-! ## How they are laid out -/

def FilterBlock.layout (block : FilterBlock) : Bytes :=
  align4 (le16 block.index.toUInt16 ++ le16 block.type ++ le16 0 ++
    le16 block.coefficients.length.toUInt16 ++ le16 0 ++
    le16 (block.coefficients.length * 2).toUInt16 ++
    block.coefficients.flatMap fun coef => le16 coef.toUInt16)

def RouteBlock.body (block : RouteBlock) : Bytes :=
  align4 (block.inputs.flatMap le16 ++ block.outputs.flatMap le16 ++
    block.matrix.flatten.flatMap fun entry => le16 (Int16.ofInt entry).toUInt16)

def RouteBlock.layout (block : RouteBlock) : Bytes :=
  align4 (le32 block.index.toUInt32 ++ le32 block.inputs.length.toUInt32 ++
    le32 block.outputs.length.toUInt32 ++ le32 block.body.length.toUInt32 ++ block.body)

def MappingBlock.layout (block : MappingBlock) : Bytes :=
  align4 (le32 block.index.toUInt32 ++ le32 block.inputs.length.toUInt32 ++
    le32 block.outputs.length.toUInt32 ++ (List.replicate 5 (le32 0)).flatten ++
    block.inputs.flatMap le16 ++ block.outputs.flatMap le16) ++
    block.matrix.flatten.flatMap le32Signed

def DspBlock.layout (block : DspBlock) : Bytes :=
  let data := block.filters.flatMap FilterBlock.layout ++ block.routes.flatMap RouteBlock.layout
  le32 block.filters.length.toUInt32 ++ le32 block.routes.length.toUInt32 ++
    le32 data.length.toUInt32 ++ data

/-! ## What is packed -/

theorem uintValue_eq (object : JsonValue) (key : String) (fallback : Nat) :
    uintValue object key fallback.toUInt32 =
      (indexValue object key fallback).map Nat.toUInt32 := by
  rw [uintValue, indexValue]
  cases object.member (asciiBytes key) with
  | none => rfl
  | some held =>
      cases held with
      | number scalar =>
          dsimp only
          cases int64Value (.number scalar) with
          | error fault => rfl
          | ok value =>
              change (if value < 0 then _ else _) = Except.map _ (if value < 0 then _ else _)
              split
              · rfl
              · rfl
      | null | bool _ | string _ | array _ | object _ => rfl

/-- The index in a filter's header, whose place is cut to 16 bits before. -/
theorem headerIndex_eq (object : JsonValue) (key : String) (fallback : Nat) :
    (uintValue object key fallback.toUInt16.toUInt32).map UInt32.toUInt16 =
      (indexValue object key fallback).map Nat.toUInt16 := by
  rw [uintValue, indexValue]
  cases object.member (asciiBytes key) with
  | none => exact congrArg Except.ok (by simp)
  | some held =>
      cases held with
      | number scalar =>
          dsimp only
          cases int64Value (.number scalar) with
          | error fault => rfl
          | ok value =>
              change Except.map _ (if value < 0 then _ else _) =
                Except.map _ (if value < 0 then _ else _)
              split
              · rfl
              · exact congrArg Except.ok (by simp)
      | null => exact congrArg Except.ok (by simp)
      | bool _ | string _ | array _ | object _ => rfl

/-- An index as it stands among the filters' names. -/
theorem int16_ofInt_index (index : Nat) :
    Int16.ofInt index = index.toUInt16.toInt16 :=
  congrArg (fun bits => Int16.ofUInt16 ⟨bits⟩) (BitVec.ofInt_natCast 16 index)

def castNames (names : FilterNames) : FilterIds :=
  names.map fun named => (named.1, Int16.ofInt named.2)

theorem lookup_castNames (names : FilterNames) (name : Bytes) :
    (castNames names).lookup name = (names.lookup name).map fun index => Int16.ofInt index := by
  induction names with
  | nil => rfl
  | cons named names ih =>
      obtain ⟨first, index⟩ := named
      rw [castNames] at ih ⊢
      rw [List.map_cons, List.lookup_cons, List.lookup_cons, ih]
      cases name == first with
      | true => rfl
      | false => rfl

variable {value : JsonValue}

theorem mem_of_lookup {key : Bytes} {members : JsonMembers}
    (hlookup : lookup key members = some value) : (key, value) ∈ members := by
  induction members with
  | nil => cases hlookup
  | cons member members ih =>
      obtain ⟨name, held⟩ := member
      rw [lookup] at hlookup
      split at hlookup
      · next hsame =>
          cases hlookup
          rw [hsame]
          exact List.mem_cons_self
      · exact List.mem_cons_of_mem _ (ih hlookup)

section EntryObjects

variable {members : JsonMembers} {entry : JsonValue} (filterIds : FilterIds) (names : FilterNames)

theorem filterMatrixEntry_filter (hfilter : lookup (asciiBytes "filter") members = some entry) :
    filterMatrixEntry filterIds (.object members) = filterMatrixEntry filterIds entry := by
  rw [filterMatrixEntry]
  split
  · next other hother =>
      cases hfilter.symm.trans hother
      rfl
  · next hnone => cases hfilter.symm.trans hnone

theorem filterMatrixEntry_filterId (hnone : lookup (asciiBytes "filter") members = none)
    (hid : lookup (asciiBytes "filter_id") members = some entry) :
    filterMatrixEntry filterIds (.object members) = filterMatrixEntry filterIds entry := by
  rw [filterMatrixEntry]
  split
  · next other hother => cases hnone.symm.trans hother
  · split
    · next other hother =>
        cases hid.symm.trans hother
        rfl
    · next hmissing => cases hid.symm.trans hmissing

theorem filterMatrixEntry_missing (hnone : lookup (asciiBytes "filter") members = none)
    (hmissing : lookup (asciiBytes "filter_id") members = none) :
    filterMatrixEntry filterIds (.object members) = raise "JSON object key is missing: filter_id" := by
  rw [filterMatrixEntry]
  split
  · next other hother => cases hnone.symm.trans hother
  · split
    · next other hother => cases hmissing.symm.trans hother
    · rfl

theorem entryIndex_filter (hfilter : lookup (asciiBytes "filter") members = some entry) :
    entryIndex names (.object members) = entryIndex names entry := by
  rw [entryIndex]
  split
  · next other hother =>
      cases hfilter.symm.trans hother
      rfl
  · next hnone => cases hfilter.symm.trans hnone

theorem entryIndex_filterId (hnone : lookup (asciiBytes "filter") members = none)
    (hid : lookup (asciiBytes "filter_id") members = some entry) :
    entryIndex names (.object members) = entryIndex names entry := by
  rw [entryIndex]
  split
  · next other hother => cases hnone.symm.trans hother
  · split
    · next other hother =>
        cases hid.symm.trans hother
        rfl
    · next hmissing => cases hid.symm.trans hmissing

theorem entryIndex_missing (hnone : lookup (asciiBytes "filter") members = none)
    (hmissing : lookup (asciiBytes "filter_id") members = none) :
    entryIndex names (.object members) = raise "JSON object key is missing: filter_id" := by
  rw [entryIndex]
  split
  · next other hother => cases hnone.symm.trans hother
  · split
    · next other hother => cases hmissing.symm.trans hother
    · rfl

end EntryObjects

theorem filterMatrixEntry_eq (names : FilterNames) (entry : JsonValue) :
    filterMatrixEntry (castNames names) entry = (entryIndex names entry).map Int16.ofInt := by
  induction entry using JsonValue.nestedInduction with
  | null => rw [filterMatrixEntry, entryIndex]; rfl
  | bool value => rw [filterMatrixEntry, entryIndex]; rfl
  | number scalar => rw [filterMatrixEntry, entryIndex]
  | string text =>
      rw [filterMatrixEntry, entryIndex, lookup_castNames]
      split
      · rfl
      · cases names.lookup text with
        | none => rfl
        | some index => rfl
  | array items ih => rw [filterMatrixEntry, entryIndex]; rfl
  | object members ih =>
      cases hfilter : lookup (asciiBytes "filter") members with
      | some entry =>
          rw [filterMatrixEntry_filter _ hfilter, entryIndex_filter _ hfilter]
          exact ih _ (mem_of_lookup hfilter)
      | none =>
          cases hid : lookup (asciiBytes "filter_id") members with
          | some entry =>
              rw [filterMatrixEntry_filterId _ hfilter hid, entryIndex_filterId _ hfilter hid]
              exact ih _ (mem_of_lookup hid)
          | none =>
              rw [filterMatrixEntry_missing _ hfilter hid, entryIndex_missing _ hfilter hid]
              rfl

section

variable {D : Type} (x : Doubles D)

variable {place : Nat}

theorem packDspFilterHeader_eq {filter : JsonValue} {index : Nat}
    (hindex : indexValue filter "index" place = .ok index) :
    packDspFilterHeader x filter place.toUInt16 = do
      let type ← stringValue filter "type" (asciiBytes "fir")
      let body ← filterBody x filter (type.map toLower)
      return ({ index, type := body.1, coefficients := body.2 } : FilterBlock).layout := by
  have hheader := headerIndex_eq filter "index" place
  rw [hindex] at hheader
  rw [packDspFilterHeader]
  cases stringValue filter "type" (asciiBytes "fir") with
  | error fault => rfl
  | ok type =>
      cases hvalue : uintValue filter "index" place.toUInt16.toUInt32 with
      | error fault =>
          rw [hvalue] at hheader
          cases hheader
      | ok idx =>
          rw [hvalue] at hheader
          have hidx : idx.toUInt16 = index.toUInt16 := Except.ok.inj hheader
          change (filterBody x filter (type.map toLower) >>= _) =
            (filterBody x filter (type.map toLower) >>= _)
          cases filterBody x filter (type.map toLower) with
          | error fault => rfl
          | ok body =>
              change Except.ok (align4 (le16 idx.toUInt16 ++ _ ++ _ ++ _ ++ _ ++ _ ++ _)) = _
              rw [hidx]
              rfl

theorem castNames_add (names : FilterNames) (filterId : Bytes) (index : Nat) :
    (if filterId = [] then castNames names
      else (filterId, index.toUInt32.toUInt16.toInt16) :: castNames names) =
      castNames (if filterId = [] then names else (filterId, index) :: names) := by
  split
  · rfl
  · rw [castNames, castNames, List.map_cons, int16_ofInt_index]
    simp

theorem packFilters_eq (filters : List JsonValue) (place : Nat) (names : FilterNames) :
    packFilters x place (castNames names) filters =
      (filterBlocks x place names filters).map fun read =>
        (castNames read.1, read.2.flatMap FilterBlock.layout) := by
  induction filters generalizing place names with
  | nil => rfl
  | cons filter filters ih =>
      rw [packFilters, filterBlocks, uintValue_eq]
      cases hindex : indexValue filter "index" place with
      | error fault => rfl
      | ok index =>
          cases stringValue filter "id" with
          | error fault => rfl
          | ok id =>
              change (stringValue filter "filter_id" id >>= _) =
                Except.map _ (stringValue filter "filter_id" id >>= _)
              cases stringValue filter "filter_id" id with
              | error fault => rfl
              | ok filterId =>
                  rw [packDspFilterHeader_eq x hindex]
                  cases stringValue filter "type" (asciiBytes "fir") with
                  | error fault => rfl
                  | ok type =>
                      change ((filterBody x filter (type.map toLower) >>= _) >>= _) =
                        Except.map _ (filterBody x filter (type.map toLower) >>= _)
                      cases filterBody x filter (type.map toLower) with
                      | error fault => rfl
                      | ok body =>
                          change (packFilters x (place + 1) (if filterId = [] then castNames names
                            else (filterId, index.toUInt32.toUInt16.toInt16) :: castNames names)
                            filters >>= _) = Except.map _ (filterBlocks x (place + 1)
                              (if filterId = [] then names else (filterId, index) :: names)
                              filters >>= _)
                          rw [castNames_add, ih]
                          cases filterBlocks x (place + 1)
                              (if filterId = [] then names else (filterId, index) :: names)
                              filters with
                          | error fault => rfl
                          | ok read => rfl

variable {α β : Type}

theorem mapM_map {γ : Type} (read : α → Parsed β) (cast : β → γ) (items : List α) :
    items.mapM (fun item => (read item).map cast) = (items.mapM read).map (List.map cast) := by
  induction items with
  | nil => rfl
  | cons item items ih =>
      rw [List.mapM_cons, List.mapM_cons, ih]
      cases read item with
      | error fault => rfl
      | ok value =>
          change (Except.map _ (items.mapM read) >>= _) = Except.map _ (items.mapM read >>= _)
          cases items.mapM read with
          | error fault => rfl
          | ok values => rfl

theorem matrixRow_map (module : String) (read : JsonValue → Parsed α) (cast : α → β) (inputs : Nat)
    (row : JsonValue) :
    matrixRow module (fun entry => (read entry).map cast) inputs row =
      (matrixRow module read inputs row).map (List.map cast) := by
  cases row with
  | array entries =>
      rw [matrixRow, matrixRow]
      split
      · rfl
      · exact mapM_map read cast entries
  | null | bool _ | number _ | string _ | object _ => rfl

theorem matrix_map (module : String) (read : JsonValue → Parsed α) (cast : α → β) (inputs : Nat)
    (rows : List JsonValue) :
    rows.mapM (matrixRow module (fun entry => (read entry).map cast) inputs) =
      (rows.mapM (matrixRow module read inputs)).map (List.map (List.map cast)) := by
  rw [← mapM_map]
  congr 1
  funext row
  exact matrixRow_map module read cast inputs row

theorem packDspFilterChannelConfig_eq (names : FilterNames) (route : JsonValue) (place : Nat) :
    packDspFilterChannelConfig route place.toUInt32 (castNames names) =
      (routeBlock names route place).map RouteBlock.layout := by
  rw [packDspFilterChannelConfig, routeBlock, funext (filterMatrixEntry_eq names), uintValue_eq]
  cases channelList route "input" with
  | error fault => rfl
  | ok inputs =>
      cases channelList route "output" with
      | error fault => rfl
      | ok outputs =>
          cases requiredArray route "matrix" with
          | error fault => rfl
          | ok rows =>
              change (if rows.length ≠ outputs.length then _ else _) =
                Except.map _ (if rows.length ≠ outputs.length then _ else _)
              split
              · rfl
              · rw [matrix_map]
                cases rows.mapM (matrixRow "dsp_filter" (entryIndex names) inputs.length) with
                | error fault => rfl
                | ok matrix =>
                    cases indexValue route "config_idx" place with
                    | error fault => rfl
                    | ok index =>
                        change Except.ok (align4 (_ ++ _ ++ _ ++ le32 (align4 (_ ++ _ ++
                          (matrix.map (List.map Int16.ofInt)).flatten.flatMap _)).length.toUInt32 ++
                          align4 (_ ++ _ ++
                            (matrix.map (List.map Int16.ofInt)).flatten.flatMap _))) = _
                        rw [← List.map_flatten, List.flatMap_map]
                        rfl

theorem packRoutes_eq (names : FilterNames) (routes : List JsonValue) (place : Nat) :
    packRoutes (castNames names) place routes =
      (routeBlocks names place routes).map (List.flatMap RouteBlock.layout) := by
  induction routes generalizing place with
  | nil => rfl
  | cons route routes ih =>
      rw [packRoutes, routeBlocks, packDspFilterChannelConfig_eq, ih]
      cases routeBlock names route place with
      | error fault => rfl
      | ok block =>
          cases routeBlocks names (place + 1) routes with
          | error fault => rfl
          | ok blocks => rfl

theorem length_filterBlocks {filters : List JsonValue} {names : FilterNames}
    {read : FilterNames × List FilterBlock} (hread : filterBlocks x place names filters = .ok read)
    : read.2.length = filters.length := by
  induction filters generalizing place names read with
  | nil =>
      cases hread
      rfl
  | cons filter filters ih =>
      rw [filterBlocks] at hread
      obtain ⟨index, -, hread⟩ := bind_eq_ok hread
      obtain ⟨id, -, hread⟩ := bind_eq_ok hread
      obtain ⟨filterId, -, hread⟩ := bind_eq_ok hread
      obtain ⟨type, -, hread⟩ := bind_eq_ok hread
      obtain ⟨body, -, hread⟩ := bind_eq_ok hread
      obtain ⟨rest, hrest, hread⟩ := bind_eq_ok hread
      cases hread
      exact congrArg (· + 1) (ih hrest)

variable {routes : List JsonValue} {blocks : List RouteBlock}

theorem length_routeBlocks {names : FilterNames}
    (hread : routeBlocks names place routes = .ok blocks) : blocks.length = routes.length := by
  induction routes generalizing place blocks with
  | nil =>
      cases hread
      rfl
  | cons route routes ih =>
      rw [routeBlocks] at hread
      obtain ⟨block, -, hread⟩ := bind_eq_ok hread
      obtain ⟨rest, hrest, hread⟩ := bind_eq_ok hread
      cases hread
      exact congrArg (· + 1) (ih hrest)

theorem packDspFilter_eq (value : JsonValue) :
    packDspFilter x value = (dspBlock x value).map DspBlock.layout := by
  rw [packDspFilter, dspBlock]
  cases requiredArray value "filters" with
  | error fault => rfl
  | ok filters =>
      cases requiredArray value "routes" with
      | error fault => rfl
      | ok routes =>
          change (packFilters x 0 (castNames []) filters >>= _) =
            Except.map _ (filterBlocks x 0 [] filters >>= _)
          rw [packFilters_eq]
          cases hfilters : filterBlocks x 0 [] filters with
          | error fault => rfl
          | ok read =>
              obtain ⟨names, blocks⟩ := read
              change (packRoutes (castNames names) 0 routes >>= _) =
                Except.map _ (routeBlocks names 0 routes >>= _)
              rw [packRoutes_eq]
              cases hroutes : routeBlocks names 0 routes with
              | error fault => rfl
              | ok blocks' =>
                  change Except.ok (le32 filters.length.toUInt32 ++ le32 routes.length.toUInt32 ++
                    _ ++ _) = _
                  rw [← length_filterBlocks x hfilters, ← length_routeBlocks hroutes]
                  rfl

theorem packChannelRemapConfig_eq (mapping : JsonValue) (place : Nat) :
    packChannelRemapConfig x mapping place.toUInt32 =
      (mappingBlock x mapping place).map MappingBlock.layout := by
  rw [packChannelRemapConfig, mappingBlock, uintValue_eq]
  cases channelList mapping "input" with
  | error fault => rfl
  | ok inputs =>
      cases channelList mapping "output" with
      | error fault => rfl
      | ok outputs =>
          cases requiredArray mapping "matrix" with
          | error fault => rfl
          | ok rows =>
              change (if rows.length ≠ outputs.length then _ else _) =
                Except.map _ (if rows.length ≠ outputs.length then _ else _)
              split
              · rfl
              · cases indexValue mapping "config_idx" place with
                | error fault => rfl
                | ok index =>
                    change (rows.mapM (matrixRow "channel_remap" (remapEntry x) inputs.length)
                      >>= _) = Except.map _
                        (rows.mapM (matrixRow "channel_remap" (remapEntry x) inputs.length) >>= _)
                    cases rows.mapM (matrixRow "channel_remap" (remapEntry x) inputs.length) with
                    | error fault => rfl
                    | ok matrix => rfl

theorem packMappings_eq (mappings : List JsonValue) (place : Nat) :
    packMappings x place mappings =
      (mappingBlocks x place mappings).map (List.flatMap MappingBlock.layout) := by
  induction mappings generalizing place with
  | nil => rfl
  | cons mapping mappings ih =>
      rw [packMappings, mappingBlocks, packChannelRemapConfig_eq, ih]
      cases mappingBlock x mapping place with
      | error fault => rfl
      | ok block =>
          cases mappingBlocks x (place + 1) mappings with
          | error fault => rfl
          | ok blocks => rfl

theorem packChannelRemap_eq (value : JsonValue) :
    packChannelRemap x value =
      (remapBlock x value).map (List.flatMap MappingBlock.layout) := by
  rw [packChannelRemap, remapBlock]
  cases requiredArray value "mappings" with
  | error fault => rfl
  | ok mappings => exact packMappings_eq x mappings 0

/-! ## Shapes -/

/-- A row for every output, in which every input has an entry. -/
def Rectangular {α : Type} (inputs outputs : List UInt16) (matrix : List (List α)) : Prop :=
  matrix.length = outputs.length ∧ ∀ row ∈ matrix, row.length = inputs.length

variable {read : JsonValue → Parsed α} {module : String}

theorem matrixRow_length {inputs : Nat} {row : JsonValue} {values : List α}
    (hrow : matrixRow module read inputs row = .ok values) : values.length = inputs := by
  cases row with
  | array entries =>
      rw [matrixRow] at hrow
      split at hrow
      · cases hrow
      · next hlength => rw [← (forall₂_of_mapM hrow).length_eq, not_not.mp hlength]
  | null | bool _ | number _ | string _ | object _ => cases hrow

theorem rectangular_of_mapM {inputs outputs : List UInt16} {rows : List JsonValue}
    {matrix : List (List α)} (hrows : rows.mapM (matrixRow module read inputs.length) = .ok matrix)
    (hlength : rows.length = outputs.length) : Rectangular inputs outputs matrix := by
  refine ⟨(forall₂_of_mapM hrows).length_eq.symm.trans hlength, ?_⟩
  intro row hrow
  obtain ⟨source, -, hsource⟩ := exists_of_mem_mapM hrows hrow
  exact matrixRow_length hsource

theorem routeBlock_rectangular {names : FilterNames} {route : JsonValue} {block : RouteBlock}
    (hread : routeBlock names route place = .ok block) :
    Rectangular block.inputs block.outputs block.matrix := by
  rw [routeBlock] at hread
  obtain ⟨inputs, -, hread⟩ := bind_eq_ok hread
  obtain ⟨outputs, -, hread⟩ := bind_eq_ok hread
  obtain ⟨rows, -, hread⟩ := bind_eq_ok hread
  split at hread
  · cases hread
  · next hlength =>
      obtain ⟨matrix, hmatrix, hread⟩ := bind_eq_ok hread
      obtain ⟨index, -, hread⟩ := bind_eq_ok hread
      cases hread
      exact rectangular_of_mapM hmatrix (not_not.mp hlength)

theorem routeBlocks_rectangular {names : FilterNames}
    (hread : routeBlocks names place routes = .ok blocks) :
    ∀ block ∈ blocks, Rectangular block.inputs block.outputs block.matrix := by
  induction routes generalizing place blocks with
  | nil =>
      cases hread
      exact List.forall_mem_nil _
  | cons route routes ih =>
      rw [routeBlocks] at hread
      obtain ⟨block, hblock, hread⟩ := bind_eq_ok hread
      obtain ⟨rest, hrest, hread⟩ := bind_eq_ok hread
      cases hread
      exact List.forall_mem_cons.mpr ⟨routeBlock_rectangular hblock, ih hrest⟩

theorem dspBlock_rectangular {block : DspBlock} (hread : dspBlock x value = .ok block) :
    ∀ route ∈ block.routes, Rectangular route.inputs route.outputs route.matrix := by
  rw [dspBlock] at hread
  obtain ⟨filters, -, hread⟩ := bind_eq_ok hread
  obtain ⟨routes, -, hread⟩ := bind_eq_ok hread
  obtain ⟨read, -, hread⟩ := bind_eq_ok hread
  obtain ⟨blocks, hblocks, hread⟩ := bind_eq_ok hread
  cases hread
  exact routeBlocks_rectangular hblocks

theorem mappingBlock_rectangular {mapping : JsonValue} {block : MappingBlock}
    (hread : mappingBlock x mapping place = .ok block) :
    Rectangular block.inputs block.outputs block.matrix := by
  rw [mappingBlock] at hread
  obtain ⟨inputs, -, hread⟩ := bind_eq_ok hread
  obtain ⟨outputs, -, hread⟩ := bind_eq_ok hread
  obtain ⟨rows, -, hread⟩ := bind_eq_ok hread
  split at hread
  · cases hread
  · next hlength =>
      obtain ⟨index, -, hread⟩ := bind_eq_ok hread
      obtain ⟨matrix, hmatrix, hread⟩ := bind_eq_ok hread
      cases hread
      exact rectangular_of_mapM hmatrix (not_not.mp hlength)

theorem mappingBlocks_rectangular {mappings : List JsonValue} {blocks : List MappingBlock}
    (hread : mappingBlocks x place mappings = .ok blocks) :
    ∀ block ∈ blocks, Rectangular block.inputs block.outputs block.matrix := by
  induction mappings generalizing place blocks with
  | nil =>
      cases hread
      exact List.forall_mem_nil _
  | cons mapping mappings ih =>
      rw [mappingBlocks] at hread
      obtain ⟨block, hblock, hread⟩ := bind_eq_ok hread
      obtain ⟨rest, hrest, hread⟩ := bind_eq_ok hread
      cases hread
      exact List.forall_mem_cons.mpr ⟨mappingBlock_rectangular x hblock, ih hrest⟩

theorem remapBlock_rectangular {blocks : List MappingBlock}
    (hread : remapBlock x value = .ok blocks) :
    ∀ block ∈ blocks, Rectangular block.inputs block.outputs block.matrix := by
  rw [remapBlock] at hread
  obtain ⟨mappings, -, hread⟩ := bind_eq_ok hread
  exact mappingBlocks_rectangular x hread

end

end AudioStudio.Config.SofBasic
