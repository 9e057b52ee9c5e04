import AudioStudio.Config.Tables
import AudioStudio.Rpc.JsonGrammar

/-!
# What the conf asks of its nodes

`generateAlsaConf` needs a UUID of every node and an index of every DAI, and both can be
missing.
-/

namespace AudioStudio.Config

open AudioStudio.Common
open AudioStudio.LittleEndian
open AudioStudio.Rpc

/-! ## UUIDs -/

def hexNibble (ch : UInt8) (context : Bytes) : Parsed UInt8 :=
  if 0x30 ≤ ch ∧ ch ≤ 0x39 then pure (ch - 0x30)
  else if 0x61 ≤ ch ∧ ch ≤ 0x66 then pure (10 + (ch - 0x61))
  else if 0x41 ≤ ch ∧ ch ≤ 0x46 then pure (10 + (ch - 0x41))
  else raise "Invalid hexadecimal digit in " context

def nibblePairs (context : Bytes) : Bytes → Parsed Bytes
  | first :: second :: rest => do
      let hi ← hexNibble first context
      let lo ← hexNibble second context
      let bytes ← nibblePairs context rest
      pure ((hi <<< 4 ||| lo) :: bytes)
  | _ => pure []

def uuidBytes (uuid : Bytes) : Parsed Bytes :=
  let hex := uuid.filter (· ≠ 0x2d)
  if hex.length ≠ 32 then raise "SOF UUID must contain 16 bytes: " uuid
  else nibblePairs uuid hex

def builtinSofUuidRegistry : List (Bytes × Bytes) :=
  [("asrc", "c8ec72f6-8526-4faf-9d39a23d0b541de2"),
    ("chremap", "74e4d7a4-c015-46b8-aa38a3b38cfab0d8"),
    ("crossover", "948c9ad1-806a-4131-ad6cb2bda9e35a9f"),
    ("dai", "c2b00d27-ffbc-4150-a51a245c79c5e54b"),
    ("dcblock", "b809efaf-5681-42b1-9ed604bb012dd384"),
    ("delay_line", "71ae339d-d0fe-4995-8705e7bc44efd974"),
    ("dsp_filter", "6a010917-29dd-4cd8-950e6bc077e5476a"),
    ("drc", "b36ee4da-006f-47f9-a06dfecbe2d8b6ce"),
    ("eq_fir", "43a90ce7-f3a5-41df-ac06ba98651ae6a3"),
    ("eq_iir", "5150c0e6-27f9-4ec8-8351c705b642d12f"),
    ("fader_balance", "5c057768-21f0-4782-8056bacecf20e9fc"),
    ("file_io_dai", "6bd5a21f-2445-7917-5183c36b8bf39368"),
    ("host", "8b9d100c-6d78-418f-90a3e0e805d0852b"),
    ("kpb", "d8218443-5ff3-4a4c-b3886cfe07b9562e"),
    ("mixer", "bc06c037-12aa-417c-9a9789282e321a76"),
    ("multiband_drc", "0d9f2256-8e4f-47b3-8448239a334f1191"),
    ("mux", "c607ff4d-9cb6-49dc-b6787da3c63ea557"),
    ("selector", "55a88ed5-3d18-46ca-88f10ee6eae9930f"),
    ("src", "c1c5326d-8390-46b4-aa4795c3beca6550"),
    ("up_down_mixer", "42f8060c-832f-4dbf-b24751e961997b34"),
    ("volume", "b77e677e-5ff4-4188-af14fba8bdbf8682")].map fun (name, uuid) =>
      (asciiBytes name, asciiBytes uuid)

/-- The registry file: none is found, or what reading it gives or raises. -/
abbrev UuidRegistry := Option (Except Bytes (List (Bytes × Bytes)))

def sofUuidFromRegistry (registry : UuidRegistry) (registryName : Bytes) : Parsed Bytes :=
  match registry with
  | some (.ok entries) =>
      match entries.lookup registryName with
      | some uuid => pure uuid
      | none => raise "SOF UUID registry entry not found: " registryName
  | some (.error what) => .error (.thrown what)
  | none =>
      match builtinSofUuidRegistry.lookup registryName with
      | some uuid => pure uuid
      | none =>
          raise "SOF UUID registry not found; set SOF_UUID_REGISTRY or run from the VASS workspace"

/-- The names of the module types that have one. -/
def sofRegistryNames : List (Bytes × Bytes) :=
  [("gain.volume", "volume"), ("mix.mixer", "mixer"), ("route.mux", "mux"),
    ("route.selector", "selector"), ("rate.src", "src"), ("rate.asrc", "asrc"),
    ("filter.channel_remap", "chremap"), ("filter.chremap", "chremap"),
    ("filter.dcblock", "dcblock"), ("delay.line", "delay_line"),
    ("delay.delay_line", "delay_line"), ("mix.fader_balance", "fader_balance"),
    ("filter.dsp_filter", "dsp_filter"), ("eq.iir", "eq_iir"), ("eq.fir", "eq_fir"),
    ("dyn.drc", "drc"), ("dyn.multiband_drc", "multiband_drc"),
    ("filter.crossover", "crossover"), ("mix.up_down_mixer", "up_down_mixer"),
    ("voice.kpb", "kpb")].map fun (moduleType, name) => (asciiBytes moduleType, asciiBytes name)

def sofRegistryNameForNode (pipeline : PipelineInfo) (node : NodeInfo) : Parsed Bytes :=
  if node.kind = asciiBytes "port" ∨ isHostPortWidget pipeline node ∨
      isDaiPortWidget pipeline node then
    pure (if isDaiPortWidget pipeline node then asciiBytes "dai" else asciiBytes "host")
  else
    match sofRegistryNames.lookup node.moduleType with
    | some name => pure name
    | none => raise "No SOF UUID registry mapping for module_type: " node.moduleType

def moduleTypeForWidget (ir : ProjectIr) (node : NodeInfo) : Parsed (Option ModuleTypeInfo) :=
  if node.moduleType = [] then pure none
  else (moduleTypeForNode ir node).map some

def sofUuidForNode (registry : UuidRegistry) (ir : ProjectIr) (pipeline : PipelineInfo)
    (node : NodeInfo) : Parsed Bytes := do
  let type ← moduleTypeForWidget ir node
  match type with
  | some type =>
      if type.moduleUuid ≠ [] then pure type.moduleUuid
      else if type.moduleClass = asciiBytes "MODULE_ADAPTER" then
        raise "MODULE_ADAPTER module type must declare module_uuid: " type.typeId
      else do
        let registryName ← sofRegistryNameForNode pipeline node
        sofUuidFromRegistry registry registryName
  | none => do
      let registryName ← sofRegistryNameForNode pipeline node
      sofUuidFromRegistry registry registryName

def sofUuidTokenBytes (uuid : Bytes) : Parsed Bytes := do
  let bytes ← uuidBytes uuid
  pure ((bytes.take 4).reverse ++ ((bytes.drop 4).take 2).reverse ++
    ((bytes.drop 6).take 2).reverse ++ bytes.drop 8)

/-! ## Indices -/

/-- `std::stoul` on digits. -/
def stoul (digits : Bytes) : Parsed Nat :=
  if decimalValue digits < 2 ^ 64 then pure (decimalValue digits) else raise "stoul"

/-- `none` is the fallback of the caller. -/
def daiIndexForPort (port : PortInfo) : Parsed (Option UInt32) :=
  match port.daiIndex with
  | some index => pure (some index)
  | none =>
      let digits := port.hwId.filter isDigit
      if digits = [] then pure none
      else do
        let value ← stoul digits
        pure (some (UInt32.ofNat value))

/-! ## The conf -/

/-- What the tuples of a node hold that its names do not tell. -/
structure WidgetTokens where
  uuid : Bytes
  daiIndex : Option UInt32
  deriving DecidableEq, Repr

def widgetTokens (registry : UuidRegistry) (ir : ProjectIr) (pipeline : PipelineInfo)
    (node : NodeInfo) : Parsed WidgetTokens := do
  let uuid ← sofUuidForNode registry ir pipeline node
  let bytes ← sofUuidTokenBytes uuid
  match isDaiPortWidget pipeline node, findPort pipeline node with
  | true, some port => do
      let daiIndex ← daiIndexForPort port
      pure ⟨bytes, daiIndex⟩
  | _, _ => pure ⟨bytes, none⟩

/-- The DAIs that `emitDaiObjects` writes, by their ports. -/
def daiPorts (pipeline : PipelineInfo) : List PortInfo :=
  (pipeline.nodes.filter (isDaiPortWidget pipeline)).filterMap (findPort pipeline)

structure PipelineTokens where
  widgets : List WidgetTokens
  daiIndices : List (Option UInt32)
  deriving DecidableEq, Repr

def pipelineTokens (registry : UuidRegistry) (ir : ProjectIr) (pipeline : PipelineInfo) :
    Parsed PipelineTokens := do
  let widgets ← pipeline.nodes.mapM (widgetTokens registry ir pipeline)
  let daiIndices ← (daiPorts pipeline).mapM daiIndexForPort
  pure ⟨widgets, daiIndices⟩

/-- What `generateAlsaConf` evaluates in the order of writing. -/
def confTokens (registry : UuidRegistry) (ir : ProjectIr) : Parsed (List PipelineTokens) :=
  ir.pipelines.mapM (pipelineTokens registry ir)

/-! ## Values and exceptions -/

/-- There is a value exactly under a condition, and an exception otherwise. -/
structure GivesIff {α : Type} (result : Parsed α) (condition : Prop) : Prop where
  value : condition → ∃ value, result = .ok value
  thrown : ¬ condition → ∃ what, result = .error (.thrown what)

section GivesIff

variable {α β : Type} {condition condition' : Prop}

theorem givesIff_pure (value : α) : GivesIff (pure value) True :=
  ⟨fun _ => ⟨value, rfl⟩, fun hnot => absurd trivial hnot⟩

theorem givesIff_raise (message : String) (subject : Bytes) :
    GivesIff (raise message subject : Parsed α) False :=
  ⟨False.elim, fun _ => ⟨_, rfl⟩⟩

theorem GivesIff.congr {result : Parsed α} (hgives : GivesIff result condition)
    (hiff : condition ↔ condition') : GivesIff result condition' :=
  ⟨fun hcondition => hgives.value (hiff.mpr hcondition),
    fun hnot => hgives.thrown fun hcondition => hnot (hiff.mp hcondition)⟩

theorem GivesIff.bind {first : Parsed β} {rest : β → Parsed α} {later : β → Prop}
    (hfirst : GivesIff first condition)
    (hrest : ∀ value, first = .ok value → GivesIff (rest value) (later value)) :
    GivesIff (first >>= rest) (condition ∧ ∀ value, first = .ok value → later value) := by
  constructor
  · rintro ⟨hcondition, hlater⟩
    obtain ⟨value, hvalue⟩ := hfirst.value hcondition
    rw [hvalue]
    exact (hrest value hvalue).value (hlater value hvalue)
  · intro hnot
    by_cases hcondition : condition
    · obtain ⟨value, hvalue⟩ := hfirst.value hcondition
      have hlater : ¬ later value := by
        intro hlater
        refine hnot ⟨hcondition, ?_⟩
        intro value' hvalue'
        rw [hvalue] at hvalue'
        cases hvalue'
        exact hlater
      rw [hvalue]
      exact (hrest value hvalue).thrown hlater
    · obtain ⟨what, hwhat⟩ := hfirst.thrown hcondition
      exact ⟨what, by rw [hwhat]; rfl⟩

/-- The rest does not look at the value. -/
theorem GivesIff.then {first : Parsed β} {rest : β → Parsed α}
    (hfirst : GivesIff first condition) (hrest : ∀ value, GivesIff (rest value) condition') :
    GivesIff (first >>= rest) (condition ∧ condition') := by
  apply (hfirst.bind fun value _ => hrest value).congr
  constructor
  · rintro ⟨hcondition, hlater⟩
    obtain ⟨value, hvalue⟩ := hfirst.value hcondition
    exact ⟨hcondition, hlater value hvalue⟩
  · rintro ⟨hcondition, hlater⟩
    exact ⟨hcondition, fun _ _ => hlater⟩

theorem GivesIff.mapM {step : β → Parsed α} {each : β → Prop} {items : List β}
    (hstep : ∀ item ∈ items, GivesIff (step item) (each item)) :
    GivesIff (items.mapM step) (∀ item ∈ items, each item) := by
  induction items with
  | nil => exact (givesIff_pure []).congr (by simp)
  | cons item items ih =>
      rw [List.mapM_cons]
      have hrest := ih fun other hmem => hstep other (List.mem_cons_of_mem _ hmem)
      have hitem := hstep item List.mem_cons_self
      apply (hitem.then fun _ => hrest.then fun _ => givesIff_pure _).congr
      simp

end GivesIff

/-! ## What has a UUID -/

structure IsUuid (uuid : Bytes) : Prop where
  length : (uuid.filter (· ≠ 0x2d)).length = 32
  digits : ∀ ch ∈ uuid.filter (· ≠ 0x2d), IsHexDigit ch

theorem hexNibble_gives (ch : UInt8) (context : Bytes) :
    GivesIff (hexNibble ch context) (IsHexDigit ch) := by
  unfold hexNibble
  split
  · next hdecimal =>
    exact (givesIff_pure _).congr (iff_of_true trivial (.inl (decide_eq_true hdecimal)))
  · next hdecimal =>
    split
    · next hlower => exact (givesIff_pure _).congr (iff_of_true trivial (.inr (.inl hlower)))
    · next hlower =>
      split
      · next hupper => exact (givesIff_pure _).congr (iff_of_true trivial (.inr (.inr hupper)))
      · next hupper =>
        apply (givesIff_raise _ _).congr (iff_of_false id ?_)
        rintro (hdigit | hdigit | hdigit)
        · exact hdecimal (of_decide_eq_true hdigit)
        · exact hlower hdigit
        · exact hupper hdigit

theorem nibblePairs_gives (context : Bytes) (pairs : Nat) {hex : Bytes}
    (hlength : hex.length = 2 * pairs) :
    GivesIff (nibblePairs context hex) (∀ ch ∈ hex, IsHexDigit ch) := by
  induction pairs generalizing hex with
  | zero =>
      rw [List.length_eq_zero_iff.mp hlength]
      exact (givesIff_pure []).congr (by simp)
  | succ pairs ih =>
      match hex, hlength with
      | first :: second :: rest, hlength =>
          have hrest : rest.length = 2 * pairs := by
            simp only [List.length_cons] at hlength
            omega
          unfold nibblePairs
          apply ((hexNibble_gives first context).then fun _ =>
            (hexNibble_gives second context).then fun _ =>
              (ih hrest).then fun _ => givesIff_pure _).congr
          simp

theorem uuidBytes_gives (uuid : Bytes) : GivesIff (uuidBytes uuid) (IsUuid uuid) := by
  unfold uuidBytes
  dsimp only
  split
  · next hlength =>
    exact (givesIff_raise _ _).congr (iff_of_false id fun huuid => hlength huuid.length)
  · next hlength =>
    have hlength := not_not.mp hlength
    apply (nibblePairs_gives uuid 16 hlength).congr
    exact ⟨fun hdigits => ⟨hlength, hdigits⟩, IsUuid.digits⟩

theorem sofUuidTokenBytes_gives (uuid : Bytes) :
    GivesIff (sofUuidTokenBytes uuid) (IsUuid uuid) :=
  ((uuidBytes_gives uuid).then fun _ => givesIff_pure _).congr (by rw [and_true])

/-- The UUID that the registry has for a name. -/
def registryUuid (registry : UuidRegistry) (registryName : Bytes) : Option Bytes :=
  match registry with
  | some (.ok entries) => entries.lookup registryName
  | some (.error _) => none
  | none => builtinSofUuidRegistry.lookup registryName

/-- The name that a node goes by in the registry. -/
def registryName (pipeline : PipelineInfo) (node : NodeInfo) : Option Bytes :=
  if node.kind = asciiBytes "port" ∨ isHostPortWidget pipeline node ∨
      isDaiPortWidget pipeline node then
    some (if isDaiPortWidget pipeline node then asciiBytes "dai" else asciiBytes "host")
  else sofRegistryNames.lookup node.moduleType

/-- A value that there is or is not. -/
structure Gives {α : Type} (result : Parsed α) (value : Option α) : Prop where
  ofSome : ∀ present, value = some present → result = .ok present
  ofNone : value = none → ∃ what, result = .error (.thrown what)

theorem sofUuidFromRegistry_gives (registry : UuidRegistry) (name : Bytes) :
    Gives (sofUuidFromRegistry registry name) (registryUuid registry name) := by
  unfold sofUuidFromRegistry registryUuid
  match registry with
  | some (.ok entries) =>
      dsimp only
      cases entries.lookup name with
      | some uuid => exact ⟨by rintro _ ⟨⟩; rfl, by rintro ⟨⟩⟩
      | none => exact ⟨by rintro _ ⟨⟩, fun _ => ⟨_, rfl⟩⟩
  | some (.error what) => exact ⟨by rintro _ ⟨⟩, fun _ => ⟨what, rfl⟩⟩
  | none =>
      dsimp only
      cases builtinSofUuidRegistry.lookup name with
      | some uuid => exact ⟨by rintro _ ⟨⟩; rfl, by rintro ⟨⟩⟩
      | none => exact ⟨by rintro _ ⟨⟩, fun _ => ⟨_, rfl⟩⟩

theorem sofRegistryNameForNode_gives (pipeline : PipelineInfo) (node : NodeInfo) :
    Gives (sofRegistryNameForNode pipeline node) (registryName pipeline node) := by
  unfold sofRegistryNameForNode registryName
  split
  · exact ⟨by rintro _ ⟨⟩; rfl, by rintro ⟨⟩⟩
  · cases sofRegistryNames.lookup node.moduleType with
    | some name => exact ⟨by rintro _ ⟨⟩; rfl, by rintro ⟨⟩⟩
    | none => exact ⟨by rintro _ ⟨⟩, fun _ => ⟨_, rfl⟩⟩

theorem Gives.bind {α β : Type} {first : Parsed β} {found : Option β} {rest : β → Parsed α}
    {value : β → Option α} (hfirst : Gives first found)
    (hrest : ∀ present, Gives (rest present) (value present)) :
    Gives (first >>= rest) (found.bind value) := by
  cases found with
  | none =>
      obtain ⟨what, hwhat⟩ := hfirst.ofNone rfl
      rw [hwhat]
      exact ⟨by rintro _ ⟨⟩, fun _ => ⟨what, rfl⟩⟩
  | some present =>
      rw [hfirst.ofSome present rfl]
      exact hrest present

theorem moduleTypeForNode_gives (ir : ProjectIr) (node : NodeInfo) :
    Gives (moduleTypeForNode ir node) (findModuleType ir.moduleTypes node.moduleType) := by
  unfold moduleTypeForNode
  cases findModuleType ir.moduleTypes node.moduleType with
  | some type => exact ⟨by rintro _ ⟨⟩; rfl, by rintro ⟨⟩⟩
  | none => exact ⟨by rintro _ ⟨⟩, fun _ => ⟨_, rfl⟩⟩

/-- The UUID of a module type comes first; an adapter needs one of its own. -/
def typeUuid (fallback : Option Bytes) (type : ModuleTypeInfo) : Option Bytes :=
  if type.moduleUuid ≠ [] then some type.moduleUuid
  else if type.moduleClass = asciiBytes "MODULE_ADAPTER" then none
  else fallback

/-- The UUID of a node, if it has one. -/
def nodeUuid (registry : UuidRegistry) (ir : ProjectIr) (pipeline : PipelineInfo)
    (node : NodeInfo) : Option Bytes :=
  let registered := (registryName pipeline node).bind (registryUuid registry)
  if node.moduleType = [] then registered
  else (findModuleType ir.moduleTypes node.moduleType).bind (typeUuid registered)

theorem sofUuidForNode_gives (registry : UuidRegistry) (ir : ProjectIr)
    (pipeline : PipelineInfo) (node : NodeInfo) :
    Gives (sofUuidForNode registry ir pipeline node) (nodeUuid registry ir pipeline node) := by
  have hregistered : Gives
      (sofRegistryNameForNode pipeline node >>= sofUuidFromRegistry registry)
      ((registryName pipeline node).bind (registryUuid registry)) :=
    (sofRegistryNameForNode_gives pipeline node).bind (sofUuidFromRegistry_gives registry)
  have htype : ∀ type : ModuleTypeInfo, Gives
      (if type.moduleUuid ≠ [] then pure type.moduleUuid
        else if type.moduleClass = asciiBytes "MODULE_ADAPTER" then
          raise "MODULE_ADAPTER module type must declare module_uuid: " type.typeId
        else sofRegistryNameForNode pipeline node >>= sofUuidFromRegistry registry)
      (typeUuid ((registryName pipeline node).bind (registryUuid registry)) type) := by
    intro type
    unfold typeUuid
    split
    · exact ⟨by rintro _ ⟨⟩; rfl, by rintro ⟨⟩⟩
    · split
      · exact ⟨by rintro _ ⟨⟩, fun _ => ⟨_, rfl⟩⟩
      · exact hregistered
  unfold sofUuidForNode moduleTypeForWidget nodeUuid
  dsimp only
  split
  · exact hregistered
  · have hnode := moduleTypeForNode_gives ir node
    cases hfound : findModuleType ir.moduleTypes node.moduleType with
    | none =>
        obtain ⟨what, hwhat⟩ := hnode.ofNone hfound
        rw [hwhat]
        exact ⟨by rintro _ ⟨⟩, fun _ => ⟨what, rfl⟩⟩
    | some type =>
        rw [hnode.ofSome type hfound]
        exact htype type

theorem Gives.givesIff {α : Type} {result : Parsed α} {found : Option α}
    (hgives : Gives result found) : GivesIff result (∃ value, found = some value) := by
  constructor
  · rintro ⟨value, hvalue⟩
    exact ⟨value, hgives.ofSome value hvalue⟩
  · intro hnot
    apply hgives.ofNone
    cases found with
    | none => rfl
    | some value => exact absurd ⟨value, rfl⟩ hnot

/-! ## What can be emitted -/

/-- The digits of the hardware id are no number that is too large, if they are asked for. -/
def IndexFits (port : PortInfo) : Prop :=
  port.daiIndex = none → decimalValue (port.hwId.filter isDigit) < 2 ^ 64

theorem daiIndexForPort_gives (port : PortInfo) :
    GivesIff (daiIndexForPort port) (IndexFits port) := by
  unfold daiIndexForPort IndexFits
  cases port.daiIndex with
  | some index => exact (givesIff_pure _).congr (by simp)
  | none =>
      dsimp only
      split
      · next hdigits =>
        rw [hdigits]
        exact (givesIff_pure _).congr (iff_of_true trivial fun _ => by decide)
      · have hvalue : GivesIff (stoul (port.hwId.filter isDigit))
            (decimalValue (port.hwId.filter isDigit) < 2 ^ 64) := by
          unfold stoul
          split
          · next hfits => exact (givesIff_pure _).congr (iff_of_true trivial hfits)
          · next hfits => exact (givesIff_raise _ _).congr (iff_of_false id hfits)
        apply (hvalue.then fun _ => givesIff_pure _).congr
        simp

/-- A node that the conf can be written for: it has a UUID of sixteen bytes, and a DAI an index. -/
structure Emittable (registry : UuidRegistry) (ir : ProjectIr) (pipeline : PipelineInfo)
    (node : NodeInfo) : Prop where
  uuid : ∃ uuid, nodeUuid registry ir pipeline node = some uuid ∧ IsUuid uuid
  index : isDaiPortWidget pipeline node = true → ∀ port, findPort pipeline node = some port →
    IndexFits port

theorem widgetTokens_gives (registry : UuidRegistry) (ir : ProjectIr) (pipeline : PipelineInfo)
    (node : NodeInfo) :
    GivesIff (widgetTokens registry ir pipeline node) (Emittable registry ir pipeline node) := by
  have huuid := sofUuidForNode_gives registry ir pipeline node
  have hindex : ∀ bytes : Bytes, GivesIff
      (match isDaiPortWidget pipeline node, findPort pipeline node with
        | true, some port => do
            let daiIndex ← daiIndexForPort port
            pure ⟨bytes, daiIndex⟩
        | _, _ => pure ⟨bytes, none⟩ : Parsed WidgetTokens)
      (isDaiPortWidget pipeline node = true → ∀ port, findPort pipeline node = some port →
        IndexFits port) := by
    intro bytes
    split
    · next port hdai hport =>
      apply ((daiIndexForPort_gives port).then fun _ => givesIff_pure _).congr
      simp [hdai, hport]
    · next hneither =>
      apply (givesIff_pure _).congr (iff_of_true trivial ?_)
      intro hdai port hport
      exact absurd hport (hneither port hdai)
  unfold widgetTokens
  apply (huuid.givesIff.bind fun uuid _ =>
    (sofUuidTokenBytes_gives uuid).then hindex).congr
  constructor
  · rintro ⟨⟨uuid, hfound⟩, hrest⟩
    obtain ⟨hbytes, hdai⟩ := hrest uuid (huuid.ofSome uuid hfound)
    exact ⟨⟨uuid, hfound, hbytes⟩, hdai⟩
  · rintro ⟨⟨uuid, hfound, hbytes⟩, hdai⟩
    refine ⟨⟨uuid, hfound⟩, ?_⟩
    intro uuid' huuid'
    rw [huuid.ofSome uuid hfound] at huuid'
    cases huuid'
    exact ⟨hbytes, hdai⟩

theorem pipelineTokens_gives (registry : UuidRegistry) (ir : ProjectIr)
    (pipeline : PipelineInfo) :
    GivesIff (pipelineTokens registry ir pipeline)
      (∀ node ∈ pipeline.nodes, Emittable registry ir pipeline node) := by
  have hwidgets := GivesIff.mapM fun node (_ : node ∈ pipeline.nodes) =>
    widgetTokens_gives registry ir pipeline node
  have hdais := GivesIff.mapM fun port (_ : port ∈ daiPorts pipeline) =>
    daiIndexForPort_gives port
  unfold pipelineTokens
  apply (hwidgets.then fun _ => hdais.then fun _ => givesIff_pure _).congr
  constructor
  · rintro ⟨hnodes, _⟩
    exact hnodes
  · intro hnodes
    refine ⟨hnodes, ?_, trivial⟩
    intro port hport
    -- a DAI object stands for a node whose index has been asked for before
    obtain ⟨node, hnode, hfound⟩ := List.mem_filterMap.mp hport
    obtain ⟨hmem, hdai⟩ := List.mem_filter.mp hnode
    exact (hnodes node hmem).index hdai port hfound

/-- The conf can be written for a project exactly if it can for each of its nodes. -/
theorem confTokens_gives (registry : UuidRegistry) (ir : ProjectIr) :
    GivesIff (confTokens registry ir)
      (∀ pipeline ∈ ir.pipelines, ∀ node ∈ pipeline.nodes,
        Emittable registry ir pipeline node) :=
  GivesIff.mapM fun pipeline _ => pipelineTokens_gives registry ir pipeline

end AudioStudio.Config
