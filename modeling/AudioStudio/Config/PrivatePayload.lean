import AudioStudio.Config.Project
import AudioStudio.Rpc.JsonWritten
import AudioStudio.Wire.Checksum

/-!
# The private payload

`buildPrivatePayload` of `config_service.cpp`: a header of 24 bytes, and the project as a JSON
text that is put together by hand.  What a reader of that text finds in it is the project.
-/

namespace AudioStudio.Config

open AudioStudio.LittleEndian
open AudioStudio.Rpc
open AudioStudio.Wire

/-! ## The project as far as it is written -/

/-- A port; `daiIndex` is zero if there is none. -/
structure PortRecord where
  portId : Bytes
  role : Bytes
  resourceRef : Bytes
  pcmId : Bytes
  daiId : Bytes
  aifRole : Bytes
  transport : Bytes
  hwId : Bytes
  hwDir : Bytes
  daiIndex : UInt32
  maxCh : UInt32
  tdmSlots : UInt32
  slotWidth : UInt32
  sampleBits : UInt32
  fsyncHz : UInt32
  deriving DecidableEq, Repr

structure FullPort extends PortRecord where
  hasDaiIndex : Bool
  deriving DecidableEq, Repr

def FullPort.record (port : FullPort) : PortRecord :=
  { port.toPortRecord with daiIndex := if port.hasDaiIndex then port.daiIndex else 0 }

structure PipelineRecord (Port : Type) where
  pipeId : Bytes
  name : Bytes
  domain : Bytes
  direction : Bytes
  sampleRate : UInt32
  channelsMax : UInt32
  ports : List Port
  deriving DecidableEq, Repr

def PipelineRecord.record (pipeline : PipelineRecord FullPort) : PipelineRecord PortRecord :=
  { pipeline with ports := pipeline.ports.map FullPort.record }

structure ControlRecord where
  controlUid : UInt32
  typeUid : UInt32
  paramUid : UInt32
  pipeId : Bytes
  nodeId : Bytes
  instId : Bytes
  moduleType : Bytes
  paramId : Bytes
  valueType : Bytes
  configFormat : Bytes
  defaultPayload : Bytes
  deriving DecidableEq, Repr

def ControlInfo.record (control : ControlInfo) : ControlRecord :=
  { control with }

structure EntryRecord where
  pipelineId : Bytes
  nodeId : Bytes
  instId : Bytes
  moduleType : Bytes
  configFormat : Bytes
  payload : Bytes
  deriving DecidableEq, Repr

def PresetEntryInfo.record (entry : PresetEntryInfo) : EntryRecord :=
  { entry with }

structure PresetRecord where
  presetUid : UInt32
  presetId : Bytes
  loadMode : Bytes
  validateAllBeforeApply : Bool
  rollbackOnError : Bool
  applyOrder : Bytes
  entries : List EntryRecord
  deriving DecidableEq, Repr

def PresetInfo.record (preset : PresetInfo) : PresetRecord :=
  { preset with entries := preset.entries.map PresetEntryInfo.record }

structure PrivateIr where
  projectName : Bytes
  pipelines : List (PipelineRecord FullPort)
  controls : List ControlInfo
  installParams : List InstallParamInfo
  presets : List PresetInfo
  deriving DecidableEq, Repr

structure ProjectRecord where
  project : Bytes
  pipelines : List (PipelineRecord PortRecord)
  controls : List ControlRecord
  installParams : List InstallParamInfo
  presets : List PresetRecord
  deriving DecidableEq, Repr

def PrivateIr.record (ir : PrivateIr) : ProjectRecord where
  project := ir.projectName
  pipelines := ir.pipelines.map PipelineRecord.record
  controls := ir.controls.map ControlInfo.record
  installParams := ir.installParams
  presets := ir.presets.map PresetInfo.record

/-! ## The text -/

def compactHex (bytes : Bytes) : Bytes :=
  bytes.flatMap fun (byte : UInt8) => [hexCharacter (byte >>> 4), hexCharacter (byte &&& 0x0f)]

def numberText (value : UInt32) : Bytes :=
  decimalText value.toNat

def flagText (value : Bool) : Bytes :=
  if value then asciiBytes "true" else asciiBytes "false"

def portText (port : FullPort) : Bytes :=
  recordText [("port_id", dumpString port.portId), ("role", dumpString port.role),
    ("resource_ref", dumpString port.resourceRef), ("pcm_id", dumpString port.pcmId),
    ("dai_id", dumpString port.daiId), ("aif_role", dumpString port.aifRole),
    ("transport", dumpString port.transport), ("hw_id", dumpString port.hwId),
    ("hw_dir", dumpString port.hwDir),
    ("dai_index", numberText (if port.hasDaiIndex then port.daiIndex else 0)),
    ("max_ch", numberText port.maxCh), ("tdm_slots", numberText port.tdmSlots),
    ("slot_width", numberText port.slotWidth), ("sample_bits", numberText port.sampleBits),
    ("fsync_hz", numberText port.fsyncHz)]

def pipelineText (p : PipelineRecord FullPort) : Bytes :=
  recordText [("pipe_id", dumpString p.pipeId), ("name", dumpString p.name),
    ("domain", dumpString p.domain), ("direction", dumpString p.direction),
    ("sample_rate", numberText p.sampleRate), ("channels_max", numberText p.channelsMax),
    ("ports", listText (p.ports.map portText))]

def controlText (c : ControlInfo) : Bytes :=
  recordText [("control_uid", numberText c.controlUid), ("type_uid", numberText c.typeUid),
    ("param_uid", numberText c.paramUid), ("pipe_id", dumpString c.pipeId),
    ("node_id", dumpString c.nodeId), ("inst_id", dumpString c.instId),
    ("module_type", dumpString c.moduleType), ("param_id", dumpString c.paramId),
    ("value_type", dumpString c.valueType), ("config_format", dumpString c.configFormat),
    ("default_payload_hex", dumpString (compactHex c.defaultPayload))]

def installParamText (p : InstallParamInfo) : Bytes :=
  recordText [("param_uid", numberText p.paramUid), ("pipe_id", dumpString p.pipeId),
    ("node_id", dumpString p.nodeId), ("inst_id", dumpString p.instId),
    ("module_type", dumpString p.moduleType), ("param_id", dumpString p.paramId),
    ("config_format", dumpString p.configFormat),
    ("payload_hex", dumpString (compactHex p.payload))]

def presetEntryText (e : PresetEntryInfo) : Bytes :=
  recordText [("pipeline_id", dumpString e.pipelineId), ("node_id", dumpString e.nodeId),
    ("inst_id", dumpString e.instId), ("module_type", dumpString e.moduleType),
    ("config_format", dumpString e.configFormat),
    ("payload_hex", dumpString (compactHex e.payload))]

def presetText (p : PresetInfo) : Bytes :=
  recordText [("preset_uid", numberText p.presetUid), ("preset_id", dumpString p.presetId),
    ("load_mode", dumpString p.loadMode),
    ("validate_all_before_apply", flagText p.validateAllBeforeApply),
    ("rollback_on_error", flagText p.rollbackOnError),
    ("apply_order", dumpString p.applyOrder),
    ("entries", listText (p.entries.map presetEntryText))]

def privateJson (ir : PrivateIr) : Bytes :=
  recordText [("format", dumpString (asciiBytes "audio-studio-private-v1")),
    ("project", dumpString ir.projectName),
    ("pipelines", listText (ir.pipelines.map pipelineText)),
    ("controls", listText (ir.controls.map controlText)),
    ("install_params", listText (ir.installParams.map installParamText)),
    ("presets", listText (ir.presets.map presetText))]

/-! ## The header -/

def kAsPrivateMagic : UInt32 := 0x46435341
def kAsPrivateVersionMajor : UInt16 := 1
def kAsPrivateVersionMinor : UInt16 := 0

/-- `crc32` of `config_service.cpp`, with the loop that the other CRCs have. -/
def payloadCrc (data : Bytes) : UInt32 :=
  ~~~ data.foldl crc32Byte 0xffffffff

/-- The size of the text is cut to 32 bits. -/
def buildPrivatePayload (ir : PrivateIr) : Bytes :=
  let payloadJson := privateJson ir
  le32 kAsPrivateMagic ++ le16 kAsPrivateVersionMajor ++ le16 kAsPrivateVersionMinor ++
    le32 24 ++ le32 payloadJson.length.toUInt32 ++ le32 (payloadCrc payloadJson) ++ le32 0 ++
    payloadJson

/-! ## The reader -/

/-- The bytes that pairs of hexadecimal digits stand for. -/
def hexBytes : Bytes → Option Bytes
  | [] => some []
  | high :: low :: rest => do
      let high ← Rpc.hexValue high
      let low ← Rpc.hexValue low
      let bytes ← hexBytes rest
      pure ((16 * high + low).toUInt8 :: bytes)
  | _ => none

def textMember (value : JsonValue) (name : String) : Option Bytes :=
  match value.member (asciiBytes name) with
  | some (.string text) => some text
  | _ => none

def bytesMember (value : JsonValue) (name : String) : Option Bytes :=
  (textMember value name).bind hexBytes

def numberMember (value : JsonValue) (name : String) : Option UInt32 :=
  match value.member (asciiBytes name) with
  | some (.number scalar) => some (decimalValue scalar).toUInt32
  | _ => none

def flagMember (value : JsonValue) (name : String) : Option Bool :=
  match value.member (asciiBytes name) with
  | some (.bool flag) => some flag
  | _ => none

def listMember {α : Type} (read : JsonValue → Option α) (value : JsonValue) (name : String) :
    Option (List α) :=
  match value.member (asciiBytes name) with
  | some (.array items) => items.mapM read
  | _ => none

def readPort (value : JsonValue) : Option PortRecord := do
  let portId ← textMember value "port_id"
  let role ← textMember value "role"
  let resourceRef ← textMember value "resource_ref"
  let pcmId ← textMember value "pcm_id"
  let daiId ← textMember value "dai_id"
  let aifRole ← textMember value "aif_role"
  let transport ← textMember value "transport"
  let hwId ← textMember value "hw_id"
  let hwDir ← textMember value "hw_dir"
  let daiIndex ← numberMember value "dai_index"
  let maxCh ← numberMember value "max_ch"
  let tdmSlots ← numberMember value "tdm_slots"
  let slotWidth ← numberMember value "slot_width"
  let sampleBits ← numberMember value "sample_bits"
  let fsyncHz ← numberMember value "fsync_hz"
  pure { portId, role, resourceRef, pcmId, daiId, aifRole, transport, hwId, hwDir, daiIndex, maxCh,
         tdmSlots, slotWidth, sampleBits, fsyncHz }

def readPipeline (value : JsonValue) : Option (PipelineRecord PortRecord) := do
  let pipeId ← textMember value "pipe_id"
  let name ← textMember value "name"
  let domain ← textMember value "domain"
  let direction ← textMember value "direction"
  let sampleRate ← numberMember value "sample_rate"
  let channelsMax ← numberMember value "channels_max"
  let ports ← listMember readPort value "ports"
  pure { pipeId, name, domain, direction, sampleRate, channelsMax, ports }

def readControl (value : JsonValue) : Option ControlRecord := do
  let controlUid ← numberMember value "control_uid"
  let typeUid ← numberMember value "type_uid"
  let paramUid ← numberMember value "param_uid"
  let pipeId ← textMember value "pipe_id"
  let nodeId ← textMember value "node_id"
  let instId ← textMember value "inst_id"
  let moduleType ← textMember value "module_type"
  let paramId ← textMember value "param_id"
  let valueType ← textMember value "value_type"
  let configFormat ← textMember value "config_format"
  let defaultPayload ← bytesMember value "default_payload_hex"
  pure { controlUid, typeUid, paramUid, pipeId, nodeId, instId, moduleType, paramId, valueType,
         configFormat, defaultPayload }

def readInstallParam (value : JsonValue) : Option InstallParamInfo := do
  let paramUid ← numberMember value "param_uid"
  let pipeId ← textMember value "pipe_id"
  let nodeId ← textMember value "node_id"
  let instId ← textMember value "inst_id"
  let moduleType ← textMember value "module_type"
  let paramId ← textMember value "param_id"
  let configFormat ← textMember value "config_format"
  let payload ← bytesMember value "payload_hex"
  pure { paramUid, pipeId, nodeId, instId, moduleType, paramId, configFormat, payload }

def readPresetEntry (value : JsonValue) : Option EntryRecord := do
  let pipelineId ← textMember value "pipeline_id"
  let nodeId ← textMember value "node_id"
  let instId ← textMember value "inst_id"
  let moduleType ← textMember value "module_type"
  let configFormat ← textMember value "config_format"
  let payload ← bytesMember value "payload_hex"
  pure { pipelineId, nodeId, instId, moduleType, configFormat, payload }

def readPreset (value : JsonValue) : Option PresetRecord := do
  let presetUid ← numberMember value "preset_uid"
  let presetId ← textMember value "preset_id"
  let loadMode ← textMember value "load_mode"
  let validateAllBeforeApply ← flagMember value "validate_all_before_apply"
  let rollbackOnError ← flagMember value "rollback_on_error"
  let applyOrder ← textMember value "apply_order"
  let entries ← listMember readPresetEntry value "entries"
  pure { presetUid, presetId, loadMode, validateAllBeforeApply, rollbackOnError, applyOrder,
         entries }

def readProject (value : JsonValue) : Option ProjectRecord := do
  let project ← textMember value "project"
  let pipelines ← listMember readPipeline value "pipelines"
  let controls ← listMember readControl value "controls"
  let installParams ← listMember readInstallParam value "install_params"
  let presets ← listMember readPreset value "presets"
  pure { project, pipelines, controls, installParams, presets }

/-- The header is that of the text behind it, and the text has the project in it. -/
structure DecodesTo (payload : Bytes) (record : ProjectRecord) : Prop where
  headerSize : 24 ≤ payload.length ∧ word32 payload 8 = 24
  payloadSize : (word32 payload 12).toNat = (payload.drop 24).length
  crc : word32 payload 16 = acCrc32 (payload.drop 24)
  project : ∃ root, parseJson (payload.drop 24) = .ok root ∧ readProject root = some record

/-! ## The document of the text -/

def numberJson (value : UInt32) : JsonValue :=
  .number (numberText value)

def bytesJson (bytes : Bytes) : JsonValue :=
  .string (compactHex bytes)

def listJson {α : Type} (toJson : α → JsonValue) (items : List α) : JsonValue :=
  .array (items.map toJson)

def PortRecord.members (port : PortRecord) : List (String × JsonValue) :=
  [("port_id", .string port.portId), ("role", .string port.role),
    ("resource_ref", .string port.resourceRef), ("pcm_id", .string port.pcmId),
    ("dai_id", .string port.daiId), ("aif_role", .string port.aifRole),
    ("transport", .string port.transport), ("hw_id", .string port.hwId),
    ("hw_dir", .string port.hwDir), ("dai_index", numberJson port.daiIndex),
    ("max_ch", numberJson port.maxCh), ("tdm_slots", numberJson port.tdmSlots),
    ("slot_width", numberJson port.slotWidth), ("sample_bits", numberJson port.sampleBits),
    ("fsync_hz", numberJson port.fsyncHz)]

def PipelineRecord.members (p : PipelineRecord PortRecord) : List (String × JsonValue) :=
  [("pipe_id", .string p.pipeId), ("name", .string p.name), ("domain", .string p.domain),
    ("direction", .string p.direction), ("sample_rate", numberJson p.sampleRate),
    ("channels_max", numberJson p.channelsMax),
    ("ports", listJson (fun port => recordValue port.members) p.ports)]

def ControlRecord.members (c : ControlRecord) : List (String × JsonValue) :=
  [("control_uid", numberJson c.controlUid), ("type_uid", numberJson c.typeUid),
    ("param_uid", numberJson c.paramUid), ("pipe_id", .string c.pipeId),
    ("node_id", .string c.nodeId), ("inst_id", .string c.instId),
    ("module_type", .string c.moduleType), ("param_id", .string c.paramId),
    ("value_type", .string c.valueType), ("config_format", .string c.configFormat),
    ("default_payload_hex", bytesJson c.defaultPayload)]

def InstallParamInfo.members (p : InstallParamInfo) : List (String × JsonValue) :=
  [("param_uid", numberJson p.paramUid), ("pipe_id", .string p.pipeId),
    ("node_id", .string p.nodeId), ("inst_id", .string p.instId),
    ("module_type", .string p.moduleType), ("param_id", .string p.paramId),
    ("config_format", .string p.configFormat), ("payload_hex", bytesJson p.payload)]

def EntryRecord.members (e : EntryRecord) : List (String × JsonValue) :=
  [("pipeline_id", .string e.pipelineId), ("node_id", .string e.nodeId),
    ("inst_id", .string e.instId), ("module_type", .string e.moduleType),
    ("config_format", .string e.configFormat), ("payload_hex", bytesJson e.payload)]

def PresetRecord.members (p : PresetRecord) : List (String × JsonValue) :=
  [("preset_uid", numberJson p.presetUid), ("preset_id", .string p.presetId),
    ("load_mode", .string p.loadMode),
    ("validate_all_before_apply", .bool p.validateAllBeforeApply),
    ("rollback_on_error", .bool p.rollbackOnError), ("apply_order", .string p.applyOrder),
    ("entries", listJson (fun entry => recordValue entry.members) p.entries)]

def ProjectRecord.members (p : ProjectRecord) : List (String × JsonValue) :=
  [("format", .string (asciiBytes "audio-studio-private-v1")), ("project", .string p.project),
    ("pipelines", listJson (fun pipeline => recordValue pipeline.members) p.pipelines),
    ("controls", listJson (fun control => recordValue control.members) p.controls),
    ("install_params", listJson (fun param => recordValue param.members) p.installParams),
    ("presets", listJson (fun preset => recordValue preset.members) p.presets)]

theorem recordText_eq {members : List (String × JsonValue)} {texts : List (String × Bytes)}
    (htexts : texts = members.map fun member => (member.1, member.2.dump))
    (hnames : ∀ name ∈ members.map Prod.fst, Plain name) :
    recordText texts = (recordValue members).dump := by
  rw [htexts, recordText_dump hnames]

variable {α : Type}

theorem listText_eq {β : Type} {toText : α → Bytes} (toRecord : α → β)
    (members : β → List (String × JsonValue))
    (heach : ∀ item, toText item = (recordValue (members (toRecord item))).dump) (items : List α) :
    listText (items.map toText) =
      (listJson (fun record => recordValue (members record)) (items.map toRecord)).dump := by
  rw [listJson, ← listText_dump, List.map_map, List.map_map]
  congr 1
  exact List.map_congr_left fun item _ => heach item

theorem flag_dump (value : Bool) : (JsonValue.bool value).dump = flagText value := by
  cases value with
  | false => rfl
  | true => rfl

theorem portText_eq (port : FullPort) :
    portText port = (recordValue port.record.members).dump := by
  apply recordText_eq
  · rfl
  · simp only [PortRecord.members, List.map_cons, List.map_nil]
    decide

theorem pipelineText_eq (pipeline : PipelineRecord FullPort) :
    pipelineText pipeline = (recordValue pipeline.record.members).dump := by
  apply recordText_eq
  · rw [listText_eq FullPort.record PortRecord.members portText_eq]
    rfl
  · simp only [PipelineRecord.members, List.map_cons, List.map_nil]
    decide

theorem controlText_eq (control : ControlInfo) :
    controlText control = (recordValue control.record.members).dump := by
  apply recordText_eq
  · rfl
  · simp only [ControlRecord.members, List.map_cons, List.map_nil]
    decide

theorem installParamText_eq (param : InstallParamInfo) :
    installParamText param = (recordValue param.members).dump := by
  apply recordText_eq
  · rfl
  · simp only [InstallParamInfo.members, List.map_cons, List.map_nil]
    decide

theorem presetEntryText_eq (entry : PresetEntryInfo) :
    presetEntryText entry = (recordValue entry.record.members).dump := by
  apply recordText_eq
  · rfl
  · simp only [EntryRecord.members, List.map_cons, List.map_nil]
    decide

theorem presetText_eq (preset : PresetInfo) :
    presetText preset = (recordValue preset.record.members).dump := by
  apply recordText_eq
  · rw [listText_eq PresetEntryInfo.record EntryRecord.members presetEntryText_eq, ← flag_dump,
      ← flag_dump]
    rfl
  · simp only [PresetRecord.members, List.map_cons, List.map_nil]
    decide

theorem privateJson_eq (ir : PrivateIr) :
    privateJson ir = (recordValue ir.record.members).dump := by
  have hinstalls := listText_eq id InstallParamInfo.members installParamText_eq ir.installParams
  rw [List.map_id] at hinstalls
  apply recordText_eq
  · rw [listText_eq PipelineRecord.record PipelineRecord.members pipelineText_eq,
      listText_eq ControlInfo.record ControlRecord.members controlText_eq, hinstalls,
      listText_eq PresetInfo.record PresetRecord.members presetText_eq]
    rfl
  · simp only [ProjectRecord.members, List.map_cons, List.map_nil]
    decide

/-! ## Reading it back -/

theorem numberText_value (value : UInt32) : (decimalValue (numberText value)).toUInt32 = value := by
  rw [numberText, decimalValue_decimalText]
  exact UInt32.ofNat_toNat

theorem hexValue_hexCharacter : ∀ digit < (16 : Nat),
    Rpc.hexValue (hexCharacter digit.toUInt8) = some digit.toUInt32 := by
  decide

theorem byte_nibbles (byte : UInt8) :
    byte >>> 4 = (byte.toNat / 16).toUInt8 ∧ byte &&& 0x0f = (byte.toNat % 16).toUInt8 := by
  have hbyte := byte.toNat_lt
  constructor
  · apply UInt8.toNat_inj.mp
    rw [UInt8.toNat_shiftRight, show (4 : UInt8).toNat % 8 = 4 from rfl,
      Nat.shiftRight_eq_div_pow, Nat.toUInt8, UInt8.toNat_ofNat']
    omega
  · apply UInt8.toNat_inj.mp
    rw [UInt8.toNat_and, show (0x0f : UInt8).toNat = 2 ^ 4 - 1 from rfl,
      Nat.and_two_pow_sub_one_eq_mod, Nat.toUInt8, UInt8.toNat_ofNat']
    omega

theorem hexBytes_pair (byte : UInt8) (rest : Bytes) :
    hexBytes (hexCharacter (byte >>> 4) :: hexCharacter (byte &&& 0x0f) :: rest) =
      (hexBytes rest).map (byte :: ·) := by
  have hbyte := byte.toNat_lt
  have hvalue : (16 * (byte.toNat / 16).toUInt32 + (byte.toNat % 16).toUInt32).toUInt8 = byte := by
    apply UInt8.toNat_inj.mp
    simp
    omega
  obtain ⟨hhigh, hlow⟩ := byte_nibbles byte
  rw [hexBytes, hhigh, hlow, hexValue_hexCharacter _ (by omega), hexValue_hexCharacter _ (by omega)]
  simp only [Option.bind_eq_bind, Option.bind_some, hvalue]
  cases hexBytes rest with
  | none => rfl
  | some bytes => rfl

theorem hexBytes_compactHex (bytes : Bytes) : hexBytes (compactHex bytes) = some bytes := by
  induction bytes with
  | nil => rfl
  | cons byte bytes ih =>
      rw [compactHex, List.flatMap_cons, List.cons_append, List.cons_append, List.nil_append,
        ← compactHex, hexBytes_pair, ih, Option.map_some]

variable {toJson : α → JsonValue}

theorem mapM_asRead {read : JsonValue → Option α}
    (hread : ∀ item, read (toJson item).asRead = some item) (items : List α) :
    (itemsAsRead (items.map toJson)).mapM read = some items := by
  induction items with
  | nil => rfl
  | cons item items ih =>
      rw [List.map_cons, itemsAsRead, List.mapM_cons, hread, ih]
      rfl

section Members

variable {members : List (String × JsonValue)} {name : String}

theorem textMember_at (hdistinct : Distinct (members.map Prod.fst)) {text : Bytes} (position : Nat)
    (hat : members[position]? = some (name, .string text)) :
    textMember (recordValue members).asRead name = some text := by
  rw [textMember, member_at hdistinct position hat]
  rfl

theorem bytesMember_at (hdistinct : Distinct (members.map Prod.fst)) {bytes : Bytes}
    (position : Nat) (hat : members[position]? = some (name, bytesJson bytes)) :
    bytesMember (recordValue members).asRead name = some bytes := by
  rw [bytesMember, textMember_at hdistinct position hat, Option.bind_some, hexBytes_compactHex]

theorem numberMember_at (hdistinct : Distinct (members.map Prod.fst)) {value : UInt32}
    (position : Nat) (hat : members[position]? = some (name, numberJson value)) :
    numberMember (recordValue members).asRead name = some value := by
  rw [numberMember, member_at hdistinct position hat]
  exact congrArg some (numberText_value value)

theorem flagMember_at (hdistinct : Distinct (members.map Prod.fst)) {flag : Bool}
    (position : Nat) (hat : members[position]? = some (name, .bool flag)) :
    flagMember (recordValue members).asRead name = some flag := by
  rw [flagMember, member_at hdistinct position hat]
  rfl

theorem listMember_at (hdistinct : Distinct (members.map Prod.fst)) {read : JsonValue → Option α}
    (hread : ∀ item, read (toJson item).asRead = some item) {items : List α} (position : Nat)
    (hat : members[position]? = some (name, listJson toJson items)) :
    listMember read (recordValue members).asRead name = some items := by
  rw [listMember, member_at hdistinct position hat]
  exact mapM_asRead hread items

end Members

theorem readPort_eq (port : PortRecord) :
    readPort (recordValue port.members).asRead = some port := by
  have hdistinct : Distinct (port.members.map Prod.fst) := by
    simp only [PortRecord.members, List.map_cons, List.map_nil]
    decide
  unfold readPort
  rw [textMember_at hdistinct 0 rfl, textMember_at hdistinct 1 rfl, textMember_at hdistinct 2 rfl,
    textMember_at hdistinct 3 rfl, textMember_at hdistinct 4 rfl, textMember_at hdistinct 5 rfl,
    textMember_at hdistinct 6 rfl, textMember_at hdistinct 7 rfl, textMember_at hdistinct 8 rfl,
    numberMember_at hdistinct 9 rfl, numberMember_at hdistinct 10 rfl,
    numberMember_at hdistinct 11 rfl, numberMember_at hdistinct 12 rfl,
    numberMember_at hdistinct 13 rfl, numberMember_at hdistinct 14 rfl]
  rfl

theorem readPipeline_eq (pipeline : PipelineRecord PortRecord) :
    readPipeline (recordValue pipeline.members).asRead = some pipeline := by
  have hdistinct : Distinct (pipeline.members.map Prod.fst) := by
    simp only [PipelineRecord.members, List.map_cons, List.map_nil]
    decide
  unfold readPipeline
  rw [textMember_at hdistinct 0 rfl, textMember_at hdistinct 1 rfl, textMember_at hdistinct 2 rfl,
    textMember_at hdistinct 3 rfl, numberMember_at hdistinct 4 rfl,
    numberMember_at hdistinct 5 rfl, listMember_at hdistinct readPort_eq 6 rfl]
  rfl

theorem readControl_eq (control : ControlRecord) :
    readControl (recordValue control.members).asRead = some control := by
  have hdistinct : Distinct (control.members.map Prod.fst) := by
    simp only [ControlRecord.members, List.map_cons, List.map_nil]
    decide
  unfold readControl
  rw [numberMember_at hdistinct 0 rfl, numberMember_at hdistinct 1 rfl,
    numberMember_at hdistinct 2 rfl, textMember_at hdistinct 3 rfl, textMember_at hdistinct 4 rfl,
    textMember_at hdistinct 5 rfl, textMember_at hdistinct 6 rfl, textMember_at hdistinct 7 rfl,
    textMember_at hdistinct 8 rfl, textMember_at hdistinct 9 rfl, bytesMember_at hdistinct 10 rfl]
  rfl

theorem readInstallParam_eq (param : InstallParamInfo) :
    readInstallParam (recordValue param.members).asRead = some param := by
  have hdistinct : Distinct (param.members.map Prod.fst) := by
    simp only [InstallParamInfo.members, List.map_cons, List.map_nil]
    decide
  unfold readInstallParam
  rw [numberMember_at hdistinct 0 rfl, textMember_at hdistinct 1 rfl, textMember_at hdistinct 2 rfl,
    textMember_at hdistinct 3 rfl, textMember_at hdistinct 4 rfl, textMember_at hdistinct 5 rfl,
    textMember_at hdistinct 6 rfl, bytesMember_at hdistinct 7 rfl]
  rfl

theorem readPresetEntry_eq (entry : EntryRecord) :
    readPresetEntry (recordValue entry.members).asRead = some entry := by
  have hdistinct : Distinct (entry.members.map Prod.fst) := by
    simp only [EntryRecord.members, List.map_cons, List.map_nil]
    decide
  unfold readPresetEntry
  rw [textMember_at hdistinct 0 rfl, textMember_at hdistinct 1 rfl, textMember_at hdistinct 2 rfl,
    textMember_at hdistinct 3 rfl, textMember_at hdistinct 4 rfl, bytesMember_at hdistinct 5 rfl]
  rfl

theorem readPreset_eq (preset : PresetRecord) :
    readPreset (recordValue preset.members).asRead = some preset := by
  have hdistinct : Distinct (preset.members.map Prod.fst) := by
    simp only [PresetRecord.members, List.map_cons, List.map_nil]
    decide
  unfold readPreset
  rw [numberMember_at hdistinct 0 rfl, textMember_at hdistinct 1 rfl, textMember_at hdistinct 2 rfl,
    flagMember_at hdistinct 3 rfl, flagMember_at hdistinct 4 rfl, textMember_at hdistinct 5 rfl,
    listMember_at hdistinct readPresetEntry_eq 6 rfl]
  rfl

theorem readProject_eq (project : ProjectRecord) :
    readProject (recordValue project.members).asRead = some project := by
  have hdistinct : Distinct (project.members.map Prod.fst) := by
    simp only [ProjectRecord.members, List.map_cons, List.map_nil]
    decide
  unfold readProject
  rw [textMember_at hdistinct 1 rfl, listMember_at hdistinct readPipeline_eq 2 rfl,
    listMember_at hdistinct readControl_eq 3 rfl, listMember_at hdistinct readInstallParam_eq 4 rfl,
    listMember_at hdistinct readPreset_eq 5 rfl]
  rfl

/-! ## The text is a document -/

theorem numberJson_spelled (value : UInt32) : (numberJson value).Spelled :=
  Parser.isNumber_decimalText value.toNat

theorem listJson_spelled (heach : ∀ item, (toJson item).Spelled) (items : List α) :
    (listJson toJson items).Spelled := by
  rw [listJson, JsonValue.Spelled, spelledItems_iff]
  intro value hvalue
  obtain ⟨item, -, rfl⟩ := List.mem_map.mp hvalue
  exact heach item

theorem port_spelled (port : PortRecord) : (recordValue port.members).Spelled := by
  apply recordValue_spelled
  simp [PortRecord.members, JsonValue.Spelled, numberJson_spelled]

theorem pipeline_spelled (pipeline : PipelineRecord PortRecord) :
    (recordValue pipeline.members).Spelled := by
  apply recordValue_spelled
  simp [PipelineRecord.members, JsonValue.Spelled, numberJson_spelled,
    listJson_spelled port_spelled]

theorem control_spelled (control : ControlRecord) : (recordValue control.members).Spelled := by
  apply recordValue_spelled
  simp [ControlRecord.members, JsonValue.Spelled, numberJson_spelled, bytesJson]

theorem installParam_spelled (param : InstallParamInfo) : (recordValue param.members).Spelled := by
  apply recordValue_spelled
  simp [InstallParamInfo.members, JsonValue.Spelled, numberJson_spelled, bytesJson]

theorem presetEntry_spelled (entry : EntryRecord) : (recordValue entry.members).Spelled := by
  apply recordValue_spelled
  simp [EntryRecord.members, JsonValue.Spelled, bytesJson]

theorem preset_spelled (preset : PresetRecord) : (recordValue preset.members).Spelled := by
  apply recordValue_spelled
  simp [PresetRecord.members, JsonValue.Spelled, numberJson_spelled,
    listJson_spelled presetEntry_spelled]

theorem project_spelled (project : ProjectRecord) : (recordValue project.members).Spelled := by
  apply recordValue_spelled
  simp [ProjectRecord.members, JsonValue.Spelled, listJson_spelled pipeline_spelled,
    listJson_spelled control_spelled, listJson_spelled installParam_spelled,
    listJson_spelled preset_spelled]

theorem privateJson_read (ir : PrivateIr) :
    ∃ root, parseJson (privateJson ir) = .ok root ∧ readProject root = some ir.record := by
  refine ⟨(recordValue ir.record.members).asRead, ?_, readProject_eq ir.record⟩
  rw [privateJson_eq, parseJson_spelled (project_spelled ir.record)]

/-! ## The header and the text -/

def privateHeader (payloadJson : Bytes) : Bytes :=
  le32 kAsPrivateMagic ++ le16 kAsPrivateVersionMajor ++ le16 kAsPrivateVersionMinor ++
    le32 24 ++ le32 payloadJson.length.toUInt32 ++ le32 (payloadCrc payloadJson) ++ le32 0

theorem privateHeader_length (payloadJson : Bytes) : (privateHeader payloadJson).length = 24 := by
  simp only [privateHeader, List.length_append, le32_length, le16_length]

theorem buildPrivatePayload_eq (ir : PrivateIr) :
    buildPrivatePayload ir = privateHeader (privateJson ir) ++ privateJson ir :=
  rfl

theorem drop_buildPrivatePayload (ir : PrivateIr) :
    (buildPrivatePayload ir).drop 24 = privateJson ir := by
  rw [buildPrivatePayload_eq]
  exact List.drop_left' (privateHeader_length _)

theorem word32_buildPrivatePayload (ir : PrivateIr) :
    word32 (buildPrivatePayload ir) 8 = 24 ∧
      word32 (buildPrivatePayload ir) 12 = (privateJson ir).length.toUInt32 ∧
      word32 (buildPrivatePayload ir) 16 = payloadCrc (privateJson ir) := by
  have hheader := privateHeader_length (privateJson ir)
  rw [buildPrivatePayload_eq, word32_append_left (by omega), word32_append_left (by omega),
    word32_append_left (by omega)]
  simp only [privateHeader, word32, byteAt, le32, le16, List.cons_append, List.nil_append,
    List.getD_cons_zero, List.getD_cons_succ, of32_le32, and_self]

theorem payloadCrc_eq (data : Bytes) : payloadCrc data = acCrc32 data := by
  rw [payloadCrc, acCrc32, crc32Byte_eq_acCrc32Byte]

theorem payloadSize_iff (size : Nat) : size.toUInt32.toNat = size ↔ size < 2 ^ 32 := by
  rw [Nat.toUInt32, UInt32.toNat_ofNat']
  constructor
  · intro hsame
    rw [← hsame]
    exact Nat.mod_lt _ (by decide)
  · exact Nat.mod_eq_of_lt

/-- The private payload decodes to the project as long as the size of the project's document fits
the header. -/
theorem payload_decodes_iff (ir : PrivateIr) :
    DecodesTo (buildPrivatePayload ir) ir.record ↔
      (recordValue ir.record.members).dump.length < 2 ^ 32 := by
  rw [← privateJson_eq]
  obtain ⟨hheader, hsize, hcrc⟩ := word32_buildPrivatePayload ir
  have hdrop := drop_buildPrivatePayload ir
  constructor
  · intro hdecodes
    have hsame := hdecodes.payloadSize
    rw [hsize, hdrop] at hsame
    exact (payloadSize_iff _).mp hsame
  · intro hfits
    constructor
    · refine ⟨?_, hheader⟩
      rw [buildPrivatePayload_eq, List.length_append, privateHeader_length]
      exact Nat.le_add_right _ _
    · rw [hsize, hdrop]
      exact (payloadSize_iff _).mpr hfits
    · rw [hcrc, hdrop, payloadCrc_eq]
    · rw [hdrop]
      exact privateJson_read ir

theorem dumpCharacter_length (ch : UInt8) : 1 ≤ (dumpCharacter ch).length := by
  unfold dumpCharacter
  repeat' split
  all_goals first | decide | simp

theorem dumpString_length (text : Bytes) : text.length ≤ (dumpString text).length := by
  have hbody : text.length ≤ (text.flatMap dumpCharacter).length := by
    induction text with
    | nil => exact Nat.zero_le _
    | cons ch rest ih =>
        have hfirst := dumpCharacter_length ch
        rw [List.flatMap_cons, List.length_append, List.length_cons]
        omega
  rw [dumpString, List.length_append, List.length_append]
  omega

/-- A project without pipelines, with a name of `count` letters. -/
def longName (count : Nat) : PrivateIr where
  projectName := List.replicate count (ascii 'a')
  pipelines := []
  controls := []
  installParams := []
  presets := []

theorem longName_length (count : Nat) : count ≤ (privateJson (longName count)).length := by
  have hname := dumpString_length (longName count).projectName
  rw [show (longName count).projectName.length = count from List.length_replicate] at hname
  simp only [privateJson, recordText, List.map_cons, separated_cons, List.flatMap_cons, memberText,
    List.length_append]
  omega

/-- A project name of four gibibytes: the header says that the text has less than it has. -/
theorem long_text_wraps :
    ¬ DecodesTo (buildPrivatePayload (longName (2 ^ 32))) (longName (2 ^ 32)).record := by
  intro hdecodes
  have hsame := hdecodes.payloadSize
  have hlength := longName_length (2 ^ 32)
  rw [drop_buildPrivatePayload] at hsame
  have hword := (word32 (buildPrivatePayload (longName (2 ^ 32))) 12).toNat_lt
  omega

end AudioStudio.Config
