import AudioStudio.Config.Builtin
import AudioStudio.Config.Project
import AudioStudio.Config.Sizes
import AudioStudio.Rpc.JsonWritten

/-!
# The handler of the SOF modules

`SofBasicModuleConfigHandler` of `builtin_module_configs.cpp`: parameter values are packed into
the bytes that a module's firmware takes for its whole configuration.
-/

namespace AudioStudio.Config.SofBasic

open AudioStudio.Common
open AudioStudio.LittleEndian
open AudioStudio.Rpc

/-! ## Numbers -/

/-- What the handler has of doubles: their literals, conversions and comparisons. -/
structure Doubles (D : Type) where
  literal : String → D
  /-- `std::stod`, or nothing if it throws. -/
  stod : Bytes → Option D
  /-- The output of a stream with twelve digits. -/
  text : D → Bytes
  llround : D → Int
  mul : D → D → D
  lt : D → D → Bool
  le : D → D → Bool

/-- `asInt64`: `std::stoll` over the text, all of which has to be its digits. -/
def int64Value : JsonValue → Parsed Int
  | .number scalar =>
      let negative := scalar.head? = some (ascii '-')
      let text := if negative then scalar.tail else scalar
      let digits := text.takeWhile (isDigit ·)
      let value : Int := if negative then -(decimalValue digits) else decimalValue digits
      if digits = [] ∨ value < -2 ^ 63 ∨ 2 ^ 63 ≤ value then raise "stoll"
      else if digits.length ≠ text.length then raise "JSON number is not an integer"
      else .ok value
  | _ => raise "JSON value is not a number"

/-- `std::to_string` of a signed number. -/
def intText (value : Int) : Bytes :=
  if value < 0 then asciiBytes "-" ++ decimalText value.natAbs else decimalText value.natAbs

/-- The number is cut to 32 bits. -/
def uintValue (object : JsonValue) (key : String) (fallback : UInt32) : Parsed UInt32 :=
  match object.member (asciiBytes key) with
  | none | some .null => .ok fallback
  | some (.number scalar) => do
      let value ← int64Value (.number scalar)
      if value < 0 then raise "JSON field must be non-negative: " (asciiBytes key)
      else return value.toNat.toUInt32
  | some _ => raise "JSON field must be number: " (asciiBytes key)

section

variable {D : Type} (x : Doubles D)

def asDouble : JsonValue → Parsed D
  | .number scalar =>
      match x.stod scalar with
      | some value => .ok value
      | none => raise "stod"
  | _ => raise "JSON value is not a number"

/-- `std::max(low, std::min(high, value))`. -/
def clamp (low high value : D) : D :=
  let lower := if x.lt value high then value else high
  if x.lt low lower then lower else low

def q5_27 (value : D) : Int32 :=
  let value := clamp x (x.literal "-16.0") (x.literal "15.999999") value
  Int32.ofInt (x.llround (x.mul value (x.literal "134217728.0")))

def q1_15 (value : D) : Int16 :=
  let value := clamp x (x.literal "-1.0") (x.literal "1.0") value
  if x.le (x.literal "1.0") value then 32767
  else Int16.ofInt (x.llround (x.mul value (x.literal "32768.0")))

/-- `scaledWeight` with the scale that it is called with. -/
def scaledWeight (value : D) : Int32 :=
  let value := clamp x (x.literal "-1.0") (x.literal "1.0") value
  Int32.ofInt (x.llround (x.mul value (x.literal "256")))

/-! ## Values -/

def scalarString (value : JsonValue) (fallback : String) : Parsed Bytes :=
  match value with
  | .string text => .ok (text.map toLower)
  | .number scalar => (int64Value (.number scalar)).map intText
  | _ => .ok (asciiBytes fallback)

def scalarDouble (value : JsonValue) (fallback : D) : Parsed D :=
  match value with
  | .number scalar => asDouble x (.number scalar)
  | .string text => .ok ((x.stod text).getD fallback)
  | _ => .ok fallback

def objectValue (object : JsonValue) (key : String) : Option JsonValue :=
  match object.member (asciiBytes key) with
  | none | some .null => none
  | some value => some value

def objectDouble (object : JsonValue) (key : String) (fallback : D) : Parsed D :=
  match objectValue object key with
  | none => .ok fallback
  | some value => scalarDouble x value fallback

def doubleAny (object : JsonValue) (keys : List String) (fallback : D) : Parsed D :=
  match keys.find? fun key => hasValue object (asciiBytes key) with
  | none => .ok fallback
  | some key =>
      match object.member (asciiBytes key) with
      | some (.number scalar) => asDouble x (.number scalar)
      | _ => raise "JSON field must be number: " (asciiBytes key)

def int32Any (object : JsonValue) (keys : List String) (fallback : Int32) : Parsed Int32 :=
  match keys.find? fun key => hasValue object (asciiBytes key) with
  | none => .ok fallback
  | some key =>
      match object.member (asciiBytes key) with
      | some (.number scalar) => (int64Value (.number scalar)).map Int32.ofInt
      | _ => raise "JSON field must be number: " (asciiBytes key)

def parseText (text : Bytes) : Parsed JsonValue :=
  match parseJson text with
  | .ok value => .ok value
  | .error fault => .error (.thrown (fault.what text))

/-! ## Configurations -/

/-- The document of a text that stands in the source. -/
def document (members : List (String × JsonValue)) : JsonValue :=
  (recordValue members).asRead

def nameList (names : List String) : JsonValue :=
  .array (names.map fun name => .string (asciiBytes name))

def numberRows (rows : List (List String)) : JsonValue :=
  .array (rows.map fun row => .array (row.map fun entry => .number (asciiBytes entry)))

def channelMapping (name configIdx : String) (input output : List String)
    (rows : List (List String)) : JsonValue :=
  document [("name", .string (asciiBytes name)), ("config_idx", .number (asciiBytes configIdx)),
    ("input", nameList input), ("output", nameList output), ("matrix", numberRows rows)]

def channelRemapConfig (values : JsonValue) : JsonValue :=
  match objectValue values "config" with
  | some config => config
  | none => document [("mappings", .array
      [channelMapping "mono_to_stereo" "0" ["MONO"] ["FL", "FR"] [["1"], ["1"]],
        channelMapping "stereo_passthrough" "1" ["FL", "FR"] ["FL", "FR"] [["1", "0"], ["0", "1"]],
        channelMapping "stereo_to_mono" "2" ["FL", "FR"] ["MONO"] [["0.5", "0.5"]],
        channelMapping "mono_passthrough" "3" ["MONO"] ["MONO"] [["1"]]])]

def channelRemapPreset (value : JsonValue) : Parsed JsonValue := do
  let layout ← scalarString value "stereo_passthrough"
  let mapping :=
    if layout = asciiBytes "mono_passthrough" then
      channelMapping "mono_passthrough" "0" ["MONO"] ["MONO"] [["1"]]
    else if layout = asciiBytes "mono_to_stereo" then
      channelMapping "mono_to_stereo" "0" ["MONO"] ["FL", "FR"] [["1"], ["1"]]
    else if layout = asciiBytes "stereo_to_mono" then
      channelMapping "stereo_to_mono" "0" ["FL", "FR"] ["MONO"] [["0.5", "0.5"]]
    else
      channelMapping "stereo_passthrough" "0" ["FL", "FR"] ["FL", "FR"] [["1", "0"], ["0", "1"]]
  return document [("mappings", .array [mapping])]

/-- The text that both configurations of a delay line put together. -/
def delayLineText (delayMs maxDelayMs rampMs : D) : Bytes :=
  recordText [("max_delay_ms", x.text maxDelayMs), ("ramp_ms", x.text rampMs),
    ("channels", asciiBytes "2"), ("per_channel_ms", listText [x.text delayMs, x.text delayMs])]

def delayLineConfig (values : JsonValue) : Parsed JsonValue := do
  let delayMs ← objectDouble x values "delay_ms" (x.literal "0.0")
  let maxDelayMs ← objectDouble x values "max_delay_ms" (x.literal "250.0")
  let rampMs ← objectDouble x values "ramp_ms" (x.literal "50.0")
  parseText (delayLineText x delayMs maxDelayMs rampMs)

/-- The parameter's own value, or the fallback for every other. -/
def paramDouble (parameterId : Bytes) (value : JsonValue) (key literal : String) : Parsed D :=
  if parameterId = asciiBytes key then scalarDouble x value (x.literal literal)
  else .ok (x.literal literal)

def delayLineParam (parameterId : Bytes) (value : JsonValue) : Parsed JsonValue := do
  let delayMs ← paramDouble x parameterId value "delay_ms" "0.0"
  let maxDelayMs ← paramDouble x parameterId value "max_delay_ms" "250.0"
  let rampMs ← paramDouble x parameterId value "ramp_ms" "50.0"
  parseText (delayLineText x delayMs maxDelayMs rampMs)

/-- The text that both configurations of a fader put together. -/
def faderBalanceText (fader balance rampMs : D) : Bytes :=
  recordText [("front_back_weight", x.text fader), ("left_right_weight", x.text balance),
    ("ramp", asciiBytes "\"linear\""), ("ramp_ms", x.text rampMs)]

def faderBalanceConfig (values : JsonValue) : Parsed JsonValue := do
  let fader ← objectDouble x values "fader" (x.literal "0.0")
  let balance ← objectDouble x values "balance" (x.literal "0.0")
  let rampMs ← objectDouble x values "ramp_ms" (x.literal "50.0")
  parseText (faderBalanceText x fader balance rampMs)

def faderBalanceParam (parameterId : Bytes) (value : JsonValue) : Parsed JsonValue := do
  let fader ← paramDouble x parameterId value "fader" "0.0"
  let balance ← paramDouble x parameterId value "balance" "0.0"
  let rampMs ← paramDouble x parameterId value "ramp_ms" "50.0"
  parseText (faderBalanceText x fader balance rampMs)

/-- A filter on both of two channels. -/
def stereoFilter (filterId route : String) (coefficients : List String) : JsonValue :=
  document
    [("filters", .array [document [("filter_id", .string (asciiBytes filterId)),
      ("index", .number (asciiBytes "0")), ("type", .string (asciiBytes "fir")),
      ("coefficients", .array (coefficients.map fun entry => .number (asciiBytes entry)))]]),
    ("routes", .array [document [("name", .string (asciiBytes route)),
      ("config_idx", .number (asciiBytes "0")), ("input", nameList ["FL", "FR"]),
      ("output", nameList ["FL", "FR"]),
      ("matrix", .array [.array [.string (asciiBytes filterId), .null],
        .array [.null, .string (asciiBytes filterId)]])]])]

def dspFilterPreset (value : JsonValue) : Parsed JsonValue := do
  let preset ← scalarString value "passthrough"
  if preset = asciiBytes "lowpass" then
    return stereoFilter "lowpass_fir" "lowpass_stereo" ["0.25", "0.5", "0.25"]
  else if preset = asciiBytes "highpass" then
    return stereoFilter "highpass_fir" "highpass_stereo" ["-0.25", "0.5", "-0.25"]
  else return stereoFilter "identity_fir" "stereo_passthrough" ["1"]

def dspFilterConfig (values : JsonValue) : Parsed JsonValue :=
  match objectValue values "config" with
  | some config => .ok config
  | none =>
      match objectValue values "filter_preset" with
      | some preset => dspFilterPreset preset
      | none => dspFilterPreset (.string (asciiBytes "passthrough"))

/-! ## Channels -/

/-- Zeros up to a multiple of four bytes. -/
def align4 (out : Bytes) : Bytes :=
  out ++ List.replicate ((4 - out.length % 4) % 4) 0

def le32Signed (value : Int32) : Bytes :=
  le32 value.toUInt32

/-- The names of the channels, in the order of their numbers. -/
def channelNames : List Bytes :=
  ["UNKNOWN", "NA", "MONO", "FL", "FR", "RL", "RR", "FC", "LFE", "SL", "SR", "RC", "FLC", "FRC",
    "RLC", "RRC", "FLW", "FRW", "FLH", "FCH", "FRH", "TC", "TFL", "TFR", "TFC", "TRL", "TRR",
    "TRC", "TFLC", "TFRC", "TSL", "TSR", "LLFE", "RLFE", "BC", "BLC", "BRC"].map asciiBytes

def channelMap (name : Bytes) : Parsed UInt16 :=
  match channelNames.idxOf? (macroToken name) with
  | some number => .ok number.toUInt16
  | none => raise "unknown channel name: " name

def channelEntry (key : String) : JsonValue → Parsed UInt16
  | .string name => channelMap name
  | _ => .error (.thrown (asciiBytes key ++ asciiBytes " entries must be channel names"))

def channelList (object : JsonValue) (key : String) : Parsed (List UInt16) := do
  let items ← requiredArray object key
  items.mapM (channelEntry key)

/-- A row of a matrix, which has one entry for each input. -/
def matrixRow {α : Type} (module : String) (entry : JsonValue → Parsed α) (inputs : Nat)
    (row : JsonValue) : Parsed (List α) :=
  match row with
  | .array entries =>
      if entries.length ≠ inputs then
        raise (module ++ " matrix column count must match input channels")
      else entries.mapM entry
  | _ => raise (module ++ " matrix column count must match input channels")

/-! ## Channel remap -/

def remapEntry : JsonValue → Parsed Int32
  | .number scalar => (asDouble x (.number scalar)).map (q5_27 x)
  | _ => raise "channel_remap matrix values must be numbers"

def packChannelRemapConfig (mapping : JsonValue) (fallbackIdx : UInt32) : Parsed Bytes := do
  let inputs ← channelList mapping "input"
  let outputs ← channelList mapping "output"
  let rows ← requiredArray mapping "matrix"
  if rows.length ≠ outputs.length then
    raise "channel_remap matrix row count must match output channels"
  else do
    let configIdx ← uintValue mapping "config_idx" fallbackIdx
    let matrix ← rows.mapM (matrixRow "channel_remap" (remapEntry x) inputs.length)
    return align4 (le32 configIdx ++ le32 inputs.length.toUInt32 ++ le32 outputs.length.toUInt32 ++
      (List.replicate 5 (le32 0)).flatten ++ inputs.flatMap le16 ++ outputs.flatMap le16) ++
      matrix.flatten.flatMap le32Signed

/-- The index of a mapping that names none is its place in the list. -/
def packMappings (place : Nat) : List JsonValue → Parsed Bytes
  | [] => .ok []
  | mapping :: mappings => do
      let config ← packChannelRemapConfig x mapping place.toUInt32
      let payload ← packMappings (place + 1) mappings
      return config ++ payload

def packChannelRemap (value : JsonValue) : Parsed Bytes := do
  let mappings ← requiredArray value "mappings"
  packMappings x 0 mappings

/-! ## Delay lines and faders -/

def delayEntry : JsonValue → Parsed Int32
  | .number scalar => (asDouble x (.number scalar)).map fun delay => Int32.ofInt (x.llround delay)
  | _ => raise "per_channel_ms entries must be numbers"

def delayValues (value : JsonValue) (channels : Int32) : Parsed (List Int32) := do
  let delays ←
    if (value.member (asciiBytes "per_channel_ms")).isSome then do
      let items ← requiredArray value "per_channel_ms"
      items.mapM (delayEntry x)
    else do
      let delay ← int32Any value ["delay_ms"] 0
      return List.replicate (max 1 channels).toInt.toNat delay
  let channels := if channels = 0 then Int32.ofNat delays.length else channels
  if Int32.ofNat delays.length ≠ channels then
    raise "delay_line channel count does not match delay values"
  else return delays

def packDelayLine (value : JsonValue) : Parsed Bytes := do
  let channels ← int32Any value ["channels"] 0
  let delays ← delayValues x value channels
  let maxDelayMs ← int32Any value ["max_delay_ms"] 250
  let rampMs ← int32Any value ["ramp_ms", "ramp_time_ms"] 50
  return le32Signed maxDelayMs ++ le32Signed rampMs ++ le32Signed (Int32.ofNat delays.length) ++
    delays.flatMap le32Signed

def packFaderBalance (value : JsonValue) : Parsed Bytes := do
  let ramp ← stringValue value "ramp" (asciiBytes "linear")
  let ramp := ramp.map toLower
  let rampType : UInt32 :=
    if ramp = asciiBytes "windows_fade" ∨ ramp = asciiBytes "windows" then 1 else 0
  let rampMs ← int32Any value ["ramp_ms", "ramp_time_ms"] 50
  let frontBack ← doubleAny x value ["front_back_weight", "fader_weight"] (x.literal "0.0")
  let leftRight ← doubleAny x value ["left_right_weight", "balance_weight"] (x.literal "0.0")
  return le32 rampType ++ le32Signed rampMs ++ le32Signed (scaledWeight x frontBack) ++
    le32Signed (scaledWeight x leftRight)

/-! ## DSP filters -/

def coefficientEntry : JsonValue → Parsed Int16
  | .number scalar => (asDouble x (.number scalar)).map (q1_15 x)
  | _ => raise "dsp_filter coefficients must be numbers"

/-- The number of a type of filter, and the coefficients. -/
def filterBody (filter : JsonValue) (type : Bytes) : Parsed (UInt16 × List Int16) :=
  if type = asciiBytes "fir" then do
    let items ← requiredArray filter "coefficients"
    let coefficients ← items.mapM (coefficientEntry x)
    if coefficients = [] then raise "dsp_filter FIR must have at least one coefficient"
    else return (1, coefficients)
  else if type = asciiBytes "bypass" then return (0, [])
  else raise "unsupported dsp_filter type: " type

def packDspFilterHeader (filter : JsonValue) (fallbackIdx : UInt16) : Parsed Bytes := do
  let type ← stringValue filter "type" (asciiBytes "fir")
  let idx ← uintValue filter "index" fallbackIdx.toUInt32
  let (filterType, coefficients) ← filterBody x filter (type.map toLower)
  return align4 (le16 idx.toUInt16 ++ le16 filterType ++ le16 0 ++
    le16 coefficients.length.toUInt16 ++ le16 0 ++ le16 (coefficients.length * 2).toUInt16 ++
    coefficients.flatMap fun coef => le16 coef.toUInt16)

end

theorem sizeOf_of_lookup {key : Bytes} {members : JsonMembers} {value : JsonValue}
    (hlookup : lookup key members = some value) : sizeOf value < sizeOf members := by
  induction members with
  | nil => cases hlookup
  | cons member members ih =>
      obtain ⟨name, held⟩ := member
      rw [lookup] at hlookup
      split at hlookup
      · cases hlookup
        simp only [List.cons.sizeOf_spec, Prod.mk.sizeOf_spec]
        omega
      · have hless := ih hlookup
        simp only [List.cons.sizeOf_spec]
        omega

/-- The filters that have a name, the last one in front. -/
abbrev FilterIds := List (Bytes × Int16)

/-- An object stands for its member. -/
def filterMatrixEntry (filterIds : FilterIds) : JsonValue → Parsed Int16
  | .null => .ok (-1)
  | .number scalar => (int64Value (.number scalar)).map Int16.ofInt
  | .string text =>
      if text = [] ∨ text = asciiBytes "off" ∨ text = asciiBytes "none" ∨
          text = asciiBytes "null" then .ok (-1)
      else
        match filterIds.lookup text with
        | some index => .ok index
        | none => raise "dsp_filter matrix references unknown filter: " text
  | .object members =>
      match _hfilter : lookup (asciiBytes "filter") members with
      | some entry => filterMatrixEntry filterIds entry
      | none =>
          match _hid : lookup (asciiBytes "filter_id") members with
          | some entry => filterMatrixEntry filterIds entry
          | none => raise "JSON object key is missing: filter_id"
  | .bool _ | .array _ => raise "dsp_filter matrix entry must be filter id, number, or null"
termination_by entry => sizeOf entry
decreasing_by
  · have hless := sizeOf_of_lookup _hfilter
    simp only [JsonValue.object.sizeOf_spec]
    omega
  · have hless := sizeOf_of_lookup _hid
    simp only [JsonValue.object.sizeOf_spec]
    omega

def packDspFilterChannelConfig (route : JsonValue) (fallbackIdx : UInt32) (filterIds : FilterIds) :
    Parsed Bytes := do
  let inputs ← channelList route "input"
  let outputs ← channelList route "output"
  let rows ← requiredArray route "matrix"
  if rows.length ≠ outputs.length then
    raise "dsp_filter matrix row count must match output channels"
  else do
    let matrix ← rows.mapM (matrixRow "dsp_filter" (filterMatrixEntry filterIds) inputs.length)
    let data := align4 (inputs.flatMap le16 ++ outputs.flatMap le16 ++
      matrix.flatten.flatMap fun entry => le16 entry.toUInt16)
    let configIdx ← uintValue route "config_idx" fallbackIdx
    return align4 (le32 configIdx ++ le32 inputs.length.toUInt32 ++ le32 outputs.length.toUInt32 ++
      le32 data.length.toUInt32 ++ data)

section

variable {D : Type} (x : Doubles D)

/-- A filter without an index has its place in the list. -/
def packFilters (place : Nat) (filterIds : FilterIds) :
    List JsonValue → Parsed (FilterIds × Bytes)
  | [] => .ok (filterIds, [])
  | filter :: filters => do
      let index ← uintValue filter "index" place.toUInt32
      let id ← stringValue filter "id"
      let filterId ← stringValue filter "filter_id" id
      let packed ← packDspFilterHeader x filter place.toUInt16
      let filterIds :=
        if filterId = [] then filterIds else (filterId, index.toUInt16.toInt16) :: filterIds
      let (filterIds, data) ← packFilters (place + 1) filterIds filters
      return (filterIds, packed ++ data)

def packRoutes (filterIds : FilterIds) (place : Nat) : List JsonValue → Parsed Bytes
  | [] => .ok []
  | route :: routes => do
      let packed ← packDspFilterChannelConfig route place.toUInt32 filterIds
      let data ← packRoutes filterIds (place + 1) routes
      return packed ++ data

def packDspFilter (value : JsonValue) : Parsed Bytes := do
  let filters ← requiredArray value "filters"
  let routes ← requiredArray value "routes"
  let (filterIds, filterData) ← packFilters x 0 [] filters
  let routeData ← packRoutes filterIds 0 routes
  let data := filterData ++ routeData
  return le32 filters.length.toUInt32 ++ le32 routes.length.toUInt32 ++
    le32 data.length.toUInt32 ++ data

/-! ## The handler -/

def kSofAbiMagic : UInt32 := 0x00464f53
def kSofAbiVersion : UInt32 := 0x0301d001

def wrapSofAbi (data : Bytes) : Bytes :=
  le32 kSofAbiMagic ++ le32 0 ++ le32 data.length.toUInt32 ++ le32 kSofAbiVersion ++ le32 0 ++
    le32 0 ++ le32 0 ++ le32 0 ++ data

/-- What the handler reads of a request. -/
structure ModuleConfigRequest where
  moduleType : Bytes
  parameterId : Bytes
  valuesJson : Bytes
  deriving DecidableEq, Repr

structure ModuleConfigBlob where
  format : Bytes
  data : Bytes
  deriving DecidableEq, Repr

def validatePreset (moduleType : Bytes) (request : ModuleConfigRequest) : Parsed Unit :=
  if request.moduleType ≠ moduleType then
    invalidArgument "unexpected module_type for SOF basic handler: " request.moduleType
  else if request.valuesJson = [] then
    invalidArgument "module config request values_json is empty"
  else .ok ()

def isChannelRemap (moduleType : Bytes) : Bool :=
  moduleType = asciiBytes "filter.channel_remap" ∨ moduleType = asciiBytes "filter.chremap"

def isDelayLine (moduleType : Bytes) : Bool :=
  moduleType = asciiBytes "delay.line" ∨ moduleType = asciiBytes "delay.delay_line"

def unsupported {α : Type} (moduleType : Bytes) : Parsed α :=
  .error (.status .unavailable (asciiBytes "unsupported SOF basic module_type: " ++ moduleType))

/-- The payload that is made of all values. -/
def packConfig (moduleType : Bytes) (values : JsonValue) : Parsed Bytes :=
  if isChannelRemap moduleType then packChannelRemap x (channelRemapConfig values)
  else if isDelayLine moduleType then delayLineConfig x values >>= packDelayLine x
  else if moduleType = asciiBytes "mix.fader_balance" then
    faderBalanceConfig x values >>= packFaderBalance x
  else if moduleType = asciiBytes "filter.dsp_filter" then
    dspFilterConfig values >>= packDspFilter x
  else unsupported moduleType

/-- The payload that is made of the value of one parameter. -/
def packParam (moduleType parameterId : Bytes) (value : JsonValue) : Parsed Bytes :=
  if isChannelRemap moduleType then channelRemapPreset value >>= packChannelRemap x
  else if isDelayLine moduleType then delayLineParam x parameterId value >>= packDelayLine x
  else if moduleType = asciiBytes "mix.fader_balance" then
    faderBalanceParam x parameterId value >>= packFaderBalance x
  else if moduleType = asciiBytes "filter.dsp_filter" then
    dspFilterPreset value >>= packDspFilter x
  else unsupported moduleType

/-- The part of `packRuntimeParam` that has read the values. -/
def packValues (moduleType parameterId : Bytes) (values : JsonValue) : Parsed Bytes :=
  if values.isObject = false then invalidArgument "parameter values must be an object"
  else if parameterId = asciiBytes "config" then packConfig x moduleType values
  else
    match values.member parameterId with
    | none => invalidArgument "parameter value missing: " parameterId
    | some value => packParam x moduleType parameterId value

/-- An exception becomes a status. -/
def packRuntimeParam (moduleType : Bytes) (request : ModuleConfigRequest) :
    Parsed ModuleConfigBlob := do
  validatePreset moduleType request
  match parseText request.valuesJson >>= packValues x moduleType request.parameterId with
  | .ok payload => .ok { format := asciiBytes "sof-ipc3-bytes-v1", data := wrapSofAbi payload }
  | .error (.thrown what) => .error (.status .invalidArgument (asciiBytes "failed to pack " ++
      moduleType ++ asciiBytes " parameter " ++ request.parameterId ++ asciiBytes ": " ++ what))
  | .error fault => .error fault

def packInstallConfig (moduleType : Bytes) (request : ModuleConfigRequest) :
    Parsed ModuleConfigBlob :=
  packRuntimeParam x moduleType request

variable {x}

/-- What is accepted has been read and packed. -/
theorem packRuntimeParam_ok_iff {moduleType : Bytes} {request : ModuleConfigRequest}
    {blob : ModuleConfigBlob} :
    packRuntimeParam x moduleType request = .ok blob ↔
      request.moduleType = moduleType ∧ request.valuesJson ≠ [] ∧
        ∃ values payload, parseText request.valuesJson = .ok values ∧
          packValues x moduleType request.parameterId values = .ok payload ∧
          blob = { format := asciiBytes "sof-ipc3-bytes-v1", data := wrapSofAbi payload } := by
  rw [packRuntimeParam, validatePreset]
  by_cases htype : request.moduleType = moduleType
  · by_cases htext : request.valuesJson = []
    · rw [if_neg (not_not.mpr htype), if_pos htext]
      exact iff_of_false (by rintro ⟨⟩) fun hok => hok.2.1 htext
    · rw [if_neg (not_not.mpr htype), if_neg htext, and_iff_right htype, and_iff_right htext]
      cases parseText request.valuesJson with
      | error fault =>
          refine iff_of_false ?_ (by rintro ⟨values, payload, ⟨⟩, -⟩)
          cases fault with
          | thrown what => rintro ⟨⟩
          | status code message => rintro ⟨⟩
      | ok values =>
          rw [show (Except.ok values >>= packValues x moduleType request.parameterId) =
            packValues x moduleType request.parameterId values from rfl]
          cases hpack : packValues x moduleType request.parameterId values with
          | ok payload =>
              constructor
              · intro hok
                exact ⟨values, payload, rfl, hpack, (Except.ok.inj hok).symm⟩
              · rintro ⟨values', payload', ⟨⟩, hpack', rfl⟩
                rw [hpack] at hpack'
                cases hpack'
                rfl
          | error fault =>
              refine iff_of_false ?_ ?_
              · cases fault with
                | thrown what => rintro ⟨⟩
                | status code message => rintro ⟨⟩
              · rintro ⟨values', payload', ⟨⟩, hpack', -⟩
                rw [hpack] at hpack'
                cases hpack'
  · rw [if_pos htype]
    exact iff_of_false (by rintro ⟨⟩) fun hok => htype hok.1

end

theorem parseText_spelled {value : JsonValue} (hspelled : value.Spelled) :
    parseText value.dump = .ok value.asRead := by
  rw [parseText, parseJson_spelled hspelled]

/-! ## Whole numbers -/

/-- The whole part of a number's text, if it begins with one. -/
def wholePart (text : Bytes) : Option Int :=
  let negative := text.head? = some (ascii '-')
  let digits := (if negative then text.tail else text).takeWhile (isDigit ·)
  if digits = [] then none
  else if negative then some (-(decimalValue digits)) else some (decimalValue digits)

/-- Doubles as far as they are whole numbers. -/
def wholeDoubles : Doubles Int where
  literal text := (wholePart (asciiBytes text)).getD 0
  stod := wholePart
  text := intText
  llround value := value
  mul left right := left * right
  lt left right := left < right
  le left right := left ≤ right

end AudioStudio.Config.SofBasic
