import AudioStudio.Config.SofBasic

/-!
# Payloads of single parameters

The handler of the SOF modules packs the value of one parameter into a configuration of the
whole module, with fallbacks for the other parameters.  It is the configuration of all values
if these are the fallbacks.
-/

namespace AudioStudio.Config.SofBasic

open AudioStudio.Common
open AudioStudio.LittleEndian
open AudioStudio.Rpc

/-! ## Fields of a document -/

section Fields

variable {object : JsonValue} {key : String} {scalar : Bytes}

theorem hasValue_number (hmember : object.member (asciiBytes key) = some (.number scalar)) :
    hasValue object (asciiBytes key) = true := by
  rw [hasValue, hmember]

theorem int32Any_number (hmember : object.member (asciiBytes key) = some (.number scalar))
    (keys : List String) (fallback : Int32) :
    int32Any object (key :: keys) fallback =
      (int64Value (.number scalar)).map Int32.ofInt := by
  rw [int32Any, List.find?_cons_of_pos (p := fun key => hasValue object (asciiBytes key))
    (hasValue_number hmember)]
  dsimp only
  rw [hmember]

theorem doubleAny_number {D : Type} (x : Doubles D)
    (hmember : object.member (asciiBytes key) = some (.number scalar)) (keys : List String)
    (fallback : D) : doubleAny x object (key :: keys) fallback = asDouble x (.number scalar) := by
  rw [doubleAny, List.find?_cons_of_pos (p := fun key => hasValue object (asciiBytes key))
    (hasValue_number hmember)]
  dsimp only
  rw [hmember]

variable {value : JsonValue}

theorem objectDouble_of_member {D : Type} (x : Doubles D) {values : JsonValue}
    (hmember : values.member (asciiBytes key) = some value) (fallback : D) :
    objectDouble x values key fallback = scalarDouble x value fallback := by
  rw [objectDouble, objectValue, hmember]
  cases value with
  | null => rfl
  | bool flag => rfl
  | number scalar => rfl
  | string text => rfl
  | array items => rfl
  | object members => rfl

end Fields

/-! ## Modules with three numbers -/

section Three

variable {D : Type} (x : Doubles D)

/-- A double prints as a JSON number unless it is infinite or no number at all, and so do the
literals of the source. -/
structure PrintsNumbers : Prop where
  text : ∀ value, Parser.IsNumber (x.text value) ∨
    x.text value ∈ ["inf", "-inf", "nan", "-nan"].map asciiBytes
  literal : ∀ literal ∈ ["0.0", "50.0", "250.0"], Parser.IsNumber (x.text (x.literal literal))

/-- A number of the text that goes into the payload as it is. -/
def wholeField (value : D) : Parsed Int32 :=
  (int64Value (.number (x.text value))).map Int32.ofInt

def delayField (value : D) : Parsed Int32 :=
  delayEntry x (.number (x.text value))

def weightField (value : D) : Parsed Int32 :=
  (asDouble x (.number (x.text value))).map (scaledWeight x)

/-- A payload of three numbers, each of which has a field of its own. -/
structure ThreeFields (pack : D → D → D → Parsed Bytes) (first second third : D → Parsed Int32)
    (layout : Int32 → Int32 → Int32 → Bytes) : Prop where
  packed : ∀ a b c payload, pack a b c = .ok payload ↔
    (Parser.IsNumber (x.text a) ∧ Parser.IsNumber (x.text b) ∧ Parser.IsNumber (x.text c)) ∧
      ∃ i j k, first a = .ok i ∧ second b = .ok j ∧ third c = .ok k ∧ payload = layout i j k
  injective : ∀ i j k i' j' k', layout i j k = layout i' j' k' → i = i' ∧ j = j' ∧ k = k'

variable {layout : Int32 → Int32 → Int32 → Bytes}

/-- One number after another is packed with fallbacks in the place of the others. -/
theorem ThreeFields.single_iff {pack : D → D → D → Parsed Bytes}
    {first second third : D → Parsed Int32} (hfields : ThreeFields x pack first second third layout)
    {a b c a₀ b₀ c₀ : D} {payload : Bytes} (ha₀ : Parser.IsNumber (x.text a₀))
    (hb₀ : Parser.IsNumber (x.text b₀)) (hc₀ : Parser.IsNumber (x.text c₀))
    (hpayload : pack a b c = .ok payload) :
    (pack a b₀ c₀ = .ok payload ∧ pack a₀ b c₀ = .ok payload ∧ pack a₀ b₀ c = .ok payload) ↔
      first a = first a₀ ∧ second b = second b₀ ∧ third c = third c₀ := by
  obtain ⟨⟨ha, hb, hc⟩, i, j, k, hi, hj, hk, rfl⟩ := (hfields.packed a b c payload).mp hpayload
  constructor
  · rintro ⟨honly, honly', -⟩
    obtain ⟨-, i₁, j₁, k₁, -, hj₁, hk₁, hlayout⟩ := (hfields.packed a b₀ c₀ _).mp honly
    obtain ⟨-, i₂, j₂, k₂, hi₂, -, -, hlayout'⟩ := (hfields.packed a₀ b c₀ _).mp honly'
    obtain ⟨-, rfl, rfl⟩ := hfields.injective _ _ _ _ _ _ hlayout
    obtain ⟨rfl, -, -⟩ := hfields.injective _ _ _ _ _ _ hlayout'
    exact ⟨hi.trans hi₂.symm, hj.trans hj₁.symm, hk.trans hk₁.symm⟩
  · rintro ⟨hfirst, hsecond, hthird⟩
    refine ⟨?_, ?_, ?_⟩
    · exact (hfields.packed _ _ _ _).mpr
        ⟨⟨ha, hb₀, hc₀⟩, i, j, k, hi, hsecond ▸ hj, hthird ▸ hk, rfl⟩
    · exact (hfields.packed _ _ _ _).mpr
        ⟨⟨ha₀, hb, hc₀⟩, i, j, k, hfirst ▸ hi, hj, hthird ▸ hk, rfl⟩
    · exact (hfields.packed _ _ _ _).mpr
        ⟨⟨ha₀, hb₀, hc⟩, i, j, k, hfirst ▸ hi, hsecond ▸ hj, hk, rfl⟩

theorem le32_inj {left right : UInt32} : le32 left = le32 right ↔ left = right := by
  constructor
  · intro hsame
    have hword : word32 (le32 left ++ []) 0 = word32 (le32 right ++ []) 0 := by rw [hsame]
    rwa [word32_le32, word32_le32] at hword
  · exact congrArg le32

theorem le32Signed_inj {left right : Int32} : le32Signed left = le32Signed right ↔ left = right := by
  rw [le32Signed, le32Signed, le32_inj]
  constructor
  · intro hsame
    cases left
    cases right
    exact congrArg Int32.ofUInt32 hsame
  · exact congrArg Int32.toUInt32

/-! ### Delay lines -/

def packDelayDoubles (delayMs maxDelayMs rampMs : D) : Parsed Bytes :=
  parseText (delayLineText x delayMs maxDelayMs rampMs) >>= packDelayLine x

def delayLayout (delay maxDelay ramp : Int32) : Bytes :=
  le32Signed maxDelay ++ le32Signed ramp ++ le32Signed 2 ++ (le32Signed delay ++ le32Signed delay)

def delayMembers (delayMs maxDelayMs rampMs : D) : List (String × JsonValue) :=
  [("max_delay_ms", .number (x.text maxDelayMs)), ("ramp_ms", .number (x.text rampMs)),
    ("channels", .number (asciiBytes "2")),
    ("per_channel_ms", .array [.number (x.text delayMs), .number (x.text delayMs)])]

theorem delayLineText_eq (delayMs maxDelayMs rampMs : D) :
    delayLineText x delayMs maxDelayMs rampMs =
      (recordValue (delayMembers x delayMs maxDelayMs rampMs)).dump := by
  rw [← recordText_dump (by simp only [delayMembers, List.map_cons, List.map_nil]; decide)]
  simp only [delayMembers, List.map_cons, List.map_nil, ← listText_dump]
  rfl

theorem delayValues_pair {object : JsonValue} {scalar : Bytes}
    (hmember : object.member (asciiBytes "per_channel_ms") =
      some (.array [.number scalar, .number scalar])) :
    delayValues x object 2 = (delayEntry x (.number scalar)).map fun delay => [delay, delay] := by
  rw [delayValues, requiredArray, hmember, Option.isSome_some, if_pos rfl]
  change ([JsonValue.number scalar, .number scalar].mapM (delayEntry x) >>= _) = _
  rw [List.mapM_cons, List.mapM_cons, List.mapM_nil]
  cases delayEntry x (.number scalar) with
  | error fault => rfl
  | ok delay => rfl

theorem packDelayLine_document (delayMs maxDelayMs rampMs : D) :
    packDelayLine x (recordValue (delayMembers x delayMs maxDelayMs rampMs)).asRead = do
      let delay ← delayField x delayMs
      let maxDelay ← wholeField x maxDelayMs
      let ramp ← wholeField x rampMs
      return delayLayout delay maxDelay ramp := by
  have hdistinct : Distinct ((delayMembers x delayMs maxDelayMs rampMs).map Prod.fst) := by
    simp only [delayMembers, List.map_cons, List.map_nil]
    decide
  have hmax := member_at hdistinct 0 rfl
  have hramp := member_at hdistinct 1 rfl
  have hchannels := member_at hdistinct 2 rfl
  have hdelays := member_at hdistinct 3 rfl
  rw [packDelayLine, int32Any_number hchannels, int32Any_number hmax, int32Any_number hramp,
    show int64Value (.number (asciiBytes "2")) = .ok 2 by decide]
  change (delayValues x _ 2 >>= _) = _
  rw [delayValues_pair x hdelays]
  change _ = delayEntry x (.number (x.text delayMs)) >>= _
  cases delayEntry x (.number (x.text delayMs)) with
  | error fault => rfl
  | ok delay => rfl

theorem number_readable (hprint : PrintsNumbers x) (value : D) :
    (JsonValue.number (x.text value)).Spelled ∨
      Parser.Unreadable (JsonValue.number (x.text value)).dump :=
  (hprint.text value).imp id Parser.unreadable_nonFinite

theorem number_unreadable (hprint : PrintsNumbers x) {value : D}
    (hvalue : ¬ Parser.IsNumber (x.text value)) :
    Parser.Unreadable (JsonValue.number (x.text value)).dump :=
  (number_readable x hprint value).resolve_left hvalue

theorem pair_unreadable (hprint : PrintsNumbers x) {value : D}
    (hvalue : ¬ Parser.IsNumber (x.text value)) (items : List JsonValue) :
    Parser.Unreadable (JsonValue.array (.number (x.text value) :: items)).dump := by
  refine Parser.unreadable_array items ?_ (number_unreadable x hprint hvalue)
  have htext := (hprint.text value).resolve_left hvalue
  rw [JsonValue.dump]
  simp only [List.map_cons, List.map_nil, List.mem_cons, List.not_mem_nil, or_false] at htext
  rcases htext with htext | htext | htext | htext
  all_goals
    rw [htext]
    exact ⟨_, _, rfl, by decide⟩

theorem bind_three {first second third : Parsed Int32} {payload : Bytes} :
    (do let i ← first
        let j ← second
        let k ← third
        return layout i j k) = .ok payload ↔
      ∃ i j k, first = .ok i ∧ second = .ok j ∧ third = .ok k ∧ payload = layout i j k := by
  constructor
  · intro hok
    cases first with
    | error fault => cases hok
    | ok i =>
        cases second with
        | error fault => cases hok
        | ok j =>
            cases third with
            | error fault => cases hok
            | ok k =>
                cases hok
                exact ⟨i, j, k, rfl, rfl, rfl, rfl⟩
  · rintro ⟨i, j, k, rfl, rfl, rfl, rfl⟩
    rfl

/-- A document is packed if its numbers are numbers. -/
theorem packed_iff {members : List (String × JsonValue)} {numbers : Prop}
    {pack : JsonValue → Parsed Bytes} {first second third : Parsed Int32}
    {payload : Bytes}
    (hspelled : numbers → (recordValue members).Spelled)
    (hunreadable : ¬ numbers → ∃ fault, parseJson (recordValue members).dump = .error fault)
    (hpack : pack (recordValue members).asRead = do
      let i ← first
      let j ← second
      let k ← third
      return layout i j k) :
    (parseText (recordValue members).dump >>= pack) = .ok payload ↔
      numbers ∧ ∃ i j k, first = .ok i ∧ second = .ok j ∧ third = .ok k ∧
        payload = layout i j k := by
  by_cases hnumbers : numbers
  · rw [parseText_spelled (hspelled hnumbers), and_iff_right hnumbers]
    change pack _ = _ ↔ _
    rw [hpack]
    exact bind_three
  · obtain ⟨fault, hfault⟩ := hunreadable hnumbers
    rw [parseText, hfault]
    exact iff_of_false (by rintro ⟨⟩) fun hfields => hnumbers hfields.1

theorem delayMembers_spelled {delayMs maxDelayMs rampMs : D}
    (hdelay : Parser.IsNumber (x.text delayMs)) (hmax : Parser.IsNumber (x.text maxDelayMs))
    (hramp : Parser.IsNumber (x.text rampMs)) :
    (recordValue (delayMembers x delayMs maxDelayMs rampMs)).Spelled := by
  have htwo : Parser.IsNumber (asciiBytes "2") := Parser.isNumber_decimalText 2
  apply recordValue_spelled
  simp [delayMembers, JsonValue.Spelled, SpelledItems, hdelay, hmax, hramp, htwo]

theorem delayMembers_unreadable (hprint : PrintsNumbers x) {delayMs maxDelayMs rampMs : D}
    (hnot : ¬ (Parser.IsNumber (x.text delayMs) ∧ Parser.IsNumber (x.text maxDelayMs) ∧
      Parser.IsNumber (x.text rampMs))) :
    ∃ fault, parseJson (recordValue (delayMembers x delayMs maxDelayMs rampMs)).dump =
      .error fault := by
  have htwo : Parser.IsNumber (asciiBytes "2") := Parser.isNumber_decimalText 2
  have hpair : (JsonValue.array [.number (x.text delayMs), .number (x.text delayMs)]).Spelled ∨
      Parser.Unreadable
        (JsonValue.array [.number (x.text delayMs), .number (x.text delayMs)]).dump := by
    by_cases hdelay : Parser.IsNumber (x.text delayMs)
    · exact Or.inl ⟨hdelay, hdelay, trivial⟩
    · exact Or.inr (pair_unreadable x hprint hdelay _)
  apply parseJson_unreadable
  · simp only [delayMembers, List.forall_mem_cons]
    exact ⟨number_readable x hprint maxDelayMs, number_readable x hprint rampMs, Or.inl htwo, hpair,
      List.forall_mem_nil _⟩
  · by_cases hdelay : Parser.IsNumber (x.text delayMs)
    · by_cases hmax : Parser.IsNumber (x.text maxDelayMs)
      · have hramp : ¬ Parser.IsNumber (x.text rampMs) := fun hramp => hnot ⟨hdelay, hmax, hramp⟩
        exact ⟨_, List.mem_cons_of_mem _ List.mem_cons_self, number_unreadable x hprint hramp⟩
      · exact ⟨_, List.mem_cons_self, number_unreadable x hprint hmax⟩
    · exact ⟨_, List.mem_cons_of_mem _ (List.mem_cons_of_mem _ (List.mem_cons_of_mem _
        List.mem_cons_self)), pair_unreadable x hprint hdelay _⟩

theorem delay_fields (hprint : PrintsNumbers x) :
    ThreeFields x (packDelayDoubles x) (delayField x) (wholeField x) (wholeField x)
      delayLayout where
  packed := by
    intro delayMs maxDelayMs rampMs payload
    rw [packDelayDoubles, delayLineText_eq]
    exact packed_iff (fun hnumbers => delayMembers_spelled x hnumbers.1 hnumbers.2.1 hnumbers.2.2)
      (delayMembers_unreadable x hprint) (packDelayLine_document x delayMs maxDelayMs rampMs)
  injective := by
    intro i j k i' j' k' hsame
    obtain ⟨hheader, hdelays⟩ := List.append_inj' hsame rfl
    obtain ⟨hdelay, -⟩ := List.append_inj' hdelays rfl
    obtain ⟨hnumbers, -⟩ := List.append_inj' hheader rfl
    obtain ⟨hmax, hramp⟩ := List.append_inj' hnumbers rfl
    exact ⟨le32Signed_inj.mp hdelay, le32Signed_inj.mp hmax, le32Signed_inj.mp hramp⟩

/-! ### Faders -/

def packFaderDoubles (fader balance rampMs : D) : Parsed Bytes :=
  parseText (faderBalanceText x fader balance rampMs) >>= packFaderBalance x

def faderLayout (ramp fader balance : Int32) : Bytes :=
  le32 0 ++ le32Signed ramp ++ le32Signed fader ++ le32Signed balance

def faderMembers (fader balance rampMs : D) : List (String × JsonValue) :=
  [("front_back_weight", .number (x.text fader)), ("left_right_weight", .number (x.text balance)),
    ("ramp", .string (asciiBytes "linear")), ("ramp_ms", .number (x.text rampMs))]

theorem faderBalanceText_eq (fader balance rampMs : D) :
    faderBalanceText x fader balance rampMs =
      (recordValue (faderMembers x fader balance rampMs)).dump := by
  rw [← recordText_dump (by simp only [faderMembers, List.map_cons, List.map_nil]; decide)]
  simp only [faderMembers, List.map_cons, List.map_nil]
  rw [show (JsonValue.string (asciiBytes "linear")).dump = asciiBytes "\"linear\"" by decide]
  rfl

theorem packFaderBalance_document (fader balance rampMs : D) :
    packFaderBalance x (recordValue (faderMembers x fader balance rampMs)).asRead = do
      let ramp ← wholeField x rampMs
      let frontBack ← weightField x fader
      let leftRight ← weightField x balance
      return faderLayout ramp frontBack leftRight := by
  have hdistinct : Distinct ((faderMembers x fader balance rampMs).map Prod.fst) := by
    simp only [faderMembers, List.map_cons, List.map_nil]
    decide
  have hfader := member_at hdistinct 0 rfl
  have hbalance := member_at hdistinct 1 rfl
  have hramp := member_at hdistinct 2 rfl
  have hrampMs := member_at hdistinct 3 rfl
  rw [packFaderBalance, stringValue, hramp, int32Any_number hrampMs, doubleAny_number x hfader,
    doubleAny_number x hbalance]
  change (wholeField x rampMs >>= _) = _
  cases wholeField x rampMs with
  | error fault => rfl
  | ok ramp =>
      rw [weightField, weightField]
      cases asDouble x (.number (x.text fader)) with
      | error fault => rfl
      | ok frontBack =>
          cases asDouble x (.number (x.text balance)) with
          | error fault => rfl
          | ok leftRight => rfl

theorem faderMembers_unreadable (hprint : PrintsNumbers x) {fader balance rampMs : D}
    (hnot : ¬ (Parser.IsNumber (x.text rampMs) ∧ Parser.IsNumber (x.text fader) ∧
      Parser.IsNumber (x.text balance))) :
    ∃ fault, parseJson (recordValue (faderMembers x fader balance rampMs)).dump =
      .error fault := by
  apply parseJson_unreadable
  · simp only [faderMembers, List.forall_mem_cons]
    exact ⟨number_readable x hprint fader, number_readable x hprint balance, Or.inl trivial,
      number_readable x hprint rampMs, List.forall_mem_nil _⟩
  · by_cases hfader : Parser.IsNumber (x.text fader)
    · by_cases hbalance : Parser.IsNumber (x.text balance)
      · have hramp : ¬ Parser.IsNumber (x.text rampMs) := fun hramp => hnot ⟨hramp, hfader, hbalance⟩
        exact ⟨_, List.mem_cons_of_mem _ (List.mem_cons_of_mem _ (List.mem_cons_of_mem _
          List.mem_cons_self)), number_unreadable x hprint hramp⟩
      · exact ⟨_, List.mem_cons_of_mem _ List.mem_cons_self, number_unreadable x hprint hbalance⟩
    · exact ⟨_, List.mem_cons_self, number_unreadable x hprint hfader⟩

theorem fader_fields (hprint : PrintsNumbers x) :
    ThreeFields x (fun rampMs fader balance => packFaderDoubles x fader balance rampMs)
      (wholeField x) (weightField x) (weightField x) faderLayout where
  packed := by
    intro rampMs fader balance payload
    rw [packFaderDoubles, faderBalanceText_eq]
    refine packed_iff ?_ (faderMembers_unreadable x hprint)
      (packFaderBalance_document x fader balance rampMs)
    rintro ⟨hramp, hfader, hbalance⟩
    apply recordValue_spelled
    simp [faderMembers, JsonValue.Spelled, hramp, hfader, hbalance]
  injective := by
    intro i j k i' j' k' hsame
    obtain ⟨hothers, hbalance⟩ := List.append_inj' hsame rfl
    obtain ⟨hramps, hfader⟩ := List.append_inj' hothers rfl
    obtain ⟨-, hramp⟩ := List.append_inj' hramps rfl
    exact ⟨le32Signed_inj.mp hramp, le32Signed_inj.mp hfader, le32Signed_inj.mp hbalance⟩

/-! ## The handler's answers -/

/-- The modules whose parameters are packed one by one. -/
inductive Described where
  | delayLine
  | faderBalance
  | dspFilter
  deriving DecidableEq, Repr

def Described.moduleType : Described → Bytes
  | .delayLine => asciiBytes "delay.line"
  | .faderBalance => asciiBytes "mix.fader_balance"
  | .dspFilter => asciiBytes "filter.dsp_filter"

def Described.parameters : Described → List String
  | .delayLine => ["delay_ms", "max_delay_ms", "ramp_ms"]
  | .faderBalance => ["fader", "balance", "ramp_ms"]
  | .dspFilter => ["filter_preset"]

variable (type : Described) (text : Bytes)

/-- The answer for a parameter of a text of values. -/
def answer (parameterId : String) : Parsed ModuleConfigBlob :=
  packRuntimeParam x type.moduleType
    { moduleType := type.moduleType, parameterId := asciiBytes parameterId, valuesJson := text }

/-- A blob that is sent configures the whole module. -/
def send (state : Option ModuleConfigBlob) (parameterId : String) : Option ModuleConfigBlob :=
  match answer x type text parameterId with
  | .ok blob => some blob
  | .error _ => state

/-- Each parameter's payload is that of the full configuration, and so is what all of them,
sent in any order, leave behind. -/
structure SameState : Prop where
  single : ∀ parameterId ∈ type.parameters,
    answer x type text parameterId = answer x type text "config"
  sent : ∀ order : List String, order.Perm type.parameters → ∀ before,
    order.foldl (send x type text) before = (answer x type text "config").toOption

/-- A value is packed as the fallback of its parameter. -/
def AsFallback (field : D → Parsed Int32) (values : JsonValue) (key literal : String) : Prop :=
  (objectDouble x values key (x.literal literal) >>= field) = field (x.literal literal)

/-- All values are packed as the fallbacks are, or a configuration of its own is packed as the
preset is. -/
def AtFallbacks (values : JsonValue) : Described → Prop
  | .delayLine => AsFallback x (delayField x) values "delay_ms" "0.0" ∧
      AsFallback x (wholeField x) values "max_delay_ms" "250.0" ∧
      AsFallback x (wholeField x) values "ramp_ms" "50.0"
  | .faderBalance => AsFallback x (wholeField x) values "ramp_ms" "50.0" ∧
      AsFallback x (weightField x) values "fader" "0.0" ∧
      AsFallback x (weightField x) values "balance" "0.0"
  | .dspFilter => ∀ config preset, objectValue values "config" = some config →
      values.member (asciiBytes "filter_preset") = some preset →
      (dspFilterPreset preset >>= packDspFilter x) = packDspFilter x config

variable {x type text}

theorem wrapSofAbi_inj {left right : Bytes} (hsame : wrapSofAbi left = wrapSofAbi right) :
    left = right :=
  (List.append_inj hsame rfl).2

variable {blob : ModuleConfigBlob}

theorem sent_of_single {order : List String}
    (hsingle : ∀ parameterId ∈ order, answer x type text parameterId = .ok blob) (hne : order ≠ [])
    (before : Option ModuleConfigBlob) : order.foldl (send x type text) before = some blob := by
  induction order generalizing before with
  | nil => exact absurd rfl hne
  | cons parameterId order ih =>
      have hfirst : send x type text before parameterId = some blob := by
        rw [send, hsingle parameterId List.mem_cons_self]
      rw [List.foldl_cons, hfirst]
      cases order with
      | nil => rfl
      | cons next rest =>
          exact ih (fun other hother => hsingle other (List.mem_cons_of_mem _ hother))
            (List.cons_ne_nil _ _) _

/-- The payload in an answer. -/
theorem answer_ok_iff {parameterId : String} :
    answer x type text parameterId = .ok blob ↔
      text ≠ [] ∧ ∃ values payload, parseText text = .ok values ∧
        packValues x type.moduleType (asciiBytes parameterId) values = .ok payload ∧
        blob = { format := asciiBytes "sof-ipc3-bytes-v1", data := wrapSofAbi payload } := by
  rw [answer, packRuntimeParam_ok_iff, and_iff_right rfl]

theorem member_isObject {values value : JsonValue} {key : Bytes}
    (hmember : values.member key = some value) : values.isObject = true := by
  cases values with
  | object members => rfl
  | null | bool _ | number _ | string _ | array _ => cases hmember

section Given

variable {values : JsonValue} {payload : Bytes}

theorem packValues_config (hobject : values.isObject = true) (moduleType : Bytes) :
    packValues x moduleType (asciiBytes "config") values = packConfig x moduleType values := by
  rw [packValues, hobject, if_neg Bool.noConfusion, if_pos rfl]

theorem packValues_member {parameterId : Bytes} {value : JsonValue}
    (hmember : values.member parameterId = some value) (hother : parameterId ≠ asciiBytes "config")
    (moduleType : Bytes) :
    packValues x moduleType parameterId values = packParam x moduleType parameterId value := by
  rw [packValues, member_isObject hmember, if_neg Bool.noConfusion, if_neg hother, hmember]

/-- With a value for a parameter, its answer is that for all values if its payload is. -/
theorem single_answer_iff {parameterId : String} {value : JsonValue} {blob : ModuleConfigBlob}
    (hparse : parseText text = .ok values) (haccepted : answer x type text "config" = .ok blob)
    (hconfig : packConfig x type.moduleType values = .ok payload)
    (hmember : values.member (asciiBytes parameterId) = some value)
    (hother : asciiBytes parameterId ≠ asciiBytes "config") :
    answer x type text parameterId = answer x type text "config" ↔
      packParam x type.moduleType (asciiBytes parameterId) value = .ok payload := by
  obtain ⟨htext, values', payload', hparse', hpack, hblob⟩ := answer_ok_iff.mp haccepted
  cases hparse.symm.trans hparse'
  rw [packValues_config (member_isObject hmember), hconfig] at hpack
  cases hpack
  rw [haccepted, answer_ok_iff, hparse]
  constructor
  · rintro ⟨-, values', payload', ⟨⟩, hpack, hblob'⟩
    rw [packValues_member hmember hother] at hpack
    rw [hpack, wrapSofAbi_inj (ModuleConfigBlob.mk.inj (hblob.symm.trans hblob')).2]
  · intro hpack
    exact ⟨htext, values, payload, rfl, (packValues_member hmember hother _).trans hpack, hblob⟩

theorem asFallback_iff {field : D → Parsed Int32} {key literal : String} {value : D}
    (hvalue : objectDouble x values key (x.literal literal) = .ok value) :
    AsFallback x field values key literal ↔ field value = field (x.literal literal) := by
  rw [AsFallback, hvalue]
  exact Iff.rfl

theorem paramDouble_self {key literal : String} {held : JsonValue} {value : D}
    (hmember : values.member (asciiBytes key) = some held)
    (hvalue : objectDouble x values key (x.literal literal) = .ok value) :
    paramDouble x (asciiBytes key) held key literal = .ok value := by
  rw [paramDouble, if_pos rfl, ← objectDouble_of_member x hmember, hvalue]

theorem paramDouble_of_ne {parameterId : Bytes} {key : String} (hne : parameterId ≠ asciiBytes key)
    (held : JsonValue) (literal : String) :
    paramDouble x parameterId held key literal = .ok (x.literal literal) :=
  if_neg hne

theorem packParam_delayLine (parameterId : Bytes) (value : JsonValue) :
    packParam x Described.delayLine.moduleType parameterId value =
      (delayLineParam x parameterId value >>= packDelayLine x) := by
  rw [packParam, if_neg (by decide), if_pos (by decide)]

theorem delay_single_iff (hprint : PrintsNumbers x)
    (hparse : parseText text = .ok values)
    (hgiven : ∀ parameterId ∈ Described.delayLine.parameters,
      ∃ value, values.member (asciiBytes parameterId) = some value)
    (haccepted : answer x .delayLine text "config" = .ok blob) :
    (∀ parameterId ∈ Described.delayLine.parameters,
        answer x .delayLine text parameterId = answer x .delayLine text "config") ↔
      AtFallbacks x values .delayLine := by
  obtain ⟨delay, hdelay⟩ := hgiven "delay_ms" (by decide)
  obtain ⟨maxDelay, hmax⟩ := hgiven "max_delay_ms" (by decide)
  obtain ⟨ramp, hramp⟩ := hgiven "ramp_ms" (by decide)
  obtain ⟨-, values', payload, hparse', hconfig, -⟩ := answer_ok_iff.mp haccepted
  cases hparse.symm.trans hparse'
  rw [packValues_config (member_isObject hdelay)] at hconfig
  have hpayload := hconfig
  rw [packConfig, if_neg (by decide), if_pos (by decide), delayLineConfig] at hpayload
  simp only [bind_assoc] at hpayload
  obtain ⟨a, ha, hpayload⟩ := bind_eq_ok hpayload
  obtain ⟨b, hb, hpayload⟩ := bind_eq_ok hpayload
  obtain ⟨c, hc, hpayload⟩ := bind_eq_ok hpayload
  have hfirst : packParam x Described.delayLine.moduleType (asciiBytes "delay_ms") delay =
      packDelayDoubles x a (x.literal "250.0") (x.literal "50.0") := by
    rw [packParam_delayLine, delayLineParam, paramDouble_self hdelay ha,
      paramDouble_of_ne (by decide), paramDouble_of_ne (by decide)]
    rfl
  have hsecond : packParam x Described.delayLine.moduleType (asciiBytes "max_delay_ms") maxDelay =
      packDelayDoubles x (x.literal "0.0") b (x.literal "50.0") := by
    rw [packParam_delayLine, delayLineParam, paramDouble_self hmax hb,
      paramDouble_of_ne (by decide), paramDouble_of_ne (by decide)]
    rfl
  have hthird : packParam x Described.delayLine.moduleType (asciiBytes "ramp_ms") ramp =
      packDelayDoubles x (x.literal "0.0") (x.literal "250.0") c := by
    rw [packParam_delayLine, delayLineParam, paramDouble_self hramp hc,
      paramDouble_of_ne (by decide), paramDouble_of_ne (by decide)]
    rfl
  have hanswers := (delay_fields x hprint).single_iff x (hprint.literal "0.0" (by decide))
    (hprint.literal "250.0" (by decide)) (hprint.literal "50.0" (by decide)) hpayload
  rw [← hfirst, ← hsecond, ← hthird] at hanswers
  simp only [Described.parameters, List.forall_mem_cons]
  rw [single_answer_iff hparse haccepted hconfig hdelay (by decide),
    single_answer_iff hparse haccepted hconfig hmax (by decide),
    single_answer_iff hparse haccepted hconfig hramp (by decide), AtFallbacks,
    asFallback_iff ha, asFallback_iff hb, asFallback_iff hc, and_iff_left (List.forall_mem_nil _)]
  exact hanswers

theorem packParam_faderBalance (parameterId : Bytes) (value : JsonValue) :
    packParam x Described.faderBalance.moduleType parameterId value =
      (faderBalanceParam x parameterId value >>= packFaderBalance x) := by
  rw [packParam, if_neg (by decide), if_neg (by decide), if_pos (by decide)]

theorem fader_single_iff (hprint : PrintsNumbers x)
    (hparse : parseText text = .ok values)
    (hgiven : ∀ parameterId ∈ Described.faderBalance.parameters,
      ∃ value, values.member (asciiBytes parameterId) = some value)
    (haccepted : answer x .faderBalance text "config" = .ok blob) :
    (∀ parameterId ∈ Described.faderBalance.parameters,
        answer x .faderBalance text parameterId = answer x .faderBalance text "config") ↔
      AtFallbacks x values .faderBalance := by
  obtain ⟨fader, hfader⟩ := hgiven "fader" (by decide)
  obtain ⟨balance, hbalance⟩ := hgiven "balance" (by decide)
  obtain ⟨ramp, hramp⟩ := hgiven "ramp_ms" (by decide)
  obtain ⟨-, values', payload, hparse', hconfig, -⟩ := answer_ok_iff.mp haccepted
  cases hparse.symm.trans hparse'
  rw [packValues_config (member_isObject hfader)] at hconfig
  have hpayload := hconfig
  rw [packConfig, if_neg (by decide), if_neg (by decide),
    if_pos (by decide), faderBalanceConfig] at hpayload
  simp only [bind_assoc] at hpayload
  obtain ⟨a, ha, hpayload⟩ := bind_eq_ok hpayload
  obtain ⟨b, hb, hpayload⟩ := bind_eq_ok hpayload
  obtain ⟨c, hc, hpayload⟩ := bind_eq_ok hpayload
  have hfirst : packParam x Described.faderBalance.moduleType (asciiBytes "fader") fader =
      packFaderDoubles x a (x.literal "0.0") (x.literal "50.0") := by
    rw [packParam_faderBalance, faderBalanceParam, paramDouble_self hfader ha,
      paramDouble_of_ne (by decide), paramDouble_of_ne (by decide)]
    rfl
  have hsecond : packParam x Described.faderBalance.moduleType (asciiBytes "balance") balance =
      packFaderDoubles x (x.literal "0.0") b (x.literal "50.0") := by
    rw [packParam_faderBalance, faderBalanceParam, paramDouble_self hbalance hb,
      paramDouble_of_ne (by decide), paramDouble_of_ne (by decide)]
    rfl
  have hthird : packParam x Described.faderBalance.moduleType (asciiBytes "ramp_ms") ramp =
      packFaderDoubles x (x.literal "0.0") (x.literal "0.0") c := by
    rw [packParam_faderBalance, faderBalanceParam, paramDouble_self hramp hc,
      paramDouble_of_ne (by decide), paramDouble_of_ne (by decide)]
    rfl
  have hanswers := (fader_fields x hprint).single_iff x (hprint.literal "50.0" (by decide))
    (hprint.literal "0.0" (by decide)) (hprint.literal "0.0" (by decide)) hpayload
  rw [← hfirst, ← hsecond, ← hthird] at hanswers
  simp only [Described.parameters, List.forall_mem_cons]
  rw [single_answer_iff hparse haccepted hconfig hfader (by decide),
    single_answer_iff hparse haccepted hconfig hbalance (by decide),
    single_answer_iff hparse haccepted hconfig hramp (by decide), AtFallbacks,
    asFallback_iff ha, asFallback_iff hb, asFallback_iff hc, and_iff_left (List.forall_mem_nil _),
    ← hanswers]
  exact ⟨fun ⟨hfader, hbalance, hramp⟩ => ⟨hramp, hfader, hbalance⟩,
    fun ⟨hramp, hfader, hbalance⟩ => ⟨hfader, hbalance, hramp⟩⟩

theorem packParam_dspFilter (parameterId : Bytes) (value : JsonValue) :
    packParam x Described.dspFilter.moduleType parameterId value =
      (dspFilterPreset value >>= packDspFilter x) := by
  rw [packParam, if_neg (by decide), if_neg (by decide),
    if_neg (by decide), if_pos (by decide)]

theorem dspFilterConfig_preset {preset : JsonValue} (hconfig : objectValue values "config" = none)
    (hpreset : values.member (asciiBytes "filter_preset") = some preset) :
    dspFilterConfig values = dspFilterPreset preset := by
  rw [dspFilterConfig, hconfig, objectValue, hpreset]
  cases preset with
  | null => rfl
  | bool flag => rfl
  | number scalar => rfl
  | string text => rfl
  | array items => rfl
  | object members => rfl

theorem filter_single_iff (hparse : parseText text = .ok values)
    (hgiven : ∀ parameterId ∈ Described.dspFilter.parameters,
      ∃ value, values.member (asciiBytes parameterId) = some value)
    (haccepted : answer x .dspFilter text "config" = .ok blob) :
    (∀ parameterId ∈ Described.dspFilter.parameters,
        answer x .dspFilter text parameterId = answer x .dspFilter text "config") ↔
      AtFallbacks x values .dspFilter := by
  obtain ⟨preset, hpreset⟩ := hgiven "filter_preset" (by decide)
  obtain ⟨-, values', payload, hparse', hconfig, -⟩ := answer_ok_iff.mp haccepted
  cases hparse.symm.trans hparse'
  rw [packValues_config (member_isObject hpreset)] at hconfig
  have hpayload := hconfig
  rw [packConfig, if_neg (by decide), if_neg (by decide),
    if_neg (by decide), if_pos (by decide)] at hpayload
  simp only [Described.parameters, List.forall_mem_singleton]
  rw [single_answer_iff hparse haccepted hconfig hpreset (by decide), packParam_dspFilter]
  cases hown : objectValue values "config" with
  | none =>
      rw [dspFilterConfig_preset hown hpreset] at hpayload
      refine iff_of_true hpayload ?_
      intro config preset' hconfig'
      rw [hown] at hconfig'
      cases hconfig'
  | some config =>
      rw [dspFilterConfig, hown] at hpayload
      have hpayload : packDspFilter x config = .ok payload := hpayload
      constructor
      · intro hsame config' preset' hconfig' hpreset'
        rw [hown] at hconfig'
        rw [hpreset] at hpreset'
        cases hconfig'
        cases hpreset'
        exact hsame.trans hpayload.symm
      · intro hsame
        exact (hsame config preset hown hpreset).trans hpayload

end Given

/-- One parameter's payload is the full configuration of all values, for all parameters, exactly
if the values are packed as the fallbacks are. -/
theorem single_payloads_iff (hprint : PrintsNumbers x) {values : JsonValue}
    {blob : ModuleConfigBlob} (hparse : parseText text = .ok values)
    (hgiven : ∀ parameterId ∈ type.parameters,
      ∃ value, values.member (asciiBytes parameterId) = some value)
    (haccepted : answer x type text "config" = .ok blob) :
    SameState x type text ↔ AtFallbacks x values type := by
  have hsingle : (∀ parameterId ∈ type.parameters,
      answer x type text parameterId = answer x type text "config") ↔ AtFallbacks x values type := by
    cases type with
    | delayLine => exact delay_single_iff hprint hparse hgiven haccepted
    | faderBalance => exact fader_single_iff hprint hparse hgiven haccepted
    | dspFilter => exact filter_single_iff hparse hgiven haccepted
  constructor
  · intro hsame
    exact hsingle.mp hsame.single
  · intro hfallbacks
    have hall := hsingle.mpr hfallbacks
    refine ⟨hall, ?_⟩
    intro order horder before
    rw [haccepted]
    apply sent_of_single
    · intro parameterId hparameter
      rw [hall parameterId (horder.mem_iff.mp hparameter), haccepted]
    · rintro rfl
      have hempty := horder.symm.eq_nil
      cases type with
      | delayLine => cases hempty
      | faderBalance => cases hempty
      | dspFilter => cases hempty

end Three

/-! ## A delay of whole milliseconds -/

theorem isNumber_intText (value : Int) : Parser.IsNumber (intText value) := by
  rw [intText]
  split
  · exact ⟨asciiBytes "-", decimalText value.natAbs, [], [], Or.inr rfl,
      Parser.isInteger_decimalText value.natAbs, Or.inl rfl, Or.inl rfl, by simp⟩
  · exact Parser.isNumber_decimalText value.natAbs

theorem wholeDoubles_prints : PrintsNumbers wholeDoubles :=
  ⟨fun value => Or.inl (isNumber_intText value), fun _ _ => isNumber_intText _⟩

/-- The values of a delay line whose other parameters are the fallbacks. -/
def delayedMembers (delayMs : String) : List (String × JsonValue) :=
  [("delay_ms", .number (asciiBytes delayMs)), ("max_delay_ms", .number (asciiBytes "250")),
    ("ramp_ms", .number (asciiBytes "50"))]

def delayedText (delayMs : String) : Bytes :=
  (recordValue (delayedMembers delayMs)).dump

theorem delayedText_read {delayMs : String} (hdelay : Parser.IsNumber (asciiBytes delayMs)) :
    parseText (delayedText delayMs) = .ok (document (delayedMembers delayMs)) := by
  have hmax : Parser.IsNumber (asciiBytes "250") := by
    rw [show asciiBytes "250" = decimalText 250 by decide +kernel]
    exact Parser.isNumber_decimalText 250
  have hramp : Parser.IsNumber (asciiBytes "50") := by
    rw [show asciiBytes "50" = decimalText 50 by decide +kernel]
    exact Parser.isNumber_decimalText 50
  apply parseText_spelled
  apply recordValue_spelled
  simp [delayedMembers, JsonValue.Spelled, hdelay, hmax, hramp]

/-- The payload of the ramp, sent by itself, takes a delay of ten milliseconds away. -/
theorem ramp_resets_delay :
    parseText (delayedText "10") = .ok (document (delayedMembers "10")) ∧
      (∀ parameterId ∈ Described.delayLine.parameters,
        ((document (delayedMembers "10")).member (asciiBytes parameterId)).isSome = true) ∧
      answer wholeDoubles .delayLine (delayedText "10") "config" =
        .ok { format := asciiBytes "sof-ipc3-bytes-v1", data := wrapSofAbi (delayLayout 10 250 50) } ∧
      ¬ SameState wholeDoubles .delayLine (delayedText "10") := by
  have hten : Parser.IsNumber (asciiBytes "10") := by
    rw [show asciiBytes "10" = decimalText 10 by decide +kernel]
    exact Parser.isNumber_decimalText 10
  refine ⟨delayedText_read hten, by decide +kernel, by decide +kernel, ?_⟩
  intro hsame
  have hramp := hsame.single "ramp_ms" (by decide)
  revert hramp
  decide +kernel

theorem no_delay_same_state : SameState wholeDoubles .delayLine (delayedText "0") := by
  have hgiven : ∀ parameterId ∈ Described.delayLine.parameters,
      ∃ value, (document (delayedMembers "0")).member (asciiBytes parameterId) = some value := by
    intro parameterId hparameter
    apply Option.isSome_iff_exists.mp
    revert parameterId
    decide +kernel
  have haccepted : answer wholeDoubles .delayLine (delayedText "0") "config" =
      .ok { format := asciiBytes "sof-ipc3-bytes-v1", data := wrapSofAbi (delayLayout 0 250 50) } := by
    decide +kernel
  have hzero : Parser.IsNumber (asciiBytes "0") := Parser.isNumber_decimalText 0
  have hparse := delayedText_read hzero
  apply (single_payloads_iff wholeDoubles_prints hparse hgiven haccepted).mpr
  simp only [AtFallbacks, AsFallback]
  decide +kernel

end AudioStudio.Config.SofBasic
