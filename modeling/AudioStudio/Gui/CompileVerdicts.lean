import AudioStudio.Config.Compile
import AudioStudio.Gui.WrittenTexts

/-!
# Verdicts of the compiler

The response of the server to `config.compile`, as `JsonRpcEndpoint` writes it, and what
`parseConfigCompileResponse` of `project_orchestration.cpp` makes of it by searching its text.
-/

namespace AudioStudio.Gui

open AudioStudio.Config (ConfigCompileOutput)
open AudioStudio.LittleEndian
open AudioStudio.Rpc
open AudioStudio.Rpc.JsonRpcEndpoint

/-! ## The server -/

/-- A count, as it is cast to `uint32_t`. -/
def countValue (count : Nat) : JsonValue := .number (decimalText (count % 2 ^ 32))

/-- The assignments of `compileOutputJson` in their order. -/
def compileOutputFields (output : ConfigCompileOutput) : List (String × JsonValue) :=
  [("ok", .bool output.ok),
    ("tplg_built", .bool output.tplgBuilt),
    ("tplg_decoded", .bool output.tplgDecoded),
    ("conf_path", .string output.confPath),
    ("tplg_path", .string output.tplgPath),
    ("private_bin_path", .string output.privateBinPath),
    ("ids_header_path", .string output.idsHeaderPath),
    ("private_header_path", .string output.privateHeaderPath),
    ("preset_header_path", .string output.presetHeaderPath),
    ("controls_csv_path", .string output.controlsCsvPath),
    ("report_path", .string output.reportPath),
    ("alsatplg_log_path", .string output.alsatplgLogPath),
    ("tplg_decode_conf_path", .string output.tplgDecodeConfPath),
    ("tplg_decode_log_path", .string output.tplgDecodeLogPath),
    ("module_type_count", countValue output.moduleTypeCount),
    ("module_instance_count", countValue output.moduleInstanceCount),
    ("pipeline_count", countValue output.pipelineCount),
    ("runtime_control_count", countValue output.runtimeControlCount),
    ("install_param_count", countValue output.installParamCount),
    ("preset_count", countValue output.presetCount),
    ("plugin_count", countValue output.pluginCount),
    ("warnings", .array (output.warnings.map .string))]

def compileOutputJson (output : ConfigCompileOutput) : JsonValue :=
  .object ((compileOutputFields output).foldl
    (fun members field => assign (asciiBytes field.1) field.2 members) [])

/-- The request that the GUI sends, with its parameters. -/
def compileRequest (params : JsonValue) : JsonValue :=
  .object (assign (asciiBytes "params") params
    (assign (asciiBytes "method") (.ofText "config.compile")
      (assign (asciiBytes "id") (.number (asciiBytes "1"))
        (assign (asciiBytes "jsonrpc") (.ofText "2.0") []))))

/-- The response text for what `compileConfig` gives or throws. -/
def compileResponse (params : JsonValue) (outcome : Except Thrown ConfigCompileOutput) : Bytes :=
  ((settle (compileRequest params) (outcome.map compileOutputJson)).map JsonValue.dump).getD []

theorem checkRequest_compile (members : JsonMembers) :
    checkRequest (compileRequest (.object members)) =
      .ok (asciiBytes "config.compile", .object members) := by
  have hid : (compileRequest (.object members)).member (asciiBytes "id") =
    some (.number (asciiBytes "1")) := rfl
  have hversion : (compileRequest (.object members)).member (asciiBytes "jsonrpc") =
    some (.ofText "2.0") := rfl
  have hmethod : (compileRequest (.object members)).member (asciiBytes "method") =
    some (.ofText "config.compile") := rfl
  have hparams : requestParams (compileRequest (.object members)) = some (.object members) := rfl
  have hobject : (compileRequest (.object members)).isObject = true := rfl
  rw [checkRequest, hobject, if_neg (by decide), hversion, if_neg (by decide), hmethod]
  dsimp only [JsonValue.ofText]
  rw [hid, if_neg (by decide), hparams]

/-- The response is the one that the endpoint gives to the request. -/
theorem handleSingleRequest_compile {σ : Type} (endpoint : JsonRpcEndpoint σ)
    (members : JsonMembers) :
    endpoint.handleSingleRequest (compileRequest (.object members)) = (do
      let outcome ← endpoint.invoke (asciiBytes "config.compile") (.object members)
      return settle (compileRequest (.object members)) outcome) := by
  rw [handleSingleRequest, checkRequest_compile]

/-! ## The GUI -/

structure GuiConfigCompileResult where
  ok : Bool := false
  tplgPath : Bytes := []
  message : Bytes := []
  diagnostics : List Bytes := []
  deriving DecidableEq, Repr

/-- The end of `parseConfigCompileResponse`, with a result. -/
def parseResultJson (resultJson : Bytes) : GuiConfigCompileResult :=
  let ok := (findText (asciiBytes "\"ok\":true") resultJson).isSome
  let tplgPath := ProjectOrchestration.simpleJsonStringField resultJson (asciiBytes "tplg_path") []
  let warnings := simpleJsonStringArrayField resultJson (asciiBytes "warnings")
  let accepted := ok && decide (tplgPath ≠ [])
  { ok := accepted
    tplgPath
    message :=
      if ok = false then asciiBytes "as_server config.compile returned ok=false"
      else if tplgPath = [] then asciiBytes "as_server config.compile did not return tplg_path"
      else asciiBytes "as_server config.compile succeeded"
    diagnostics := if accepted = false ∧ warnings = [] then [resultJson] else warnings }

def noMessage : Bytes := asciiBytes "as_server config.compile returned error"

/-- `parseConfigCompileResponse` from the first brace on. -/
def parseJsonResponse (jsonResponse : Bytes) : GuiConfigCompileResult :=
  let errorJson := jsonMemberValue jsonResponse (asciiBytes "error")
  if errorJson ≠ [] then
    { message :=
        ProjectOrchestration.simpleJsonStringField errorJson (asciiBytes "message") noMessage
      diagnostics := [errorJson] }
  else
    let resultJson := jsonMemberValue jsonResponse (asciiBytes "result")
    if resultJson = [] then
      { message := asciiBytes "invalid as_server config.compile response: missing result"
        diagnostics := [jsonResponse] }
    else parseResultJson resultJson

def parseConfigCompileResponse (response : Bytes) : GuiConfigCompileResult :=
  match response.findIdx? (· = ascii '{') with
  | none =>
      { message := asciiBytes "invalid as_server config.compile response: missing JSON object"
        diagnostics := if response = [] then [] else [response] }
  | some jsonBegin => parseJsonResponse (response.drop jsonBegin)

/-! ## What is to be reported -/

def serverCode : Thrown → Int
  | .rpc code _ => code
  | .standard _ | .other => JsonRpcErrorCode.kInternalError.numeric

/-- The message of the error that the server answers with. -/
def serverMessage : Thrown → Bytes
  | .rpc _ message => message
  | .standard what => asciiBytes "internal error: " ++ what
  | .other => asciiBytes "internal error"

/-- The verdict with the path, and the warnings or the error message. -/
def Reports (outcome : Except Thrown ConfigCompileOutput) (result : GuiConfigCompileResult) :
    Prop :=
  match outcome with
  | .ok output =>
      (result.ok = true ↔ output.ok = true ∧ output.tplgPath ≠ []) ∧
        result.tplgPath = output.tplgPath ∧
          (result.ok = true ∨ output.warnings ≠ [] → result.diagnostics = output.warnings)
  | .error thrown => result.ok = false ∧ result.message = serverMessage thrown

/-- The paths of the output but the one of the topology. -/
def otherPaths (output : ConfigCompileOutput) : List Bytes :=
  [output.alsatplgLogPath, output.confPath, output.controlsCsvPath, output.idsHeaderPath,
    output.presetHeaderPath, output.privateBinPath, output.privateHeaderPath, output.reportPath,
    output.tplgDecodeConfPath, output.tplgDecodeLogPath]

/-- No path or warning is taken for a name that is searched for behind it. -/
structure NamesApart (output : ConfigCompileOutput) : Prop where
  error : ∀ text ∈ otherPaths output ++ output.tplgPath :: output.warnings,
    ¬Spells (asciiBytes "error") text
  tplgPath : ∀ path ∈ otherPaths output, ¬Spells (asciiBytes "tplg_path") path
  warnings : ∀ path ∈ otherPaths output ++ [output.tplgPath], ¬Spells (asciiBytes "warnings") path

def Apart : Except Thrown ConfigCompileOutput → Prop
  | .ok output => NamesApart output
  | .error _ => True

/-- No character is written in a form that is lost with its backslash. -/
def Printable (text : Bytes) : Prop := ∀ c ∈ text, 0x20 ≤ c

def ReadableOutcome : Except Thrown ConfigCompileOutput → Prop
  | .ok output => ∀ text ∈ output.tplgPath :: output.warnings, Printable text
  | .error thrown => serverMessage thrown ≠ [] ∧ Printable (serverMessage thrown)

/-! ## The members of the response -/

section Members

variable (output : ConfigCompileOutput)

def membersBeforeOk : JsonMembers :=
  [(asciiBytes "alsatplg_log_path", .string output.alsatplgLogPath),
    (asciiBytes "conf_path", .string output.confPath),
    (asciiBytes "controls_csv_path", .string output.controlsCsvPath),
    (asciiBytes "ids_header_path", .string output.idsHeaderPath),
    (asciiBytes "install_param_count", countValue output.installParamCount),
    (asciiBytes "module_instance_count", countValue output.moduleInstanceCount),
    (asciiBytes "module_type_count", countValue output.moduleTypeCount)]

def membersBehindOk : JsonMembers :=
  [(asciiBytes "pipeline_count", countValue output.pipelineCount),
    (asciiBytes "plugin_count", countValue output.pluginCount),
    (asciiBytes "preset_count", countValue output.presetCount),
    (asciiBytes "preset_header_path", .string output.presetHeaderPath),
    (asciiBytes "private_bin_path", .string output.privateBinPath),
    (asciiBytes "private_header_path", .string output.privateHeaderPath),
    (asciiBytes "report_path", .string output.reportPath),
    (asciiBytes "runtime_control_count", countValue output.runtimeControlCount),
    (asciiBytes "tplg_built", .bool output.tplgBuilt),
    (asciiBytes "tplg_decode_conf_path", .string output.tplgDecodeConfPath),
    (asciiBytes "tplg_decode_log_path", .string output.tplgDecodeLogPath),
    (asciiBytes "tplg_decoded", .bool output.tplgDecoded)]

/-- The members in front of the path of the topology. -/
def earlierMembers : JsonMembers :=
  membersBeforeOk output ++ (asciiBytes "ok", .bool output.ok) :: membersBehindOk output

def pathMember : Bytes × JsonValue := (asciiBytes "tplg_path", .string output.tplgPath)

def warningsMember : Bytes × JsonValue :=
  (asciiBytes "warnings", .array (output.warnings.map .string))

/-- The members come out sorted by their names. -/
theorem compileOutputJson_eq : compileOutputJson output =
    .object (earlierMembers output ++ [pathMember output, warningsMember output]) := by
  simp +decide only [compileOutputJson, compileOutputFields, List.foldl_cons, List.foldl_nil,
    assign, if_true, if_false]
  rfl

end Members

/-- The names that are searched for. -/
def searchedNames : List Bytes :=
  ["error", "message", "result", "ok", "tplg_path", "warnings"].map asciiBytes

theorem isKey_searched {field : Bytes} (hfield : field ∈ searchedNames) : IsKey field := by
  have hall : ∀ field ∈ searchedNames, field ≠ [] ∧ ∀ c ∈ field,
      (c ≠ quote ∧ c ≠ backslash ∧ 0x20 ≤ c) ∧ c ≠ ascii ':' ∧ ¬IsDelimiter c := by
    decide +kernel
  obtain ⟨hne, hletters⟩ := hall field hfield
  exact isKey_letters field hne hletters

section Names

variable {field after : Bytes} {output : ConfigCompileOutput}

theorem quote_notMem_count (count : Nat) : quote ∉ (countValue count).dump := by
  intro hmem
  have hdigit : isDigit quote = true := isDigit_of_mem_decimalText hmem
  exact absurd hdigit (by decide)

theorem quote_notMem_flag (value : Bool) : quote ∉ (JsonValue.bool value).dump := by
  cases value <;> decide

theorem earlier_values : ∀ member ∈ earlierMembers output,
    (∃ path ∈ otherPaths output, member.2 = .string path) ∨ quote ∉ member.2.dump := by
  have hpath {path : Bytes} (hmem : path ∈ otherPaths output) :
      (∃ other ∈ otherPaths output, JsonValue.string path = .string other) ∨
        quote ∉ (JsonValue.string path).dump := .inl ⟨path, hmem, rfl⟩
  simp only [earlierMembers, membersBeforeOk, membersBehindOk, List.cons_append, List.nil_append,
    List.forall_mem_cons]
  refine ⟨hpath (by simp [otherPaths]), hpath (by simp [otherPaths]), hpath (by simp [otherPaths]),
    hpath (by simp [otherPaths]), .inr (quote_notMem_count _), .inr (quote_notMem_count _),
    .inr (quote_notMem_count _), .inr (quote_notMem_flag _), .inr (quote_notMem_count _),
    .inr (quote_notMem_count _), .inr (quote_notMem_count _), hpath (by simp [otherPaths]),
    hpath (by simp [otherPaths]), hpath (by simp [otherPaths]), hpath (by simp [otherPaths]),
    .inr (quote_notMem_count _), .inr (quote_notMem_flag _), hpath (by simp [otherPaths]),
    hpath (by simp [otherPaths]), .inr (quote_notMem_flag _), List.forall_mem_nil _⟩

theorem silent_earlier (hkey : IsKey field)
    (hnames : ∀ member ∈ earlierMembers output, Spells field member.1 →
      ∀ rest, ¬after <+: ascii ':' :: (member.2.dump ++ rest))
    (hpaths : ∀ path ∈ otherPaths output, Spells field path →
      ∀ rest, Delimited rest → ¬after <+: rest) :
    ∀ member ∈ earlierMembers output, Silent field after (writtenMember member) := by
  intro member hmember
  refine silent_member hkey (hnames member hmember) ?_
  rcases earlier_values member hmember with ⟨path, hpath, hvalue⟩ | hplain
  · rw [hvalue]
    exact silent_string hkey (hpaths path hpath)
  · exact silent_plain hplain

/-- The names of the members do not depend on the output. -/
theorem names_unspelled (hnames : ∀ name ∈ (earlierMembers {}).map Prod.fst, ¬Spells field name) :
    ∀ member ∈ earlierMembers output, ¬Spells field member.1 := by
  intro member hmember
  have hname : member.1 ∈ (earlierMembers output).map Prod.fst := List.mem_map_of_mem hmember
  exact hnames member.1 hname

theorem allSilent_earlier (hkey : IsKey field)
    (hnames : ∀ name ∈ (earlierMembers {}).map Prod.fst, ¬Spells field name)
    (hpaths : ∀ path ∈ otherPaths output, ¬Spells field path) :
    AllSilent field (earlierMembers output) :=
  silent_earlier hkey
    (fun member hmember hspells => absurd hspells (names_unspelled hnames member hmember))
    fun path hpath hspells => absurd hspells (hpaths path hpath)

theorem silent_result (hkey : IsKey field)
    (hnames : ∀ member ∈ earlierMembers output, Spells field member.1 →
      ∀ rest, ¬after <+: ascii ':' :: (member.2.dump ++ rest))
    (hlast : ¬Spells field (asciiBytes "tplg_path") ∧ ¬Spells field (asciiBytes "warnings"))
    (htexts : ∀ text ∈ otherPaths output ++ output.tplgPath :: output.warnings,
      Spells field text → ∀ rest, Delimited rest → ¬after <+: rest) :
    Silent field after (compileOutputJson output).dump := by
  obtain ⟨hpaths, hbehind⟩ := List.forall_mem_append.mp htexts
  obtain ⟨htplg, hwarnings⟩ := List.forall_mem_cons.mp hbehind
  rw [compileOutputJson_eq, dump_object]
  refine silent_bracketed (by decide) (by decide) (List.forall_mem_map.mpr ?_)
  refine List.forall_mem_append.mpr ⟨silent_earlier hkey hnames hpaths, ?_⟩
  refine List.forall_mem_cons.mpr ⟨?_, List.forall_mem_singleton.mpr ?_⟩
  · exact silent_member hkey (fun hspells => absurd hspells hlast.1) (silent_string hkey htplg)
  · refine silent_member hkey (fun hspells => absurd hspells hlast.2) ?_
    rw [warningsMember, dump_array, jsonArrayFromObjects]
    refine silent_bracketed (by decide) (by decide) ?_
    rw [List.map_map]
    exact List.forall_mem_map.mpr fun text htext => silent_string hkey (hwarnings text htext)

end Names

/-! ## The lookups -/

section Lookups

variable (output : ConfigCompileOutput)

theorem ok_searched :
    asciiBytes "\"ok\":true" = quoted (asciiBytes "ok") ++ asciiBytes ":true" := by
  decide

theorem colon_left : ∀ rest, Delimited rest → ¬asciiBytes ":true" <+: rest := by
  rintro rest hrest ⟨back, rfl⟩
  exact absurd (hrest (ascii ':') rfl) (by decide)

/-- The search for the verdict finds it, and only there. -/
theorem ok_found_iff :
    (findText (asciiBytes "\"ok\":true") (compileOutputJson output).dump).isSome = true ↔
      output.ok = true := by
  rw [findText_isSome_iff, ok_searched]
  cases hok : output.ok with
  | false =>
      refine iff_of_false ?_ Bool.false_ne_true
      have hkey : IsKey (asciiBytes "ok") := isKey_searched (by decide)
      refine (silent_result hkey ?_ ⟨by decide, by decide⟩ fun _ _ _ => colon_left).absent
      have hfront : ∀ name ∈ (membersBeforeOk {} ++ membersBehindOk {}).map Prod.fst,
          ¬Spells (asciiBytes "ok") name := by decide
      have hothers : ∀ member ∈ membersBeforeOk output ++ membersBehindOk output,
          ¬Spells (asciiBytes "ok") member.1 := by
        intro member hmember
        have hname : member.1 ∈ (membersBeforeOk output ++ membersBehindOk output).map Prod.fst :=
          List.mem_map_of_mem hmember
        exact hfront member.1 hname
      intro member hmember hspells rest
      rcases List.mem_append.mp hmember with hbefore | hbehind
      · exact absurd hspells (hothers member (List.mem_append_left _ hbefore))
      rcases List.mem_cons.mp hbehind with rfl | hbehind
      · rw [hok]
        rintro ⟨back, hbegins⟩
        have hletter : some (ascii 't') = some (ascii 'f') :=
          congrArg (fun text => text[1]?) hbegins
        exact absurd hletter (by decide)
      · exact absurd hspells (hothers member (List.mem_append_right _ hbehind))
  | true =>
      refine iff_of_true ?_ rfl
      have hmembers : compileOutputJson output = .object (membersBeforeOk output ++
          (asciiBytes "ok", .bool output.ok) :: (membersBehindOk output ++
            [pathMember output, warningsMember output])) := by
        rw [compileOutputJson_eq, earlierMembers, List.append_assoc, List.cons_append]
      have hkey : IsKey (asciiBytes "ok") := isKey_searched (by decide)
      rw [hmembers, hok, dump_split hkey.plain]
      refine ⟨writtenFront (membersBeforeOk output), writtenRest (membersBehindOk output ++
        [pathMember output, warningsMember output]), ?_⟩
      simp only [List.append_assoc]
      rfl

theorem isNumber_ofInt (value : Int) :
    Parser.IsNumber ((if value < 0 then [ascii '-'] else []) ++ decimalText value.natAbs) := by
  refine ⟨if value < 0 then [ascii '-'] else [], decimalText value.natAbs, [], [], ?_,
    Parser.isInteger_decimalText _, .inl rfl, .inl rfl, by simp⟩
  split
  · exact .inr rfl
  · exact .inl rfl

theorem result_spelled :
    SpelledMembers (earlierMembers output ++ [pathMember output, warningsMember output]) := by
  have hcount (count : Nat) : (countValue count).Spelled := Parser.isNumber_decimalText _
  have hwarnings : (JsonValue.array (output.warnings.map .string)).Spelled := by
    rw [JsonValue.Spelled, spelledItems_iff]
    exact List.forall_mem_map.mpr fun _ _ => trivial
  rw [spelledMembers_iff]
  simp only [earlierMembers, membersBeforeOk, membersBehindOk, List.cons_append, List.nil_append,
    List.forall_mem_cons]
  exact ⟨trivial, trivial, trivial, trivial, hcount _, hcount _, hcount _, trivial, hcount _,
    hcount _, hcount _, trivial, trivial, trivial, trivial, hcount _, trivial, trivial, trivial,
    trivial, trivial, hwarnings, List.forall_mem_nil _⟩

theorem result_path (hapart : NamesApart output) :
    ProjectOrchestration.simpleJsonStringField (compileOutputJson output).dump
      (asciiBytes "tplg_path") [] = dropped output.tplgPath := by
  have hkey : IsKey (asciiBytes "tplg_path") := isKey_searched (by decide)
  rw [compileOutputJson_eq, pathMember,
    stringField_written hkey.plain (allSilent_earlier hkey (by decide) hapart.tplgPath)]
  split
  · next hnil => exact hnil.symm
  · rfl

theorem result_warnings (hapart : NamesApart output) :
    simpleJsonStringArrayField (compileOutputJson output).dump (asciiBytes "warnings") =
      output.warnings.map dropped := by
  have hkey : IsKey (asciiBytes "warnings") := isKey_searched (by decide)
  obtain ⟨hpaths, htplg⟩ := List.forall_mem_append.mp hapart.warnings
  have hmembers : compileOutputJson output =
      .object ((earlierMembers output ++ [pathMember output]) ++
        (asciiBytes "warnings", .array (output.warnings.map .string)) :: []) := by
    rw [compileOutputJson_eq, List.append_assoc]
    rfl
  rw [hmembers]
  refine stringArrayField_written hkey.plain ?_ output.warnings
  refine List.forall_mem_append.mpr ⟨allSilent_earlier hkey (by decide) hpaths, ?_⟩
  have hname : ¬Spells (asciiBytes "warnings") (asciiBytes "tplg_path") := by decide
  refine List.forall_mem_singleton.mpr (silent_member hkey (fun hspells => ?_) ?_)
  · exact absurd hspells hname
  · refine silent_string hkey fun hspells => ?_
    exact absurd hspells (htplg output.tplgPath List.mem_cons_self)

end Lookups

/-! ## The response as it is read -/

section Responses

variable (params : JsonValue)

def idMembers : JsonMembers :=
  [(asciiBytes "id", .number (asciiBytes "1")), (asciiBytes "jsonrpc", .ofText "2.0")]

def errorMember (thrown : Thrown) : JsonValue :=
  .object ([(asciiBytes "code", .ofInt (serverCode thrown))] ++
    (asciiBytes "message", .string (serverMessage thrown)) :: [])

theorem compileResponse_ok (output : ConfigCompileOutput) :
    compileResponse params (.ok output) =
      (JsonValue.object
        (idMembers ++ (asciiBytes "result", compileOutputJson output) :: [])).dump :=
  rfl

theorem compileResponse_error (thrown : Thrown) :
    compileResponse params (.error thrown) =
      (JsonValue.object ([] ++ (asciiBytes "error", errorMember thrown) :: idMembers)).dump := by
  cases thrown with
  | rpc _ _ => rfl
  | standard _ => rfl
  | other => rfl

theorem parse_dump (members : JsonMembers) :
    parseConfigCompileResponse (JsonValue.object members).dump =
      parseJsonResponse (JsonValue.object members).dump := by
  rw [dump_object]
  rfl

/-- An error comes before a result. -/
theorem parse_error_member {text errorJson : Bytes}
    (herror : jsonMemberValue text (asciiBytes "error") = errorJson) (hne : errorJson ≠ []) :
    parseJsonResponse text =
      { message :=
          ProjectOrchestration.simpleJsonStringField errorJson (asciiBytes "message") noMessage
        diagnostics := [errorJson] } := by
  rw [parseJsonResponse, herror]
  exact if_pos hne

theorem parse_result_member {text resultJson : Bytes}
    (hnone : jsonMemberValue text (asciiBytes "error") = [])
    (hresult : jsonMemberValue text (asciiBytes "result") = resultJson) (hne : resultJson ≠ []) :
    parseJsonResponse text = parseResultJson resultJson := by
  rw [parseJsonResponse, hnone, hresult]
  dsimp only
  rw [if_neg (not_not.mpr rfl), if_neg hne]

/-- The member of the error comes first, and its message behind the code. -/
theorem parse_error (thrown : Thrown) :
    parseConfigCompileResponse (compileResponse params (.error thrown)) =
      { message :=
          if dropped (serverMessage thrown) = [] then noMessage else dropped (serverMessage thrown)
        diagnostics := [(errorMember thrown).dump] } := by
  have hspelled : (errorMember thrown).Spelled :=
    ⟨isNumber_ofInt (serverCode thrown), trivial, trivial⟩
  have hkey : IsKey (asciiBytes "error") := isKey_searched (by decide)
  have herror := @jsonMemberValue_written (asciiBytes "error") [] idMembers _ hkey.plain
    (List.forall_mem_nil _) hspelled
  have hkey : IsKey (asciiBytes "message") := isKey_searched (by decide)
  have hname : ¬Spells (asciiBytes "message") (asciiBytes "code") := by decide
  have hcode : AllSilent (asciiBytes "message")
      [(asciiBytes "code", .ofInt (serverCode thrown))] := by
    refine List.forall_mem_singleton.mpr (silent_member hkey (fun hspells => ?_) ?_)
    · exact absurd hspells hname
    · refine silent_plain fun hmem => ?_
      have hscalar := (isScalar_number (isNumber_ofInt (serverCode thrown))).chars quote hmem
      exact absurd hscalar (by decide)
  have hmessage : ProjectOrchestration.simpleJsonStringField (errorMember thrown).dump
      (asciiBytes "message") noMessage = _ :=
    stringField_written hkey.plain hcode (serverMessage thrown) noMessage
  rw [compileResponse_error, parse_dump, ← hmessage]
  exact parse_error_member herror (value_ne_nil (isValue_dump _ hspelled))

theorem allSilent_ids {field : Bytes} (hkey : IsKey field)
    (hnames : ¬Spells field (asciiBytes "id") ∧ ¬Spells field (asciiBytes "jsonrpc"))
    (hversion : ¬Spells field (asciiBytes "2.0")) : AllSilent field idMembers := by
  refine List.forall_mem_cons.mpr ⟨?_, List.forall_mem_singleton.mpr ?_⟩
  · exact silent_member hkey (fun hspells => absurd hspells hnames.1) (silent_plain (by decide))
  · refine silent_member hkey (fun hspells => absurd hspells hnames.2) (silent_string hkey ?_)
    exact fun hspells => absurd hspells hversion

/-- With the names apart no error is found, and the result is. -/
theorem parse_ok {output : ConfigCompileOutput} (hapart : NamesApart output) :
    parseConfigCompileResponse (compileResponse params (.ok output)) =
      parseResultJson (compileOutputJson output).dump := by
  have hkey : IsKey (asciiBytes "error") := isKey_searched (by decide)
  have hname : ¬Spells (asciiBytes "error") (asciiBytes "result") := by decide
  have hsilent : Silent (asciiBytes "error") [] (compileOutputJson output).dump := by
    refine silent_result hkey (fun member hmember hspells => ?_) ⟨by decide, by decide⟩ ?_
    · exact absurd hspells (names_unspelled (by decide) member hmember)
    · exact fun text htext hspells => absurd hspells (hapart.error text htext)
  have hids := allSilent_ids hkey ⟨by decide, by decide⟩ (by decide)
  have hall : AllSilent (asciiBytes "error")
      (idMembers ++ (asciiBytes "result", compileOutputJson output) :: []) :=
    List.forall_mem_append.mpr ⟨hids, List.forall_mem_singleton.mpr
      (silent_member hkey (fun hspells => absurd hspells hname) hsilent)⟩
  have hkey : IsKey (asciiBytes "result") := isKey_searched (by decide)
  have hids := allSilent_ids hkey ⟨by decide, by decide⟩ (by decide)
  have hresult := @jsonMemberValue_written (asciiBytes "result") idMembers []
    (.object (earlierMembers output ++ [pathMember output, warningsMember output])) hkey.plain hids
    (result_spelled output)
  have hpresent := value_ne_nil (isValue_dump (.object (earlierMembers output ++
    [pathMember output, warningsMember output])) (result_spelled output))
  rw [← compileOutputJson_eq] at hresult hpresent
  rw [compileResponse_ok, parse_dump]
  exact parse_result_member (jsonMemberValue_silent hall) hresult hpresent

/-! ## Reported verdicts -/

theorem reports_error_iff (thrown : Thrown) :
    Reports (.error thrown) (parseConfigCompileResponse (compileResponse params (.error thrown))) ↔
      ReadableOutcome (.error thrown) := by
  rw [parse_error]
  change (false = false ∧ (if _ then _ else _) = serverMessage thrown) ↔ _ ∧ _
  rw [eq_self_iff_true, true_and, Printable, ← dropped_eq_iff]
  constructor
  · intro hmessage
    split at hmessage
    · next hnil =>
        rw [← hmessage] at hnil
        exact absurd hnil (by decide)
    · next hne =>
        refine ⟨?_, hmessage⟩
        rwa [hmessage] at hne
  · rintro ⟨hne, hsame⟩
    rw [hsame]
    exact if_neg hne

/-- The parts of a result that is read. -/
theorem parseResultJson_parts {resultJson path : Bytes} {texts : List Bytes}
    (hpath : ProjectOrchestration.simpleJsonStringField resultJson (asciiBytes "tplg_path") [] =
      path)
    (hwarnings : simpleJsonStringArrayField resultJson (asciiBytes "warnings") =
      texts.map dropped) :
    ((parseResultJson resultJson).ok = true ↔
        (findText (asciiBytes "\"ok\":true") resultJson).isSome = true ∧ path ≠ []) ∧
      (parseResultJson resultJson).tplgPath = path ∧
        ((parseResultJson resultJson).ok = true ∨ texts ≠ [] →
          (parseResultJson resultJson).diagnostics = texts.map dropped) := by
  rw [parseResultJson, hpath, hwarnings]
  refine ⟨?_, rfl, fun htaken => if_neg ?_⟩
  · dsimp only
    rw [Bool.and_eq_true, decide_eq_true_eq]
  · rintro ⟨hrefused, hnone⟩
    rcases htaken with hok | hsome
    · exact Bool.false_ne_true (hrefused.symm.trans hok)
    · exact hsome (List.map_eq_nil_iff.mp hnone)

theorem map_dropped_iff (texts : List Bytes) :
    texts.map dropped = texts ↔ ∀ text ∈ texts, Printable text := by
  have hself : texts.map dropped = texts ↔ texts.map dropped = texts.map id := by
    rw [List.map_id]
  rw [hself, List.map_inj_left]
  exact forall₂_congr fun text _ => dropped_eq_iff text

theorem reports_ok_iff {output : ConfigCompileOutput} (hapart : NamesApart output) :
    Reports (.ok output) (parseConfigCompileResponse (compileResponse params (.ok output))) ↔
      ReadableOutcome (.ok output) := by
  obtain ⟨hok, hpath, hdiagnostics⟩ :=
    parseResultJson_parts (result_path output hapart) (result_warnings output hapart)
  rw [ok_found_iff] at hok
  rw [parse_ok params hapart, Reports, hok, hpath, ReadableOutcome, List.forall_mem_cons]
  constructor
  · rintro ⟨-, hsame, hreported⟩
    refine ⟨(dropped_eq_iff _).mp hsame, (map_dropped_iff _).mp ?_⟩
    by_cases hnone : output.warnings = []
    · rw [hnone, List.map_nil]
    · rw [← hdiagnostics (.inr hnone), hreported (.inr hnone)]
  · rintro ⟨hprintable, hwarnings⟩
    have hsame := (dropped_eq_iff _).mpr hprintable
    refine ⟨by rw [hsame], hsame, fun htaken => ?_⟩
    rw [hdiagnostics (htaken.imp_left hok.mpr), (map_dropped_iff _).mpr hwarnings]

end Responses

/-- With the names apart from what is searched for, the verdict of the compiler is reported exactly
if what is to be read of it has no control characters, and an error has a message. -/
theorem verdict_reported_iff (params : JsonValue) (outcome : Except Thrown ConfigCompileOutput)
    (hapart : Apart outcome) :
    Reports outcome (parseConfigCompileResponse (compileResponse params outcome)) ↔
      ReadableOutcome outcome := by
  cases outcome with
  | ok output => exact reports_ok_iff params hapart
  | error thrown => exact reports_error_iff params thrown

def builtOutput (confPath : String) : ConfigCompileOutput where
  ok := true
  confPath := asciiBytes confPath
  tplgPath := asciiBytes "a.tplg"
  warnings := [asciiBytes "w"]

theorem verdict_reported_built : Reports (.ok (builtOutput "a.conf"))
    (parseConfigCompileResponse (compileResponse .null (.ok (builtOutput "a.conf")))) := by
  have hapart : Apart (.ok (builtOutput "a.conf")) := ⟨by decide, by decide, by decide⟩
  have hreadable : ReadableOutcome (.ok (builtOutput "a.conf")) := by
    change ∀ text ∈ [asciiBytes "a.tplg", asciiBytes "w"], ∀ c ∈ text, 0x20 ≤ c
    decide +kernel
  exact (verdict_reported_iff .null _ hapart).mpr hreadable

/-- A message of two lines is not the one that is reported, and a path that is named as the member
of an error is taken for one. -/
theorem lines_joined_in_message :
    (¬∀ params outcome, Reports outcome
      (parseConfigCompileResponse (compileResponse params outcome))) ∧
        (parseConfigCompileResponse (compileResponse .null (.ok (builtOutput "error")))).ok =
          false := by
  constructor
  · intro hreports
    have hreport := hreports .null (.error (.rpc (-32602) (asciiBytes "a\nb")))
    exact absurd hreport.2 (by decide)
  · decide +kernel

end AudioStudio.Gui
