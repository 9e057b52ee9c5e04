import AudioStudio.Config.Tables
import Mathlib.Data.List.Flatten

/-!
# The rows of the parameter tables

What `buildParameterTables` lists for each node: a control or an install parameter for every
parameter, and for an aggregate the one control that carries the defaults of all parameters.
That control is there exactly when the parameter whose id names it can be set while running.
-/

namespace AudioStudio.Config

open AudioStudio.LittleEndian

/-! ## What the tables are to hold -/

/-- A parameter that can be set while running. -/
def Settable (param : ParameterInfo) : Prop :=
  asciiBytes "RUNNING" ∈ param.states

instance (param : ParameterInfo) : Decidable (Settable param) :=
  inferInstanceAs (Decidable (_ ∈ _))

/-- What one node adds to the tables. -/
structure Rows where
  controls : List ControlInfo := []
  installParams : List InstallParamInfo := []
  deriving DecidableEq, Repr

/-- The nodes of all pipelines, each with its pipeline, in the order of the loops. -/
def ProjectIr.placedNodes (ir : ProjectIr) : List (PipelineInfo × NodeInfo) :=
  ir.pipelines.flatMap fun pipe => pipe.nodes.map fun node => (pipe, node)

def IsControlOf (pipe : PipelineInfo) (node : NodeInfo) (param : ParameterInfo)
    (control : ControlInfo) : Prop :=
  control.pipeId = pipe.pipeId ∧ control.nodeId = node.nodeId ∧ control.instId = node.instId ∧
    control.moduleType = node.moduleType ∧ control.paramId = param.paramId

def IsInstallParamOf (pipe : PipelineInfo) (node : NodeInfo) (param : ParameterInfo)
    (install : InstallParamInfo) : Prop :=
  install.pipeId = pipe.pipeId ∧ install.nodeId = node.nodeId ∧ install.instId = node.instId ∧
    install.moduleType = node.moduleType ∧ install.paramId = param.paramId

/-- Each parameter of the type is listed once, where it belongs, in the order of the type. -/
structure ListsParameters (pipe : PipelineInfo) (node : NodeInfo) (type : ModuleTypeInfo)
    (rows : Rows) : Prop where
  controls : List.Forall₂ (IsControlOf pipe node) (type.parameters.filter (Settable ·))
    rows.controls
  installParams : List.Forall₂ (IsInstallParamOf pipe node)
    (type.parameters.filter (¬ Settable ·)) rows.installParams

/-- One control is written to the topology, and its payload packs all defaults. -/
def CarriesDefaults (ir : ProjectIr) (moduleConfigs : ModuleConfigRegistry) (pipe : PipelineInfo)
    (node : NodeInfo) (controls : List ControlInfo) : Prop :=
  ∃ control blob, controls.filter (·.emitTopology) = [control] ∧
    packAggregateTopologyDefault ir moduleConfigs pipe node = .ok blob ∧
    control.topologyDefaultPayload = blob.data

/-- The rows of a node: none without a module type, and otherwise its parameters, with the
controls of the topology that its type asks for. -/
structure NodeTabled (ir : ProjectIr) (moduleConfigs : ModuleConfigRegistry)
    (place : PipelineInfo × NodeInfo) (rows : Rows) : Prop where
  untyped : place.2.moduleType = [] → rows = {}
  listed : place.2.moduleType ≠ [] → ∃ type, moduleTypeForNode ir place.2 = .ok type ∧
    ListsParameters place.1 place.2 type rows
  aggregate : usesAggregateSofTopologyControl place.2.moduleType = true →
    ∀ type, moduleTypeForNode ir place.2 = .ok type → type.parameters ≠ [] →
      CarriesDefaults ir moduleConfigs place.1 place.2 rows.controls
  others : usesAggregateSofTopologyControl place.2.moduleType = false →
    ∀ control ∈ rows.controls, control.emitTopology = true

/-- The tables are the rows of the nodes, one node after another. -/
def TablesComplete (ir : ProjectIr) (moduleConfigs : ModuleConfigRegistry) (built : ProjectIr) :
    Prop :=
  ∃ rows, List.Forall₂ (NodeTabled ir moduleConfigs) ir.placedNodes rows ∧
    built.controls = rows.flatMap Rows.controls ∧
    built.installParams = rows.flatMap Rows.installParams

/-- Of the parameters that can be set while running one has the id of the first parameter. -/
def CarriedOnce (type : ModuleTypeInfo) : Prop :=
  (type.parameters.filter fun param =>
    Settable param ∧ param.paramId = aggregateTopologyParamId type).length = 1

instance (type : ModuleTypeInfo) : Decidable (CarriedOnce type) :=
  inferInstanceAs (Decidable (_ = _))

/-- So it is with the type of the node if that uses the aggregate control. -/
def CarriedAt (ir : ProjectIr) (place : PipelineInfo × NodeInfo) : Prop :=
  usesAggregateSofTopologyControl place.2.moduleType = true →
    ∀ type, moduleTypeForNode ir place.2 = .ok type → type.parameters ≠ [] → CarriedOnce type

def AggregatesCarried (ir : ProjectIr) : Prop :=
  ∀ place ∈ ir.placedNodes, CarriedAt ir place

/-! ## What the loops add -/

/-- Rows are put behind what the tables hold. -/
def Adds (tables : Tables) (rows : List Rows) (tables' : Tables) : Prop :=
  tables'.controls = tables.controls ++ rows.flatMap Rows.controls ∧
    tables'.installParams = tables.installParams ++ rows.flatMap Rows.installParams

theorem adds_nil (tables : Tables) : Adds tables [] tables := by
  constructor
  · rw [List.flatMap_nil, List.append_nil]
  · rw [List.flatMap_nil, List.append_nil]

theorem Adds.cons {tables middle tables' : Tables} {row : Rows} {rows : List Rows}
    (hfirst : Adds tables [row] middle) (hrest : Adds middle rows tables') :
    Adds tables (row :: rows) tables' := by
  constructor
  · rw [hrest.1, hfirst.1, List.append_assoc, ← List.flatMap_append, List.singleton_append]
  · rw [hrest.2, hfirst.2, List.append_assoc, ← List.flatMap_append, List.singleton_append]

section Rounds

variable {ir : ProjectIr} {moduleConfigs : ModuleConfigRegistry} {pipe : PipelineInfo}
  {node : NodeInfo} {type : ModuleTypeInfo} {aggregate : Option ModuleConfigBlob}

theorem isControlOf_runtimeControl (param : ParameterInfo) (blob : ModuleConfigBlob) :
    IsControlOf pipe node param (runtimeControl pipe node type param aggregate blob) := by
  unfold runtimeControl
  split
  · exact ⟨rfl, rfl, rfl, rfl, rfl⟩
  · dsimp only
    split
    · exact ⟨rfl, rfl, rfl, rfl, rfl⟩
    · exact ⟨rfl, rfl, rfl, rfl, rfl⟩

/-- Without an aggregate every control is written to the topology, with one only that of the
parameter that the aggregate goes by. -/
def EmittedFor (type : ModuleTypeInfo) (aggregate : Option ModuleConfigBlob)
    (param : ParameterInfo) (control : ControlInfo) : Prop :=
  match aggregate with
  | none => control.emitTopology = true
  | some blob =>
      control.emitTopology = decide (param.paramId = aggregateTopologyParamId type) ∧
        (control.emitTopology = true → control.topologyDefaultPayload = blob.data)

theorem emittedFor_runtimeControl (param : ParameterInfo) (blob : ModuleConfigBlob) :
    EmittedFor type aggregate param (runtimeControl pipe node type param aggregate blob) := by
  unfold runtimeControl EmittedFor
  cases aggregate with
  | none => rfl
  | some aggregateBlob =>
      dsimp only
      split
      · next hfirst => exact ⟨(decide_eq_true hfirst).symm, fun _ => rfl⟩
      · next hother => exact ⟨(decide_eq_false hother).symm, fun hemitted => by cases hemitted⟩

/-- What the round for a parameter adds. -/
inductive ParameterRow (pipe : PipelineInfo) (node : NodeInfo) (type : ModuleTypeInfo)
    (aggregate : Option ModuleConfigBlob) (param : ParameterInfo) : Rows → Prop where
  | control (control : ControlInfo) (hsettable : Settable param)
      (hcontrol : IsControlOf pipe node param control ∧ EmittedFor type aggregate param control) :
      ParameterRow pipe node type aggregate param { controls := [control] }
  | install (install : InstallParamInfo) (hidle : ¬ Settable param)
      (hinstall : IsInstallParamOf pipe node param install) :
      ParameterRow pipe node type aggregate param { installParams := [install] }

theorem addParameter_row {tables tables' : Tables} {param : ParameterInfo}
    (hround : addParameter ir moduleConfigs pipe node type aggregate tables param = .ok tables') :
    ∃ row, ParameterRow pipe node type aggregate param row ∧ Adds tables [row] tables' := by
  unfold addParameter at hround
  split at hround
  · next hrunning =>
      obtain ⟨blob, _, hround⟩ := bind_eq_ok hround
      obtain ⟨used, _, hround⟩ := bind_eq_ok hround
      cases hround
      refine ⟨_, .control _ hrunning ⟨isControlOf_runtimeControl param blob,
        emittedFor_runtimeControl param blob⟩, ?_, ?_⟩
      · rw [List.flatMap_singleton]
      · rw [List.flatMap_singleton, List.append_nil]
  · next hidle =>
      obtain ⟨blob, _, hround⟩ := bind_eq_ok hround
      cases hround
      refine ⟨_, .install _ hidle ?_, (List.append_nil _).symm, rfl⟩
      exact ⟨rfl, rfl, rfl, rfl, rfl⟩

variable {rows : List Rows} {params : List ParameterInfo}

/-- The rows of the parameters are the listed parameters of the node. -/
theorem listed_of_rows (hrows : List.Forall₂ (ParameterRow pipe node type aggregate) params rows) :
    List.Forall₂ (fun param control => IsControlOf pipe node param control ∧
        EmittedFor type aggregate param control) (params.filter (Settable ·))
      (rows.flatMap Rows.controls) ∧
    List.Forall₂ (IsInstallParamOf pipe node) (params.filter (¬ Settable ·))
      (rows.flatMap Rows.installParams) := by
  induction hrows with
  | nil => exact ⟨.nil, .nil⟩
  | cons hrow _ ih =>
      rw [List.flatMap_cons, List.flatMap_cons, List.filter_cons, List.filter_cons]
      cases hrow with
      | control control hsettable hcontrol =>
          simp only [hsettable, not_true_eq_false, decide_true, decide_false, if_true,
            Bool.false_eq_true, if_false]
          exact ⟨.cons hcontrol ih.1, ih.2⟩
      | install install hidle hinstall =>
          simp only [hidle, not_false_eq_true, decide_true, decide_false, if_true,
            Bool.false_eq_true, if_false]
          exact ⟨ih.1, .cons hinstall ih.2⟩

end Rounds

/-- The rows of a node as the loops make them. -/
structure NodeRows (ir : ProjectIr) (moduleConfigs : ModuleConfigRegistry)
    (place : PipelineInfo × NodeInfo) (rows : Rows) : Prop where
  untyped : place.2.moduleType = [] → rows = {}
  typed : place.2.moduleType ≠ [] → ∃ type aggregate, moduleTypeForNode ir place.2 = .ok type ∧
    (if usesAggregateSofTopologyControl place.2.moduleType = true then
      ∃ blob, aggregate = some blob ∧
        packAggregateTopologyDefault ir moduleConfigs place.1 place.2 = .ok blob
    else aggregate = none) ∧
    List.Forall₂ (fun param control => IsControlOf place.1 place.2 param control ∧
      EmittedFor type aggregate param control) (type.parameters.filter (Settable ·))
      rows.controls ∧
    List.Forall₂ (IsInstallParamOf place.1 place.2) (type.parameters.filter (¬ Settable ·))
      rows.installParams

section Nodes

variable {ir built : ProjectIr} {moduleConfigs : ModuleConfigRegistry}

theorem addNode_rows {pipe : PipelineInfo} {node : NodeInfo} {tables tables' : Tables}
    (hadd : addNode ir moduleConfigs pipe tables node = .ok tables') :
    ∃ rows, NodeRows ir moduleConfigs (pipe, node) rows ∧ Adds tables [rows] tables' := by
  unfold addNode at hadd
  split at hadd
  · next huntyped =>
      cases hadd
      refine ⟨{}, ⟨fun _ => rfl, fun htyped => absurd huntyped htyped⟩, ?_, ?_⟩
      · rw [List.flatMap_singleton, List.append_nil]
      · rw [List.flatMap_singleton, List.append_nil]
  · next htyped =>
      obtain ⟨type, htype, hadd⟩ := bind_eq_ok hadd
      obtain ⟨aggregate, haggregate, hadd⟩ := bind_eq_ok hadd
      obtain ⟨rows, hrows, hcontrols, hinstalls⟩ := foldlM_rows adds_nil Adds.cons
        (fun _ _ _ _ hround => addParameter_row hround) hadd
      have hlisted := listed_of_rows hrows
      refine ⟨⟨rows.flatMap Rows.controls, rows.flatMap Rows.installParams⟩,
        ⟨fun huntyped => absurd huntyped htyped, fun _ => ⟨type, aggregate, htype, ?_, hlisted⟩⟩,
        ?_, ?_⟩
      · dsimp only
        split at haggregate
        · next huses =>
            rw [if_pos huses]
            cases hpack : packAggregateTopologyDefault ir moduleConfigs pipe node with
            | error fault =>
                rw [hpack] at haggregate
                cases haggregate
            | ok blob =>
                rw [hpack] at haggregate
                cases haggregate
                exact ⟨blob, rfl, rfl⟩
        · next hplain =>
            rw [if_neg hplain]
            cases haggregate
            rfl
      · rw [List.flatMap_singleton, hcontrols]
      · rw [List.flatMap_singleton, hinstalls]

/-- The two loops over pipelines and nodes are one over the nodes with their pipelines. -/
theorem foldlM_placedNodes (pipelines : List PipelineInfo) (tables : Tables) :
    pipelines.foldlM (addPipeline ir moduleConfigs) tables =
      (pipelines.flatMap fun pipe => pipe.nodes.map fun node => (pipe, node)).foldlM
        (fun tables place => addNode ir moduleConfigs place.1 tables place.2) tables := by
  induction pipelines generalizing tables with
  | nil => rfl
  | cons pipe pipelines ih =>
      rw [List.flatMap_cons, List.foldlM_append, List.foldlM_map, List.foldlM_cons]
      congr 1
      funext middle
      exact ih middle

theorem buildParameterTables_rows (hbuild : buildParameterTables ir moduleConfigs = .ok built) :
    ∃ rows, List.Forall₂ (NodeRows ir moduleConfigs) ir.placedNodes rows ∧
      built.controls = rows.flatMap Rows.controls ∧
      built.installParams = rows.flatMap Rows.installParams := by
  unfold buildParameterTables at hbuild
  obtain ⟨used, _, hbuild⟩ := bind_eq_ok hbuild
  obtain ⟨tables, htables, hbuild⟩ := bind_eq_ok hbuild
  cases hbuild
  rw [foldlM_placedNodes] at htables
  exact foldlM_rows adds_nil Adds.cons (fun _ _ _ _ hadd => addNode_rows hadd) htables

end Nodes

/-! ## The control of an aggregate -/

section Aggregate

variable {ir : ProjectIr} {moduleConfigs : ModuleConfigRegistry} {type : ModuleTypeInfo}

variable {controls : List ControlInfo}

/-- As many controls are written to the topology as parameters have the id of the first. -/
theorem emitted_length {blob : ModuleConfigBlob} {params : List ParameterInfo}
    {controls : List ControlInfo}
    (hemitted : List.Forall₂ (EmittedFor type (some blob)) params controls) :
    (controls.filter (·.emitTopology)).length =
      (params.filter (·.paramId = aggregateTopologyParamId type)).length := by
  induction hemitted with
  | nil => rfl
  | cons hfirst _ ih =>
      rw [List.filter_cons, List.filter_cons, hfirst.1]
      split
      · rw [List.length_cons, List.length_cons, ih]
      · exact ih

theorem emitted_payload {blob : ModuleConfigBlob} {params : List ParameterInfo}
    {controls : List ControlInfo}
    (hemitted : List.Forall₂ (EmittedFor type (some blob)) params controls) :
    ∀ control ∈ controls.filter (·.emitTopology), control.topologyDefaultPayload = blob.data := by
  induction hemitted with
  | nil =>
      intro control hmem
      cases hmem
  | cons hfirst _ ih =>
      intro control hmem
      obtain ⟨hmem, hwritten⟩ := List.mem_filter.mp hmem
      rcases List.mem_cons.mp hmem with rfl | hmem
      · exact hfirst.2 hwritten
      · exact ih control (List.mem_filter.mpr ⟨hmem, hwritten⟩)

theorem emitted_all {params : List ParameterInfo} {controls : List ControlInfo}
    (hemitted : List.Forall₂ (EmittedFor type none) params controls) :
    ∀ control ∈ controls, control.emitTopology = true := by
  induction hemitted with
  | nil =>
      intro control hmem
      cases hmem
  | cons hfirst _ ih =>
      intro control hmem
      rcases List.mem_cons.mp hmem with rfl | hmem
      · exact hfirst
      · exact ih control hmem

theorem filter_settable_first (type : ModuleTypeInfo) :
    ((type.parameters.filter (Settable ·)).filter
      (·.paramId = aggregateTopologyParamId type)).length = 1 ↔ CarriedOnce type := by
  rw [List.filter_filter, CarriedOnce]
  simp only [Bool.decide_and, Bool.and_comm]

variable {place : PipelineInfo × NodeInfo}

/-- The defaults are carried exactly when one settable parameter has the id of the first. -/
theorem NodeRows.carries_iff {rows : Rows} (hrows : NodeRows ir moduleConfigs place rows)
    (huses : usesAggregateSofTopologyControl place.2.moduleType = true)
    (htype : moduleTypeForNode ir place.2 = .ok type) :
    CarriesDefaults ir moduleConfigs place.1 place.2 rows.controls ↔ CarriedOnce type := by
  have htyped : place.2.moduleType ≠ [] := by
    intro huntyped
    rw [huntyped] at huses
    exact absurd huses (by decide)
  obtain ⟨type', aggregate, htype', haggregate, hcontrols, _⟩ := hrows.typed htyped
  rw [if_pos huses] at haggregate
  obtain ⟨blob, rfl, hpack⟩ := haggregate
  obtain rfl : type = type' := Except.ok.inj (htype.symm.trans htype')
  have hemitted := hcontrols.imp fun _ _ hboth => hboth.2
  rw [← filter_settable_first, ← emitted_length hemitted]
  constructor
  · rintro ⟨control, _, honly, _⟩
    rw [honly]
    rfl
  · intro hone
    obtain ⟨control, honly⟩ := List.length_eq_one_iff.mp hone
    refine ⟨control, blob, honly, hpack, emitted_payload hemitted control ?_⟩
    rw [honly]
    exact List.mem_singleton_self control

theorem NodeRows.tabled {rows : Rows} (hrows : NodeRows ir moduleConfigs place rows)
    (hcarried : CarriedAt ir place) :
    NodeTabled ir moduleConfigs place rows where
  untyped := hrows.untyped
  listed := by
    intro htyped
    obtain ⟨type, aggregate, htype, _, hcontrols, hinstalls⟩ := hrows.typed htyped
    exact ⟨type, htype, hcontrols.imp fun _ _ hboth => hboth.1, hinstalls⟩
  aggregate := by
    intro huses type htype hparameters
    exact (hrows.carries_iff huses htype).mpr (hcarried huses type htype hparameters)
  others := by
    intro hplain
    by_cases huntyped : place.2.moduleType = []
    · rw [hrows.untyped huntyped]
      intro control hmem
      cases hmem
    · obtain ⟨type, aggregate, _, haggregate, hcontrols, _⟩ := hrows.typed huntyped
      rw [if_neg (by rw [hplain]; exact Bool.false_ne_true)] at haggregate
      subst haggregate
      exact emitted_all (hcontrols.imp fun _ _ hboth => hboth.2)

/-- How many controls a node has is told by its type. -/
theorem NodeTabled.length_eq {rows rows' : Rows} (htabled : NodeTabled ir moduleConfigs place rows)
    (hrows : NodeRows ir moduleConfigs place rows') :
    rows.controls.length = rows'.controls.length := by
  by_cases huntyped : place.2.moduleType = []
  · rw [htabled.untyped huntyped, hrows.untyped huntyped]
  · obtain ⟨type, htype, hlisted⟩ := htabled.listed huntyped
    obtain ⟨type', _, htype', _, hcontrols, _⟩ := hrows.typed huntyped
    obtain rfl : type = type' := Except.ok.inj (htype.symm.trans htype')
    rw [← hlisted.controls.length_eq, hcontrols.length_eq]

variable {places : List (PipelineInfo × NodeInfo)}

/-- So the controls of the tables belong to the nodes in one way only. -/
theorem controls_eq_of_tabled {places : List (PipelineInfo × NodeInfo)} {rows rows' : List Rows}
    (htabled : List.Forall₂ (NodeTabled ir moduleConfigs) places rows)
    (hrows : List.Forall₂ (NodeRows ir moduleConfigs) places rows')
    (hsame : rows.flatMap Rows.controls = rows'.flatMap Rows.controls) :
    rows.map Rows.controls = rows'.map Rows.controls := by
  apply List.eq_iff_flatten_eq.mpr
  refine ⟨by rwa [← List.flatMap_def, ← List.flatMap_def], ?_⟩
  clear hsame
  induction htabled generalizing rows' with
  | nil =>
      cases hrows
      rfl
  | cons hfirst _ ih =>
      cases hrows with
      | cons hother hrest =>
          simp only [List.map_cons, hfirst.length_eq hother, ih hrest]

theorem tabled_of_carried {places : List (PipelineInfo × NodeInfo)} {rows : List Rows}
    (hrows : List.Forall₂ (NodeRows ir moduleConfigs) places rows)
    (hcarried : ∀ place ∈ places, CarriedAt ir place) :
    List.Forall₂ (NodeTabled ir moduleConfigs) places rows := by
  induction hrows with
  | nil => exact .nil
  | cons hfirst _ ih =>
      refine .cons (hfirst.tabled (hcarried _ List.mem_cons_self)) (ih ?_)
      exact fun place hmem => hcarried place (List.mem_cons_of_mem _ hmem)

theorem carried_of_tabled {places : List (PipelineInfo × NodeInfo)} {rows rows' : List Rows}
    (htabled : List.Forall₂ (NodeTabled ir moduleConfigs) places rows)
    (hrows : List.Forall₂ (NodeRows ir moduleConfigs) places rows')
    (hsame : rows.map Rows.controls = rows'.map Rows.controls) :
    ∀ place ∈ places, CarriedAt ir place := by
  induction htabled generalizing rows' with
  | nil =>
      intro place hmem
      cases hmem
  | cons hfirst _ ih =>
      cases hrows with
      | cons hother hrest =>
          obtain ⟨hhead, htail⟩ := List.cons.inj hsame
          intro place hmem
          rcases List.mem_cons.mp hmem with rfl | hmem
          · intro huses type htype hparameters
            apply (hother.carries_iff huses htype).mp
            rw [← hhead]
            exact hfirst.aggregate huses type htype hparameters
          · exact ih hrest htail place hmem

theorem TablesComplete.carried {built : ProjectIr}
    (hcomplete : TablesComplete ir moduleConfigs built)
    (hbuild : buildParameterTables ir moduleConfigs = .ok built) : AggregatesCarried ir := by
  obtain ⟨rows', hrows', hcontrols', _⟩ := buildParameterTables_rows hbuild
  obtain ⟨rows, htabled, hcontrols, _⟩ := hcomplete
  refine carried_of_tabled htabled hrows' ?_
  exact controls_eq_of_tabled htabled hrows' (hcontrols.symm.trans hcontrols')

/-- Every parameter is listed where it belongs, and the defaults of an aggregate reach the
topology exactly when one of its settable parameters has the id of its first parameter. -/
theorem tables_complete_iff {built : ProjectIr}
    (hbuild : buildParameterTables ir moduleConfigs = .ok built) :
    TablesComplete ir moduleConfigs built ↔ AggregatesCarried ir := by
  constructor
  · intro hcomplete
    exact hcomplete.carried hbuild
  · intro hcarried
    obtain ⟨rows, hrows, hcontrols, hinstalls⟩ := buildParameterTables_rows hbuild
    exact ⟨rows, tabled_of_carried hrows hcarried, hcontrols, hinstalls⟩

end Aggregate

/-- A delay line whose longest delay is its first parameter; `states` are those in which that
can be set. -/
def delayLineProject (states : List Bytes) : ProjectIr where
  projectName := asciiBytes "delay"
  moduleTypes := [{
    typeId := asciiBytes "delay.line", category := [], moduleClass := [], moduleUuid := []
    sourceJson := []
    parameters := [
      { paramId := asciiBytes "max_delay_ms", paramName := [], valueType := asciiBytes "int32"
        sourceJson := [], defaultJson := asciiBytes "250", states },
      { paramId := asciiBytes "delay_ms", paramName := [], valueType := asciiBytes "int32"
        sourceJson := [], defaultJson := asciiBytes "0", states := [asciiBytes "RUNNING"] }] }]
  pipelines := [{
    pipeId := asciiBytes "p", name := [], domain := [], direction := [], sourceJson := []
    ports := []
    nodes := [{
      nodeId := asciiBytes "n", kind := asciiBytes "module", instId := asciiBytes "d", name := []
      moduleType := asciiBytes "delay.line", widgetName := [], sourceJson := [] }]
    edges := [] }]

def anyModuleConfigs : ModuleConfigRegistry :=
  [{ moduleType := asciiBytes "*"
     validatePreset := fun _ => .ok ()
     packPreset := fun request => .ok ⟨asciiBytes "as-generic-preset-json-v1", request.valuesJson⟩
     packInstallConfig := fun request =>
       .ok ⟨asciiBytes "as-generic-install-json-v1", request.valuesJson⟩
     packRuntimeParam := fun request =>
       .ok ⟨asciiBytes "as-generic-runtime-json-v1", request.valuesJson⟩ }]

def delayLineTables (states : List Bytes) : ProjectIr :=
  (buildParameterTables (delayLineProject states) anyModuleConfigs).toOption.getD
    { projectName := [] }

theorem buildParameterTables_delayLine {states : List Bytes}
    (hok : (buildParameterTables (delayLineProject states) anyModuleConfigs).isOk = true) :
    buildParameterTables (delayLineProject states) anyModuleConfigs =
      .ok (delayLineTables states) := by
  unfold delayLineTables
  cases hbuild : buildParameterTables (delayLineProject states) anyModuleConfigs with
  | error fault =>
      rw [hbuild] at hok
      cases hok
  | ok built => rfl

/-- Of a delay line all parameters of which can be set while running the defaults are carried. -/
theorem tables_complete_running :
    TablesComplete (delayLineProject [asciiBytes "RUNNING"]) anyModuleConfigs
      (delayLineTables [asciiBytes "RUNNING"]) := by
  apply (tables_complete_iff (buildParameterTables_delayLine (by decide +kernel))).mpr
  intro place hmem huses type htype _
  obtain rfl := List.mem_singleton.mp hmem
  cases htype
  decide +kernel

/-- No control carries the defaults of a delay line whose first parameter is for installing. -/
theorem delay_line_loses_defaults : ¬ ∀ (ir built : ProjectIr)
    (moduleConfigs : ModuleConfigRegistry),
    buildParameterTables ir moduleConfigs = .ok built →
      TablesComplete ir moduleConfigs built := by
  intro hcomplete
  have hbuild := @buildParameterTables_delayLine [] (by decide +kernel)
  have hcarried := (hcomplete _ _ _ hbuild).carried hbuild
  have hone := hcarried _ (List.mem_singleton_self _) (by decide) _ rfl (by decide)
  exact absurd hone (by decide +kernel)

end AudioStudio.Config
