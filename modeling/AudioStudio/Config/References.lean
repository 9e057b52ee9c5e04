import AudioStudio.Config.Conf

/-!
# References of the ALSA conf

Every name that a section refers to is the name of a section, apart from controls that a
widget lists and `controlConf` leaves out; and when a control is listed once.
-/

namespace AudioStudio.Config

open AudioStudio.Common
open AudioStudio.LittleEndian
open AudioStudio.Rpc

/-! ## Resolved references -/

/-- The names of the sections of a conf. -/
def declared (conf : List ConfSection) : List SectionName :=
  conf.map ConfSection.self

theorem declared_append {first second : List ConfSection} :
    declared (first ++ second) = declared first ++ declared second :=
  List.map_append

variable {α : Type}

variable {items : List α} {emit : α → List ConfSection}

theorem declared_flatMap :
    declared (items.flatMap emit) = items.flatMap fun item => declared (emit item) :=
  List.map_flatMap

/-- Every reference is the name of a section of the conf or one of these others. -/
def Resolved (others : List SectionName) (conf : List ConfSection) : Prop :=
  ∀ block ∈ conf, ∀ reference ∈ block.references, reference ∈ others ∨ reference ∈ declared conf

section Resolving

variable {others : List SectionName} {first second : List ConfSection}

/-- Sections behind others may refer to them. -/
theorem Resolved.behind (hfirst : Resolved others first)
    (hsecond : Resolved (others ++ declared first) second) : Resolved others (first ++ second) := by
  intro block hmem reference href
  rw [declared_append, List.mem_append]
  rcases List.mem_append.mp hmem with hleft | hright
  · rcases hfirst block hleft reference href with hother | hdeclared
    · exact .inl hother
    · exact .inr (.inl hdeclared)
  · rcases hsecond block hright reference href with hother | hdeclared
    · rcases List.mem_append.mp hother with hother | hdeclared
      · exact .inl hother
      · exact .inr (.inl hdeclared)
    · exact .inr (.inr hdeclared)

theorem Resolved.mono {others' : List SectionName} (hothers : others ⊆ others')
    (hfirst : Resolved others first) : Resolved others' first := by
  intro block hmem reference href
  rcases hfirst block hmem reference href with hother | hdeclared
  · exact .inl (hothers hother)
  · exact .inr hdeclared

theorem Resolved.append (hfirst : Resolved others first) (hsecond : Resolved others second) :
    Resolved others (first ++ second) :=
  hfirst.behind (hsecond.mono (List.subset_append_left _ _))

theorem Resolved.flatMap (hitems : ∀ item ∈ items, Resolved others (emit item)) :
    Resolved others (items.flatMap emit) := by
  intro block hmem reference href
  obtain ⟨item, hitem, hblock⟩ := List.mem_flatMap.mp hmem
  rw [declared_flatMap, List.mem_flatMap]
  rcases hitems item hitem block hblock reference href with hother | hdeclared
  · exact .inl hother
  · exact .inr ⟨item, hitem, hdeclared⟩

/-- One section, all of whose references are known. -/
theorem Resolved.single {block : ConfSection} (hreferences : block.references ⊆ others) :
    Resolved others [block] := by
  intro other hmem reference href
  rw [List.mem_singleton.mp hmem] at href
  exact .inl (hreferences href)

/-- A section that refers to the one before it. -/
theorem pair_resolved {name name' : SectionName} :
    Resolved others [⟨name, []⟩, ⟨name', [name]⟩] := by
  intro block hmem reference href
  rcases List.mem_cons.mp hmem with rfl | hmem
  · cases href
  · rw [List.mem_singleton.mp hmem] at href
    rw [List.mem_singleton.mp href]
    exact .inr List.mem_cons_self

end Resolving

/-! ## Sections beside the controls -/

/-- The token sets, which every block of tuples refers to. -/
def tokens : List SectionName :=
  declared emitSofVendorTokens

variable {tokenSet : String}

theorem mem_tokens (hset : asciiBytes tokenSet ∈ sofVendorTokens) :
    ⟨.vendorTokens, asciiBytes tokenSet⟩ ∈ tokens := by
  unfold tokens declared emitSofVendorTokens
  rw [List.map_map]
  exact List.mem_map.mpr ⟨_, hset, rfl⟩

variable {tuples data : Bytes}

theorem emitTupleData_resolved (hset : asciiBytes tokenSet ∈ sofVendorTokens) :
    Resolved tokens (emitTupleData tuples data tokenSet) := by
  intro block hmem reference href
  rcases List.mem_cons.mp hmem with rfl | hmem
  · rw [List.mem_singleton.mp href]
    exact .inl (mem_tokens hset)
  · rw [List.mem_singleton.mp hmem] at href
    rw [List.mem_singleton.mp href]
    exact .inr List.mem_cons_self

theorem mem_emitTupleData (tuples data : Bytes) (tokenSet : String) :
    ⟨.data, data⟩ ∈ declared (emitTupleData tuples data tokenSet) :=
  List.mem_cons_of_mem _ List.mem_cons_self

/-- A section that refers to the data of the block before it. -/
theorem tupleWidget_resolved (hset : asciiBytes tokenSet ∈ sofVendorTokens) (widget : SectionWidget)
    :
    Resolved tokens (emitTupleData tuples data tokenSet ++
      [widgetSection widget (dataNames [data])]) := by
  apply (emitTupleData_resolved hset).behind
  apply Resolved.single
  intro reference href
  rw [List.mem_singleton.mp href]
  exact List.mem_append_right _ (mem_emitTupleData tuples data tokenSet)

theorem pipelineSchedulerConf_resolved (pipeline : PipelineInfo) :
    Resolved tokens (pipelineSchedulerConf pipeline) :=
  tupleWidget_resolved (by decide) _

theorem daiSchedulerConf_resolved (pipeline : PipelineInfo) (node : NodeInfo) :
    Resolved tokens (daiSchedulerConf pipeline node) :=
  tupleWidget_resolved (by decide) _

theorem inferredBufferConf_resolved (pipeline : PipelineInfo) (edge : EdgeInfo)
    (edgeIndex : Nat) : Resolved tokens (inferredBufferConf pipeline edge edgeIndex) := by
  unfold inferredBufferConf
  split
  · intro block hmem
    cases hmem
  · dsimp only
    apply ((emitTupleData_resolved (by decide)).append (emitTupleData_resolved (by decide))).behind
    apply Resolved.single
    intro reference href
    apply List.mem_append_right
    rw [declared_append]
    rcases List.mem_cons.mp href with rfl | href
    · exact List.mem_append_left _ (mem_emitTupleData _ _ _)
    · rw [List.mem_singleton.mp href]
      exact List.mem_append_right _ (mem_emitTupleData _ _ _)

theorem daiObjectConf_resolved (pipeline : PipelineInfo) (node : NodeInfo) :
    Resolved tokens (daiObjectConf pipeline node) := by
  unfold daiObjectConf
  split
  · intro block hmem
    cases hmem
  · next port hport =>
      dsimp only
      have hhw : ∀ name : Bytes, Resolved tokens [⟨⟨.hwConfig, name⟩, []⟩] :=
        fun name => Resolved.single (List.nil_subset _)
      apply ((((hhw _).append (emitTupleData_resolved (by decide))).append
        (emitTupleData_resolved (by decide))).append (emitTupleData_resolved (by decide))).behind
      intro block hmem reference href
      left
      apply List.mem_append_right
      rw [declared_append, declared_append, declared_append]
      rcases List.mem_cons.mp hmem with rfl | hmem
      · rcases List.mem_cons.mp href with rfl | href
        · apply List.mem_append_left
          apply List.mem_append_left
          exact List.mem_append_left _ List.mem_cons_self
        · obtain ⟨name, hname, rfl⟩ := List.mem_map.mp href
          rcases List.mem_append.mp hname with hcommon | hvsi
          · apply List.mem_append_left
            rcases List.mem_cons.mp hcommon with rfl | hcommon
            · apply List.mem_append_left
              exact List.mem_append_right _ (mem_emitTupleData _ _ _)
            · rw [List.mem_singleton.mp hcommon]
              exact List.mem_append_right _ (mem_emitTupleData _ _ _)
          · split at hvsi
            · rw [List.mem_singleton.mp hvsi]
              exact List.mem_append_right _ (mem_emitTupleData _ _ _)
            · cases hvsi
      · rw [List.mem_singleton.mp hmem] at href
        cases href

theorem pcmConf_resolved (pipeline : PipelineInfo) : Resolved [] (pcmConf pipeline) :=
  pair_resolved

theorem privateConf_resolved : Resolved [] privateConf :=
  pair_resolved

theorem controlConf_resolved (control : ControlInfo) : Resolved [] (controlConf control) := by
  have hnone : Resolved [] [] := fun block hmem => nomatch hmem
  unfold controlConf
  split
  · exact hnone
  · split
    · exact pair_resolved
    · split
      · exact hnone
      · split
        · exact pair_resolved
        · split
          · exact pair_resolved
          · exact Resolved.single (List.nil_subset _)

theorem nodeTupleBlocks_tokens (pipeline : PipelineInfo) (node : NodeInfo) :
    ∀ block ∈ nodeTupleBlocks pipeline node, asciiBytes block.2.2 ∈ sofVendorTokens := by
  intro block hmem
  unfold nodeTupleBlocks at hmem
  simp only [List.mem_append, or_assoc] at hmem
  rcases hmem with hbase | hdai | heffect | hsrc | hasrc
  · revert block
    decide
  all_goals
    split at *
    · revert block
      decide
    · revert block
      decide

/-- The blocks of tuples of a node, and behind them the widget. -/
theorem sofWidgetConf_resolved (ir : ProjectIr) (pipeline : PipelineInfo) (node : NodeInfo) :
    Resolved (tokens ++ controlLists ir pipeline node) (sofWidgetConf ir pipeline node) := by
  have hblocks : Resolved (tokens ++ controlLists ir pipeline node)
      ((nodeTupleBlocks pipeline node).flatMap fun block =>
        emitTupleData (sofSectionBase pipeline node ++ asciiBytes block.1)
          (sofSectionBase pipeline node ++ asciiBytes block.2.1) block.2.2) := by
    apply Resolved.flatMap
    intro block hmem
    apply (emitTupleData_resolved (nodeTupleBlocks_tokens pipeline node block hmem)).mono
    exact List.subset_append_left _ _
  apply hblocks.behind
  apply Resolved.single
  intro reference href
  rcases List.mem_append.mp href with hdata | hlist
  · obtain ⟨name, hname, rfl⟩ := List.mem_map.mp hdata
    obtain ⟨block, hmem, rfl⟩ := List.mem_map.mp hname
    apply List.mem_append_right
    rw [declared_flatMap, List.mem_flatMap]
    exact ⟨block, hmem, mem_emitTupleData _ _ _⟩
  · apply List.mem_append_left
    exact List.mem_append_right _ hlist

/-! ## Widgets of graphs -/

variable {pipeline : PipelineInfo} {node : NodeInfo}

theorem nodeWidget_declared (ir : ProjectIr) (hnode : node ∈ pipeline.nodes) :
    ⟨.widget, node.widgetName⟩ ∈ declared (pipelineConf ir pipeline) := by
  unfold pipelineConf
  simp only [declared_append, declared_flatMap, List.mem_append, List.mem_flatMap]
  left; left; left; right
  refine ⟨node, hnode, ?_⟩
  unfold sofWidgetConf
  rw [declared_append]
  exact List.mem_append_right _ List.mem_cons_self

variable {edge : EdgeInfo} {edgeIndex : Nat}

theorem buffer_declared (ir : ProjectIr) (hedge : (edge, edgeIndex) ∈ pipeline.edges.zipIdx)
    {nodes : NodeInfo × NodeInfo} (hnodes : edgeNodes pipeline edge = some nodes) :
    ⟨.widget, inferredBufferName pipeline edgeIndex⟩ ∈ declared (pipelineConf ir pipeline) := by
  unfold pipelineConf
  simp only [declared_append, declared_flatMap, List.mem_append, List.mem_flatMap]
  left; left; right
  refine ⟨(edge, edgeIndex), hedge, ?_⟩
  dsimp only
  unfold inferredBufferConf
  rw [hnodes]
  dsimp only
  rw [declared_append]
  exact List.mem_append_right _ List.mem_cons_self

/-- The lines of an edge are between its nodes and its buffer. -/
theorem edgeGraphs_widgets (ir : ProjectIr) (hedge : (edge, edgeIndex) ∈ pipeline.edges.zipIdx) :
    ∀ route ∈ (edgeGraphs pipeline edge edgeIndex).1 ++
        (edgeGraphs pipeline edge edgeIndex).2.flatMap SectionGraph.lines,
      ⟨.widget, route.sink⟩ ∈ declared (pipelineConf ir pipeline) ∧
        ⟨.widget, route.source⟩ ∈ declared (pipelineConf ir pipeline) := by
  cases hnodes : edgeNodes pipeline edge with
  | none =>
      intro route hmem
      unfold edgeGraphs at hmem
      rw [hnodes] at hmem
      cases hmem
  | some ends =>
      obtain ⟨source, sink⟩ := ends
      obtain ⟨⟨hsource, _⟩, hsink, _⟩ := edgeNodes_eq hnodes
      have hfrom := nodeWidget_declared ir hsource
      have hto := nodeWidget_declared ir hsink
      have hbuffer := buffer_declared ir hedge hnodes
      have hroutes : ∀ route ∈ (edgeGraphs pipeline edge edgeIndex).1 ++
          (edgeGraphs pipeline edge edgeIndex).2.flatMap SectionGraph.lines,
          route = ⟨inferredBufferName pipeline edgeIndex, source.widgetName⟩ ∨
            route = ⟨sink.widgetName, inferredBufferName pipeline edgeIndex⟩ := by
        unfold edgeGraphs
        rw [hnodes]
        dsimp only
        intro route hmem
        split at hmem
        · simpa [or_comm] using hmem
        · split at hmem
          · simpa using hmem
          · simpa using hmem
      intro route hmem
      rcases hroutes route hmem with rfl | rfl
      · exact ⟨hbuffer, hfrom⟩
      · exact ⟨hto, hbuffer⟩

theorem graphs_resolved (ir : ProjectIr) (pipeline : PipelineInfo) :
    Resolved (declared (pipelineConf ir pipeline))
      ((sectionGraphs pipeline).map graphSection) := by
  have hlines : ∀ graph ∈ sectionGraphs pipeline, ∀ route ∈ graph.lines,
      ∃ edge ∈ pipeline.edges.zipIdx, route ∈ (edgeGraphs pipeline edge.1 edge.2).1 ++
        (edgeGraphs pipeline edge.1 edge.2).2.flatMap SectionGraph.lines := by
    intro graph hgraph route hroute
    unfold sectionGraphs at hgraph
    rcases List.mem_cons.mp hgraph with rfl | hgraph
    · obtain ⟨graphs, hgraphs, hmain⟩ := List.mem_flatMap.mp hroute
      obtain ⟨edge, hedge, rfl⟩ := List.mem_map.mp hgraphs
      exact ⟨edge, hedge, List.mem_append_left _ hmain⟩
    · obtain ⟨graphs, hgraphs, hdai⟩ := List.mem_flatMap.mp hgraph
      obtain ⟨edge, hedge, rfl⟩ := List.mem_map.mp hgraphs
      exact ⟨edge, hedge, List.mem_append_right _ (List.mem_flatMap.mpr ⟨graph, hdai, hroute⟩)⟩
  intro block hblock reference href
  obtain ⟨graph, hgraph, rfl⟩ := List.mem_map.mp hblock
  obtain ⟨route, hroute, hends⟩ := List.mem_flatMap.mp href
  obtain ⟨edge, hedge, hmem⟩ := hlines graph hgraph route hroute
  obtain ⟨hsink, hsource⟩ := edgeGraphs_widgets ir hedge route hmem
  left
  rcases List.mem_cons.mp hends with rfl | hends
  · exact hsink
  · rw [List.mem_singleton.mp hends]
    exact hsource

theorem pipelineConf_resolved (ir : ProjectIr) (pipeline : PipelineInfo) :
    Resolved (tokens ++ pipeline.nodes.flatMap (controlLists ir pipeline))
      (pipelineConf ir pipeline) := by
  have hscheduler := pipelineSchedulerConf_resolved pipeline
  have hnodes : Resolved (tokens ++ pipeline.nodes.flatMap (controlLists ir pipeline))
      (pipeline.nodes.flatMap (sofWidgetConf ir pipeline)) := by
    apply Resolved.flatMap
    intro node hnode
    apply (sofWidgetConf_resolved ir pipeline node).mono
    apply List.append_subset.mpr
    constructor
    · exact List.subset_append_left _ _
    · intro reference href
      exact List.mem_append_right _ (List.mem_flatMap.mpr ⟨node, hnode, href⟩)
  have hbuffers : Resolved tokens (pipeline.edges.zipIdx.flatMap fun edge =>
      inferredBufferConf pipeline edge.1 edge.2) :=
    Resolved.flatMap fun edge _ => inferredBufferConf_resolved pipeline edge.1 edge.2
  have hschedulers : Resolved tokens ((pipeline.nodes.filter (isDaiPortWidget pipeline)).flatMap
      (daiSchedulerConf pipeline)) :=
    Resolved.flatMap fun node _ => daiSchedulerConf_resolved pipeline node
  have hobjects : Resolved tokens ((pipeline.nodes.filter (isDaiPortWidget pipeline)).flatMap
      (daiObjectConf pipeline)) :=
    Resolved.flatMap fun node _ => daiObjectConf_resolved pipeline node
  have htokens : tokens ⊆ tokens ++ pipeline.nodes.flatMap (controlLists ir pipeline) :=
    List.subset_append_left _ _
  exact ((((hscheduler.mono htokens).append hnodes).append (hbuffers.mono htokens)).append
    (hschedulers.mono htokens)).append (hobjects.mono htokens)

/-! ## Controls -/

/-- A topology control for which no section is written. -/
def Silent (control : ControlInfo) : Prop :=
  control.emitTopology ∧ ¬ isSofBytes control ∧ control.valueType = asciiBytes "bytes"

/-- The section of a control that is written. -/
def Written (control : ControlInfo) : Prop :=
  control.emitTopology ∧ ¬ Silent control

instance (control : ControlInfo) : Decidable (Silent control) :=
  inferInstanceAs (Decidable (_ ∧ _ ∧ _))

instance (control : ControlInfo) : Decidable (Written control) :=
  inferInstanceAs (Decidable (_ ∧ _))

/-- The name of its control section, which is of the class of its list. -/
def controlSection (control : ControlInfo) : SectionName :=
  ⟨controlList control, topologyName control⟩

variable {control : ControlInfo}

theorem controlSection_declared (hwritten : Written control) :
    controlSection control ∈ declared (controlConf control) := by
  obtain ⟨hemit, hsilent⟩ := hwritten
  unfold controlSection controlConf controlList
  rw [hemit]
  by_cases hsof : isSofBytes control
  · simp [hsof, declared]
  · have hbytes : control.valueType ≠ asciiBytes "bytes" := fun hvalue =>
      hsilent ⟨hemit, hsof, hvalue⟩
    by_cases henum : control.valueType = asciiBytes "enum"
    · simp [hsof, henum, declared, (by decide : asciiBytes "enum" ≠ asciiBytes "bytes")]
    · by_cases hrange : control.rangePresent = true ∧ control.valueType ≠ asciiBytes "bool"
      · simp [hsof, hbytes, henum, hrange, declared]
      · simp [hsof, hbytes, henum, hrange, declared]

/-- A mixer section is that of a written control. -/
theorem mixer_declared {name : Bytes}
    (hmixer : ⟨.controlMixer, name⟩ ∈ declared (controlConf control)) :
    Written control ∧ controlSection control = ⟨.controlMixer, name⟩ := by
  unfold controlSection controlList
  unfold controlConf at hmixer
  by_cases hemit : control.emitTopology = true
  · by_cases hsof : isSofBytes control = true
    · simp [hemit, hsof, declared] at hmixer
    · by_cases hbytes : control.valueType = asciiBytes "bytes"
      · simp [hemit, hsof, hbytes, declared] at hmixer
      · have hwritten : Written control := ⟨hemit, fun hsilent => hbytes hsilent.2.2⟩
        by_cases henum : control.valueType = asciiBytes "enum"
        · simp [hemit, hsof, henum, declared,
            (by decide : asciiBytes "enum" ≠ asciiBytes "bytes")] at hmixer
        · refine ⟨hwritten, ?_⟩
          by_cases hrange : control.rangePresent = true ∧ control.valueType ≠ asciiBytes "bool"
          · simp [hemit, hsof, hbytes, henum, hrange, declared] at hmixer
            simp [hsof, henum, hmixer]
          · simp [hemit, hsof, hbytes, henum, hrange, declared] at hmixer
            simp [hsof, henum, hmixer]
  · simp [hemit, declared] at hmixer

theorem pipelineConf_mixerless (ir : ProjectIr) (pipeline : PipelineInfo) (name : Bytes) :
    ⟨.controlMixer, name⟩ ∉ declared (pipelineConf ir pipeline) := by
  have htuples : ∀ tuples data tokenSet,
      ⟨.controlMixer, name⟩ ∉ declared (emitTupleData tuples data tokenSet) := by
    intro tuples data tokenSet
    simp [emitTupleData, declared]
  have hwidget : ∀ widget references,
      ⟨.controlMixer, name⟩ ∉ declared [widgetSection widget references] := by
    intro widget references
    simp [widgetSection, declared]
  unfold pipelineConf pipelineSchedulerConf sofWidgetConf nodeWidget daiSchedulerConf
  simp only [declared_append, declared_flatMap, List.mem_append, List.mem_flatMap, htuples, hwidget,
    false_or, or_false, not_or, not_exists, not_and, and_false, exists_false]
  constructor
  · intro edge _ hbuffer
    unfold inferredBufferConf at hbuffer
    split at hbuffer
    · cases hbuffer
    · simp [emitTupleData, declared] at hbuffer
  · intro node _ hobject
    unfold daiObjectConf at hobject
    split at hobject
    · cases hobject
    · simp [emitTupleData, declared] at hobject

/-- The mixer sections of the conf are those of its written controls. -/
theorem mixer_declared_iff (ir : ProjectIr) (name : Bytes) :
    ⟨.controlMixer, name⟩ ∈ declared (generateAlsaConf ir) ↔
      ∃ control ∈ ir.controls, Written control ∧
        controlSection control = ⟨.controlMixer, name⟩ := by
  constructor
  · intro hmixer
    unfold generateAlsaConf at hmixer
    simp only [declared_append, declared_flatMap, List.mem_append, List.mem_flatMap] at hmixer
    rcases hmixer with ((((htokens | hprivate) | hcontrol) | hpipeline) | hpcm) | hgraph
    · simp [declared, emitSofVendorTokens] at htokens
    · simp [declared, privateConf] at hprivate
    · obtain ⟨control, hmem, hdeclared⟩ := hcontrol
      exact ⟨control, hmem, mixer_declared hdeclared⟩
    · obtain ⟨pipeline, _, hdeclared⟩ := hpipeline
      exact absurd hdeclared (pipelineConf_mixerless ir pipeline name)
    · obtain ⟨pipeline, _, hdeclared⟩ := hpcm
      simp [declared, pcmConf] at hdeclared
    · obtain ⟨pipeline, _, hdeclared⟩ := hgraph
      simp [declared, graphSection] at hdeclared
  · rintro ⟨control, hmem, hwritten, hsection⟩
    unfold generateAlsaConf
    simp only [declared_append, declared_flatMap, List.mem_append, List.mem_flatMap]
    left; left; left; right
    exact ⟨control, hmem, hsection ▸ controlSection_declared hwritten⟩

variable {ir : ProjectIr}

theorem controlSection_mem (hmem : control ∈ ir.controls) (hwritten : Written control) :
    controlSection control ∈ declared (generateAlsaConf ir) := by
  unfold generateAlsaConf
  simp only [declared_append, declared_flatMap, List.mem_append, List.mem_flatMap]
  left; left; left; right
  exact ⟨control, hmem, controlSection_declared hwritten⟩

/-- What a widget lists are the topology controls of its node. -/
theorem mem_controlLists {reference : SectionName} : reference ∈ controlLists ir pipeline node ↔
      ∃ control ∈ nodeControls ir pipeline node, reference = controlSection control := by
  unfold controlLists controlsForNode
  simp only [List.mem_flatMap, List.mem_map, List.mem_filter, decide_eq_true_eq]
  constructor
  · rintro ⟨kind, _, name, ⟨control, ⟨hmem, rfl⟩, rfl⟩, rfl⟩
    exact ⟨control, hmem, rfl⟩
  · rintro ⟨control, hmem, rfl⟩
    refine ⟨controlList control, ?_, topologyName control, ⟨control, ⟨hmem, rfl⟩, rfl⟩, rfl⟩
    unfold controlList
    split_ifs <;> decide

theorem nodeControls_mem : control ∈ nodeControls ir pipeline node ↔ control ∈ ir.controls ∧
      control.pipeId = pipeline.pipeId ∧ control.nodeId = node.nodeId ∧ control.emitTopology := by
  unfold nodeControls
  rw [List.mem_filter, decide_eq_true_eq]

/-- Every silent control has the name of a mixer control that is written. -/
def SilentNamed (ir : ProjectIr) : Prop :=
  ∀ control ∈ ir.controls, Silent control →
    ∃ other ∈ ir.controls, Written other ∧ controlList other = .controlMixer ∧
      topologyName other = topologyName control

/-- Every reference of the conf is the name of a section of its class. -/
def ReferencesResolved (ir : ProjectIr) : Prop :=
  Resolved [] (generateAlsaConf ir)

theorem Silent.section_eq (hsilent : Silent control) :
    controlSection control = ⟨.controlMixer, topologyName control⟩ := by
  obtain ⟨_, hsof, hbytes⟩ := hsilent
  unfold controlSection controlList
  rw [if_neg hsof, if_neg (by rw [hbytes]; decide)]

theorem Resolved.self {conf : List ConfSection} (hresolved : Resolved (declared conf) conf) :
    Resolved [] conf := by
  intro block hmem reference href
  right
  rcases hresolved block hmem reference href with hdeclared | hdeclared
  · exact hdeclared
  · exact hdeclared

theorem nodeWidget_mem (hpipeline : pipeline ∈ ir.pipelines) (hnode : node ∈ pipeline.nodes) :
    nodeWidget ir pipeline node ∈ generateAlsaConf ir := by
  unfold generateAlsaConf pipelineConf sofWidgetConf
  simp only [List.mem_append, List.mem_flatMap]
  left; left; right
  refine ⟨pipeline, hpipeline, ?_⟩
  left; left; left; right
  exact ⟨node, hnode, .inr List.mem_cons_self⟩

theorem SilentNamed.resolved (hnamed : SilentNamed ir) : ReferencesResolved ir := by
  apply Resolved.self
  have htokens : tokens ⊆ declared (generateAlsaConf ir) := by
    intro reference href
    unfold generateAlsaConf
    simp only [declared_append, List.mem_append]
    left; left; left; left; left
    exact href
  have hlists : ∀ pipeline ∈ ir.pipelines, ∀ node ∈ pipeline.nodes,
      controlLists ir pipeline node ⊆ declared (generateAlsaConf ir) := by
    intro pipeline _ node _ reference href
    obtain ⟨control, hcontrol, rfl⟩ := mem_controlLists.mp href
    obtain ⟨hmem, _, _, hemit⟩ := nodeControls_mem.mp hcontrol
    by_cases hsilent : Silent control
    · obtain ⟨other, hother, hwritten, hlist, hname⟩ := hnamed control hmem hsilent
      have hsection : controlSection control = controlSection other := by
        rw [hsilent.section_eq, controlSection, hlist, hname]
      rw [hsection]
      exact controlSection_mem hother hwritten
    · exact controlSection_mem hmem ⟨hemit, hsilent⟩
  have hpipelines : ∀ pipeline ∈ ir.pipelines,
      declared (pipelineConf ir pipeline) ⊆ declared (generateAlsaConf ir) := by
    intro pipeline hpipeline reference href
    unfold generateAlsaConf
    simp only [declared_append, declared_flatMap, List.mem_append, List.mem_flatMap]
    left; left; right
    exact ⟨pipeline, hpipeline, href⟩
  have hnone : ∀ block ∈ emitSofVendorTokens, block.references = [] := by decide
  have hvendor : Resolved (declared (generateAlsaConf ir)) emitSofVendorTokens := by
    intro block hmem reference href
    rw [hnone block hmem] at href
    cases href
  have hcontrols : Resolved (declared (generateAlsaConf ir)) (ir.controls.flatMap controlConf) :=
    Resolved.flatMap fun control _ => (controlConf_resolved control).mono (List.nil_subset _)
  have hwidgets : Resolved (declared (generateAlsaConf ir))
      (ir.pipelines.flatMap (pipelineConf ir)) := by
    apply Resolved.flatMap
    intro pipeline hpipeline
    apply (pipelineConf_resolved ir pipeline).mono
    apply List.append_subset.mpr
    refine ⟨htokens, ?_⟩
    intro reference href
    obtain ⟨node, hnode, hlisted⟩ := List.mem_flatMap.mp href
    exact hlists pipeline hpipeline node hnode hlisted
  have hpcms : Resolved (declared (generateAlsaConf ir)) (ir.pipelines.flatMap pcmConf) :=
    Resolved.flatMap fun pipeline _ => (pcmConf_resolved pipeline).mono (List.nil_subset _)
  have hgraphs : Resolved (declared (generateAlsaConf ir))
      (ir.pipelines.flatMap fun pipeline => (sectionGraphs pipeline).map graphSection) :=
    Resolved.flatMap fun pipeline hpipeline =>
      (graphs_resolved ir pipeline).mono (hpipelines pipeline hpipeline)
  exact ((((hvendor.append (privateConf_resolved.mono (List.nil_subset _))).append
    hcontrols).append hwidgets).append hpcms).append hgraphs

theorem ReferencesResolved.silentNamed
    (howned : ∀ control ∈ ir.controls, HasNode ir.pipelines control)
    (hresolved : ReferencesResolved ir) : SilentNamed ir := by
  intro control hmem hsilent
  obtain ⟨pipeline, hpipeline, node, hnode, hpipe, hid⟩ := howned control hmem
  have hlisted : controlSection control ∈ controlLists ir pipeline node :=
    mem_controlLists.mpr ⟨control, nodeControls_mem.mpr ⟨hmem, hpipe, hid, hsilent.1⟩, rfl⟩
  have href : controlSection control ∈ (nodeWidget ir pipeline node).references :=
    List.mem_append_right _ hlisted
  have hdeclared := (hresolved _ (nodeWidget_mem hpipeline hnode) _ href).resolve_left
    (fun hnil => nomatch hnil)
  rw [hsilent.section_eq, mixer_declared_iff] at hdeclared
  obtain ⟨other, hother, hwritten, hsection⟩ := hdeclared
  have hlist := congrArg SectionName.kind hsection
  have hname := congrArg SectionName.name hsection
  exact ⟨other, hother, hwritten, hlist, hname⟩

/-! ## Listed once -/

/-- The widgets of the nodes that have the pipeline id and the node id of a control. -/
def ownWidgets (ir : ProjectIr) (control : ControlInfo) : List ConfSection :=
  ir.pipelines.flatMap fun pipeline => (pipeline.nodes.filter fun node =>
    control.pipeId = pipeline.pipeId ∧ control.nodeId = node.nodeId).map (nodeWidget ir pipeline)

/-- How often its own widget lists a control, under the list of its class. -/
def listings (ir : ProjectIr) (control : ControlInfo) : Nat :=
  ((ownWidgets ir control).flatMap ConfSection.references).count (controlSection control)

/-- The topology controls of the same node that are listed under the same name. -/
def namesakes (ir : ProjectIr) (control : ControlInfo) : List ControlInfo :=
  ir.controls.filter fun other => other.pipeId = control.pipeId ∧ other.nodeId = control.nodeId ∧
    other.emitTopology ∧ controlSection other = controlSection control

theorem controlList_cases (control : ControlInfo) : controlList control = .controlMixer ∨
    controlList control = .controlEnum ∨ controlList control = .controlBytes := by
  unfold controlList
  split_ifs
  · exact .inr (.inr rfl)
  · exact .inr (.inl rfl)
  · exact .inl rfl

/-- Lists by class hold each control once. -/
theorem count_lists (controls : List ControlInfo) (reference : SectionName) :
    ([SectionClass.controlMixer, .controlEnum, .controlBytes].flatMap fun kind =>
      ((controls.filter (controlList · = kind)).map topologyName).map
        (SectionName.mk kind)).count reference =
      (controls.filter (controlSection · = reference)).length := by
  induction controls with
  | nil => rfl
  | cons control controls ih =>
      have hcount : ∀ kind, ((((control :: controls).filter (controlList · = kind)).map
          topologyName).map (SectionName.mk kind)).count reference =
            (((controls.filter (controlList · = kind)).map topologyName).map
              (SectionName.mk kind)).count reference +
            if controlList control = kind ∧ controlSection control = reference then 1 else 0 := by
        intro kind
        by_cases hkind : controlList control = kind
        · have hsection : controlSection control = ⟨kind, topologyName control⟩ := by
            rw [controlSection, hkind]
          rw [List.filter_cons, if_pos (decide_eq_true hkind), List.map_cons, List.map_cons,
            List.count_cons, hsection]
          simp [hkind]
        · rw [List.filter_cons, if_neg (by rwa [decide_eq_true_eq]), if_neg (fun h => hkind h.1),
            Nat.add_zero]
      have hlength : ((control :: controls).filter (controlSection · = reference)).length =
          (controls.filter (controlSection · = reference)).length +
            if controlSection control = reference then 1 else 0 := by
        by_cases hsection : controlSection control = reference
        · rw [List.filter_cons, if_pos (decide_eq_true hsection), if_pos hsection, List.length_cons]
        · rw [List.filter_cons, if_neg (by rwa [decide_eq_true_eq]), if_neg hsection, Nat.add_zero]
      simp only [List.flatMap_cons, List.flatMap_nil, List.append_nil, List.count_append] at ih ⊢
      rw [hcount, hcount, hcount, hlength, ← ih]
      rcases controlList_cases control with hlist | hlist | hlist
      all_goals
        rw [hlist]
        simp
        omega

/-- A widget of its node lists a control as often as there are namesakes. -/
theorem count_nodeWidget (hpipe : control.pipeId = pipeline.pipeId)
    (hid : control.nodeId = node.nodeId) :
    (nodeWidget ir pipeline node).references.count (controlSection control) =
      (namesakes ir control).length := by
  have hdata : ∀ names, (dataNames names).count (controlSection control) = 0 := by
    intro names
    rw [List.count_eq_zero]
    intro hmem
    obtain ⟨name, _, hname⟩ := List.mem_map.mp hmem
    have hkind := congrArg SectionName.kind hname
    rcases controlList_cases control with hlist | hlist | hlist
    all_goals
      rw [controlSection, hlist] at hkind
      cases hkind
  have hlists := count_lists (nodeControls ir pipeline node) (controlSection control)
  have hreferences : (nodeWidget ir pipeline node).references.count (controlSection control) =
      (controlLists ir pipeline node).count (controlSection control) := by
    unfold nodeWidget widgetSection
    rw [List.count_append, hdata, Nat.zero_add]
  have hfilter : (nodeControls ir pipeline node).filter
      (controlSection · = controlSection control) = namesakes ir control := by
    unfold nodeControls namesakes
    rw [List.filter_filter]
    apply List.filter_congr
    intro other _
    rw [hpipe, hid, ← Bool.decide_and]
    apply decide_eq_decide.mpr
    tauto
  rw [hreferences, ← hfilter]
  exact hlists

theorem listings_eq (ir : ProjectIr) (control : ControlInfo) :
    listings ir control = (ownWidgets ir control).length * (namesakes ir control).length := by
  have hwidgets : ∀ widget ∈ ownWidgets ir control,
      widget.references.count (controlSection control) = (namesakes ir control).length := by
    intro widget hmem
    obtain ⟨pipeline, _, hmapped⟩ := List.mem_flatMap.mp hmem
    obtain ⟨node, hnode, rfl⟩ := List.mem_map.mp hmapped
    obtain ⟨_, hids⟩ := List.mem_filter.mp hnode
    obtain ⟨hpipe, hid⟩ := of_decide_eq_true hids
    exact count_nodeWidget hpipe hid
  unfold listings
  generalize ownWidgets ir control = widgets at hwidgets
  induction widgets with
  | nil => rw [List.flatMap_nil, List.count_nil, List.length_nil, Nat.zero_mul]
  | cons widget widgets ih =>
      obtain ⟨hwidget, hlater⟩ := List.forall_mem_cons.mp hwidgets
      rw [List.flatMap_cons, List.count_append, hwidget, ih hlater, List.length_cons,
        Nat.succ_mul, Nat.add_comm]

/-- Every reference resolves, and every control section is listed once, by the widget of its
own node. -/
structure ReferentiallyClosed (ir : ProjectIr) : Prop where
  resolved : ReferencesResolved ir
  listed : ∀ control ∈ ir.controls, Written control → listings ir control = 1

/-- The ids and names of controls are told apart. -/
structure ControlsApart (ir : ProjectIr) : Prop where
  silent : SilentNamed ir
  node : ∀ control ∈ ir.controls, Written control → (ownWidgets ir control).length = 1
  name : ∀ control ∈ ir.controls, Written control → (namesakes ir control).length = 1

/-- The conf is referentially closed if and only if every topology control without a section
has the name of a mixer control, and of every control with a section the pipeline id and the
node id are those of one node and the name is that of one control of it in the same list. -/
theorem conf_closed_iff (beside : Beside) (moduleConfigs : ModuleConfigRegistry)
    (root : JsonValue) (projectName : Bytes) (importedModuleTypes : List JsonValue)
    (ir : ProjectIr)
    (hcompile : compileProject beside moduleConfigs root projectName importedModuleTypes = .ok ir) :
    ReferentiallyClosed ir ↔ ControlsApart ir := by
  have howned := compileProject_hasNode hcompile
  constructor
  · intro hclosed
    have hboth : ∀ control ∈ ir.controls, Written control →
        (ownWidgets ir control).length = 1 ∧ (namesakes ir control).length = 1 := by
      intro control hmem hwritten
      have hlistings := hclosed.listed control hmem hwritten
      rw [listings_eq] at hlistings
      exact ⟨Nat.eq_one_of_mul_eq_one_right hlistings, Nat.eq_one_of_mul_eq_one_left hlistings⟩
    constructor
    · exact hclosed.resolved.silentNamed howned
    · intro control hmem hwritten
      exact (hboth control hmem hwritten).1
    · intro control hmem hwritten
      exact (hboth control hmem hwritten).2
  · intro hapart
    constructor
    · exact hapart.silent.resolved
    · intro control hmem hwritten
      rw [listings_eq, hapart.node control hmem hwritten, hapart.name control hmem hwritten]

/-! ## One control -/

/-- The generic handler, for parameters that their text does not call bytes. -/
def genericModuleConfigHandler : ModuleConfigHandler where
  moduleType := asciiBytes "*"
  validatePreset _ := .ok ()
  packPreset request := .ok ⟨asciiBytes "as-generic-preset-json-v1", request.valuesJson⟩
  packInstallConfig request := .ok ⟨asciiBytes "as-generic-install-json-v1", request.valuesJson⟩
  packRuntimeParam request := .ok ⟨asciiBytes "as-generic-runtime-json-v1", request.valuesJson⟩

/-- A project with one volume, whose one parameter can be set while running. -/
def volumeProject (valueType : List (Bytes × JsonValue)) : JsonValue :=
  .object [
    (asciiBytes "module_instances", .array [.object [
      (asciiBytes "inst_id", .ofText "v"), (asciiBytes "module_type", .ofText "gain.volume")]]),
    (asciiBytes "module_types", .array [.object [
      (asciiBytes "parameters", .array [.object ([
        (asciiBytes "apply", .object [
          (asciiBytes "settable_states", .array [.ofText "RUNNING"])]),
        (asciiBytes "param_id", .ofText "level")] ++ valueType)]),
      (asciiBytes "type_id", .ofText "gain.volume")]]),
    (asciiBytes "pipelines", .array [.object [
      (asciiBytes "nodes", .array [.object [(asciiBytes "inst_ref", .ofText "v"),
        (asciiBytes "kind", .ofText "module"), (asciiBytes "node_id", .ofText "n")]]),
      (asciiBytes "pipe_id", .ofText "p")]])]

def compiledVolume (valueType : List (Bytes × JsonValue)) : ProjectIr :=
  (compileProject bareBeside [genericModuleConfigHandler] (volumeProject valueType) [] []).toOption
    |>.getD { projectName := [] }

theorem ok_of_isOk {reply : Parsed α} (fallback : α) (hok : reply.isOk = true) :
    reply = .ok (reply.toOption.getD fallback) := by
  cases reply with
  | error fault => cases hok
  | ok value => rfl

theorem compile_volume {valueType : List (Bytes × JsonValue)}
    (hok : (compileProject bareBeside [genericModuleConfigHandler] (volumeProject valueType)
      [] []).isOk = true) :
    compileProject bareBeside [genericModuleConfigHandler] (volumeProject valueType) [] [] =
      .ok (compiledVolume valueType) :=
  ok_of_isOk _ hok

theorem volume_closed :
    ReferentiallyClosed (compiledVolume [(asciiBytes "value_type", .ofText "int32")]) := by
  apply (conf_closed_iff bareBeside [genericModuleConfigHandler] _ [] [] _
    (compile_volume (by decide +kernel))).mpr
  have hloud : ∀ control ∈ (compiledVolume [(asciiBytes "value_type", .ofText "int32")]).controls,
      ¬ Silent control := by decide +kernel
  constructor
  · intro control hmem hsilent
    exact absurd hsilent (hloud control hmem)
  · decide +kernel
  · decide +kernel

/-- A parameter without a value type counts as bytes; the generic handler does not pack it as
such, no section is written for it, and its widget lists it as a mixer. -/
theorem untyped_volume_dangles : ¬ ∀ (beside : Beside) (moduleConfigs : ModuleConfigRegistry)
    (root : JsonValue) (projectName : Bytes) (importedModuleTypes : List JsonValue)
    (ir : ProjectIr),
    compileProject beside moduleConfigs root projectName importedModuleTypes = .ok ir →
      ReferentiallyClosed ir := by
  intro hclosed
  have hcompile := @compile_volume [] (by decide +kernel)
  have hvolume := hclosed _ _ _ _ _ _ hcompile
  have hnamed := hvolume.resolved.silentNamed (compileProject_hasNode hcompile)
  have hsilent : ∃ control ∈ (compiledVolume []).controls, Silent control := by decide +kernel
  have hunwritten : ∀ control ∈ (compiledVolume []).controls, ¬ Written control := by
    decide +kernel
  obtain ⟨control, hmem, hsilent⟩ := hsilent
  obtain ⟨other, hother, hwritten, _⟩ := hnamed control hmem hsilent
  exact hunwritten other hother hwritten

end AudioStudio.Config
