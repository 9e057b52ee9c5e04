import AudioStudio.Core.Issues
import AudioStudio.Core.Walk
import AudioStudio.Loader.ComponentIds

/-!
# Routes between components

The components next to a component, through widgets that stand for none: what
`ac_collect_route_ids` finds is what the routes of the pipeline lead to, provided that the
widgets have names of their own.
-/

namespace AudioStudio.Loader

open LittleEndian

abbrev WidgetIndex (topology : AcTopology) := Fin topology.widgets.length

/-- A widget that a search goes on behind. -/
def isPassive (topology : AcTopology) (index : WidgetIndex topology) : Bool :=
  (topology.widgets.get index).id = acDapmBuffer ∨
    acCompTypeForWidget (topology.widgets.get index) = .none

/-- A route leads from one widget of the pipeline to the other, or back on the source side. -/
def Linked (topology : AcTopology) (pipelineId : UInt32) (sourceSide : Bool)
    (index other : WidgetIndex topology) : Prop :=
  (topology.widgets.get index).pipelineId = pipelineId ∧
    (topology.widgets.get other).pipelineId = pipelineId ∧
    ∃ route ∈ topology.routes,
      if sourceSide then
        route.sink = (topology.widgets.get index).name ∧
          route.source = (topology.widgets.get other).name
      else
        route.source = (topology.widgets.get index).name ∧
          route.sink = (topology.widgets.get other).name

/-- The ids that a pipeline's installation gives to the widgets. -/
def CompIdsOf (topology : AcTopology) (pipeline : AcPipeline) (compIds : List UInt16) : Prop :=
  ¬pipeline.id * acPipelineCompIdStride + 1 > 65535 ∧
    acNumberWidgets pipeline topology.widgets
      (pipeline.id * acPipelineCompIdStride + 1).toUInt16 = some compIds

/-- Each widget has a name, and no other has the same. -/
structure Named (topology : AcTopology) : Prop where
  unique : (topology.widgets.map (·.name)).Nodup
  nonempty : ∀ widget ∈ topology.widgets, widget.name ≠ []

def idOf (compIds : List UInt16) {topology : AcTopology} (index : WidgetIndex topology) : UInt16 :=
  compIds.getD index 0

section Ids

variable {topology : AcTopology} {pipeline : AcPipeline} {compIds : List UInt16}
  {index other : WidgetIndex topology}

theorem isComponent_iff : isComponent pipeline (topology.widgets.get index) = true ↔
    (topology.widgets.get index).pipelineId = pipeline.id ∧ isPassive topology index = false := by
  rw [isComponent, decide_eq_true_eq, isPassive, decide_eq_false_iff_not, not_or]
  refine and_congr_right fun _ => ⟨fun hcomponent => ⟨fun hbuffer => hcomponent ?_, hcomponent⟩,
    fun hboth => hboth.2⟩
  rw [acCompTypeForWidget, hbuffer]
  rfl

theorem acNumberWidgets_ne_zero {widgets : List AcWidget} {nextId : UInt16}
    (hnext : nextId ≠ 0) (hnumber : acNumberWidgets pipeline widgets nextId = some compIds)
    (position : Nat) (hposition : position < widgets.length) :
    compIds.getD position 0 ≠ 0 ↔ isComponent pipeline widgets[position] = true := by
  induction widgets generalizing nextId compIds position with
  | nil => exact absurd hposition (Nat.not_lt_zero _)
  | cons widget widgets ih =>
      rw [acNumberWidgets] at hnumber
      split at hnumber
      · next hcomponent =>
          split at hnumber
          · cases hnumber
          · next hlast =>
              obtain ⟨rest, hrest, rfl⟩ := Option.map_eq_some_iff.mp hnumber
              have hsucc : nextId + 1 ≠ 0 := by
                intro hzero
                apply hlast
                have hwrap : (65535 : UInt16) + 1 = 0 := by decide
                exact (UInt16.add_left_inj 1).mp (hzero.trans hwrap.symm)
              cases position with
              | zero => exact iff_of_true hnext hcomponent
              | succ position => exact ih hsucc hrest position (Nat.lt_of_succ_lt_succ hposition)
      · next hother =>
          obtain ⟨rest, hrest, rfl⟩ := Option.map_eq_some_iff.mp hnumber
          cases position with
          | zero => exact iff_of_false (fun hne => hne rfl) hother
          | succ position => exact ih hnext hrest position (Nat.lt_of_succ_lt_succ hposition)

theorem CompIdsOf.first_ne_zero (hcompIds : CompIdsOf topology pipeline compIds) :
    (pipeline.id * acPipelineCompIdStride + 1).toUInt16 ≠ 0 := by
  intro hzero
  have hfirst := firstId_toNat hcompIds.1
  rw [hzero] at hfirst
  exact absurd hfirst (Nat.succ_ne_zero _).symm

/-- The components of the pipeline are the widgets with an id. -/
theorem CompIdsOf.ne_zero (hcompIds : CompIdsOf topology pipeline compIds) :
    idOf compIds index ≠ 0 ↔ isComponent pipeline (topology.widgets.get index) = true :=
  acNumberWidgets_ne_zero hcompIds.first_ne_zero hcompIds.2 index index.isLt

/-- Different components have different ids. -/
theorem CompIdsOf.injective (hcompIds : CompIdsOf topology pipeline compIds)
    (hcomponent : isComponent pipeline (topology.widgets.get index) = true)
    (hsame : idOf compIds index = idOf compIds other) : index = other := by
  obtain ⟨hlength, hids⟩ := acNumberWidgets_ids hcompIds.first_ne_zero hcompIds.2
  have hnodup : (compIds.filter (· ≠ 0)).Nodup :=
    List.Nodup.of_map (·.toNat) (hids ▸ List.nodup_range')
  have hpairs := List.pairwise_iff_getElem.mp (List.pairwise_filter.mp hnodup)
  have hlt : ∀ position : WidgetIndex topology, position.val < compIds.length :=
    fun position => hlength.symm ▸ position.isLt
  have hless : ∀ first second : WidgetIndex topology, first.val < second.val →
      idOf compIds first ≠ 0 → idOf compIds first ≠ idOf compIds second := by
    intro first second hless hnonzero hsame
    have hnonzero' : idOf compIds second ≠ 0 := hsame ▸ hnonzero
    have hfirst : idOf compIds first = compIds.get ⟨first.val, hlt first⟩ :=
      List.getD_eq_getElem _ _ _
    have hsecond : idOf compIds second = compIds.get ⟨second.val, hlt second⟩ :=
      List.getD_eq_getElem _ _ _
    rw [hfirst] at hnonzero
    rw [hsecond] at hnonzero'
    refine hpairs first second (hlt first) (hlt second) hless ?_ ?_ ?_
    · exact decide_eq_true hnonzero
    · exact decide_eq_true hnonzero'
    · exact hfirst.symm.trans (hsame.trans hsecond)
  have hnonzero := hcompIds.ne_zero.mpr hcomponent
  obtain hbelow | heq | habove := Nat.lt_trichotomy index.val other.val
  · exact absurd hsame (hless index other hbelow hnonzero)
  · exact Fin.ext heq
  · exact absurd hsame.symm (hless other index habove (hsame ▸ hnonzero))

end Ids

/-! ## The routes as a graph -/

section Graph

variable {topology : AcTopology} {pipeline : AcPipeline} {pipelineId : UInt32}
  {compIds : List UInt16} {sourceSide : Bool} {index other : WidgetIndex topology}

/-- The name at the other end of a route that has this one at its near end. -/
def farName (sourceSide : Bool) (name : Bytes) (route : AcRoute) : Bytes :=
  if sourceSide then if route.sink = name then route.source else []
  else if route.source = name then route.sink else []

/-- The widget that a route leads to from a name. -/
def farWidget (topology : AcTopology) (pipelineId : UInt32) (sourceSide : Bool) (name : Bytes)
    (route : AcRoute) : Option (WidgetIndex topology) :=
  if (farName sourceSide name route).isEmpty then none
  else
    (topology.widgets.findFinIdx? (·.name == farName sourceSide name route)).filter fun index =>
      (topology.widgets.get index).pipelineId = pipelineId

/-- The widgets that the code visits next, in its order. -/
def neighbours (topology : AcTopology) (pipelineId : UInt32) (sourceSide : Bool)
    (index : WidgetIndex topology) : List (WidgetIndex topology) :=
  if (topology.widgets.get index).pipelineId = pipelineId then
    topology.routes.filterMap
      (farWidget topology pipelineId sourceSide (topology.widgets.get index).name)
  else []

theorem findFinIdx?_name (hnamed : Named topology) {name : Bytes} :
    topology.widgets.findFinIdx? (·.name == name) = some index ↔
      (topology.widgets.get index).name = name := by
  rw [List.findFinIdx?_eq_some_iff]
  constructor
  · exact fun hfound => eq_of_beq hfound.1
  · intro hname
    refine ⟨beq_iff_eq.mpr hname, fun before hbefore hsame => ?_⟩
    have hdistinct := List.pairwise_iff_getElem.mp (List.pairwise_map.mp hnamed.unique)
    have hless : before.val < index.val := hbefore
    exact hdistinct before.val index.val (Nat.lt_trans hless index.isLt) index.isLt hless
      ((eq_of_beq hsame).trans hname.symm)

theorem farName_eq {name far : Bytes} (hfar : far ≠ []) {route : AcRoute} :
    farName sourceSide name route = far ↔
      if sourceSide then route.sink = name ∧ route.source = far
      else route.source = name ∧ route.sink = far := by
  unfold farName
  cases sourceSide with
  | true =>
      rw [if_pos rfl, if_pos rfl]
      split
      · next hnear => exact (and_iff_right hnear).symm
      · next hnear => exact iff_of_false (fun hnil => hfar hnil.symm) fun hboth => hnear hboth.1
  | false =>
      rw [if_neg Bool.false_ne_true, if_neg Bool.false_ne_true]
      split
      · next hnear => exact (and_iff_right hnear).symm
      · next hnear => exact iff_of_false (fun hnil => hfar hnil.symm) fun hboth => hnear hboth.1

theorem farWidget_eq_some (hnamed : Named topology) {name : Bytes} {route : AcRoute} :
    farWidget topology pipelineId sourceSide name route = some other ↔
      (topology.widgets.get other).pipelineId = pipelineId ∧
        if sourceSide then route.sink = name ∧ route.source = (topology.widgets.get other).name
        else route.source = name ∧ route.sink = (topology.widgets.get other).name := by
  have hother := hnamed.nonempty _ (List.get_mem topology.widgets other)
  rw [← farName_eq hother, farWidget]
  split
  · next hempty =>
      refine iff_of_false nofun fun hboth => ?_
      rw [hboth.2, List.isEmpty_iff] at hempty
      exact hother hempty
  · rw [Option.filter_eq_some_iff, findFinIdx?_name hnamed, decide_eq_true_eq, and_comm]
    exact and_congr_right fun _ => eq_comm

/-- The widgets that the code visits are those that the routes lead to. -/
theorem edge_neighbours (hnamed : Named topology) :
    Walk.Edge (neighbours topology pipelineId sourceSide) =
      Linked topology pipelineId sourceSide := by
  funext index other
  rw [Walk.Edge, neighbours, Linked]
  apply propext
  split
  · next hindex =>
      rw [List.mem_filterMap, and_iff_right hindex]
      constructor
      · rintro ⟨route, hroute, hleads⟩
        obtain ⟨hother, hnames⟩ := (farWidget_eq_some hnamed).mp hleads
        exact ⟨hother, route, hroute, hnames⟩
      · rintro ⟨hother, route, hroute, hnames⟩
        exact ⟨route, hroute, (farWidget_eq_some hnamed).mpr ⟨hother, hnames⟩⟩
  · next hindex => exact iff_of_false List.not_mem_nil fun hlinked => hindex hlinked.1

/-- The recursion of the code is a bounded walk. -/
theorem acCollectRouteIds_eq (hcompIds : CompIdsOf topology pipeline compIds) (depth : Nat)
    (hindex : (topology.widgets.get index).pipelineId = pipeline.id) (ids : List UInt16) :
    acCollectRouteIds topology pipeline.id compIds sourceSide depth
        (topology.widgets.get index).name ids =
      Walk.collect (neighbours topology pipeline.id sourceSide) (isPassive topology)
        (idOf compIds) acMaxRouteIds depth index ids := by
  induction depth generalizing index ids with
  | zero => rfl
  | succ depth ih =>
      rw [acCollectRouteIds, Walk.collect, neighbours, if_pos hindex, List.foldlM_filterMap]
      congr 1
      funext ids route
      have hfar : (if sourceSide = true then
            if route.sink = (topology.widgets.get index).name then route.source else []
          else if route.source = (topology.widgets.get index).name then route.sink else []) =
          farName sourceSide (topology.widgets.get index).name route := rfl
      rw [hfar, farWidget]
      dsimp only
      split
      · rfl
      · rw [List.findIdx?_eq_map_findFinIdx?_val]
        cases topology.widgets.findFinIdx? (·.name == farName sourceSide
            (topology.widgets.get index).name route) with
        | none => rfl
        | some other =>
            have hget : topology.widgets[other.val]? = some (topology.widgets.get other) :=
              List.getElem?_eq_getElem other.isLt
            rw [Option.map_some]
            dsimp only
            rw [hget]
            dsimp only
            by_cases hother : (topology.widgets.get other).pipelineId = pipeline.id
            · have hkept : (some other).filter (fun index =>
                  decide ((topology.widgets.get index).pipelineId = pipeline.id)) = some other :=
                Option.filter_some_pos (decide_eq_true hother)
              rw [if_neg (not_not.mpr hother), hkept]
              dsimp only
              by_cases hpassive : isPassive topology other = true
              · rw [if_pos hpassive, if_pos (of_decide_eq_true hpassive)]
                exact ih hother ids
              · rw [if_neg hpassive, if_neg (of_decide_eq_false (Bool.eq_false_of_not_eq_true hpassive))]
                have hcomponent : isComponent pipeline (topology.widgets.get other) = true :=
                  isComponent_iff.mpr ⟨hother, Bool.eq_false_of_not_eq_true hpassive⟩
                change acAddUniqueId ids (idOf compIds other) = _
                rw [acAddUniqueId, if_neg (hcompIds.ne_zero.mpr hcomponent)]
                rfl
            · have hleft : (some other).filter (fun index =>
                  decide ((topology.widgets.get index).pipelineId = pipeline.id)) = none :=
                Option.filter_some_neg (decide_eq_false hother)
              rw [if_pos hother, hleft]
              rfl

end Graph

/-! ## What is collected -/

/-- A component of the pipeline that the routes lead to, from another one, through widgets of
the pipeline that stand for no component. -/
def LeadsTo (topology : AcTopology) (pipeline : AcPipeline) (sourceSide : Bool)
    (index other : WidgetIndex topology) : Prop :=
  isComponent pipeline (topology.widgets.get other) = true ∧
    Walk.Reaches (Linked topology pipeline.id sourceSide) (isPassive topology) index other

/-- The id of a component that the routes lead to. -/
def IdLedTo (topology : AcTopology) (pipeline : AcPipeline) (compIds : List UInt16)
    (sourceSide : Bool) (index : WidgetIndex topology) (id : UInt16) : Prop :=
  ∃ other, LeadsTo topology pipeline sourceSide index other ∧ idOf compIds other = id

/-- What a search for the ids next to a component comes to. -/
def Collected (topology : AcTopology) (pipeline : AcPipeline) (compIds : List UInt16)
    (sourceSide : Bool) (index : WidgetIndex topology) : Option (List UInt16) → Prop
  | some ids =>
      ids.Nodup ∧ ∀ id, id ∈ ids ↔ IdLedTo topology pipeline compIds sourceSide index id
  | none =>
      (∃ ids : List UInt16, ids.Nodup ∧ acMaxRouteIds < ids.length ∧
        ∀ id ∈ ids, IdLedTo topology pipeline compIds sourceSide index id) ∨
      Walk.Cycles (Linked topology pipeline.id sourceSide) (isPassive topology) index

section Collect

variable {topology : AcTopology} {pipeline : AcPipeline} {compIds : List UInt16}
  {sourceSide : Bool} {index other : WidgetIndex topology}

theorem reaches_pipeline
    (hreaches : Walk.Reaches (Linked topology pipeline.id sourceSide) (isPassive topology) index
      other) : (topology.widgets.get other).pipelineId = pipeline.id := by
  obtain ⟨_, _, hlinked⟩ := hreaches
  exact hlinked.2.1

theorem labels_iff {id : UInt16} :
    Walk.Labels (Linked topology pipeline.id sourceSide) (isPassive topology) (idOf compIds) index
      id ↔ IdLedTo topology pipeline compIds sourceSide index id := by
  constructor
  · rintro ⟨other, hreaches, hactive, hid⟩
    have hcomponent := isComponent_iff.mpr ⟨reaches_pipeline hreaches, hactive⟩
    exact ⟨other, ⟨hcomponent, hreaches⟩, hid⟩
  · rintro ⟨other, ⟨hcomponent, hreaches⟩, hid⟩
    exact ⟨other, hreaches, (isComponent_iff.mp hcomponent).2, hid⟩

theorem collected_acCollectRouteIds (hnamed : Named topology)
    (hcompIds : CompIdsOf topology pipeline compIds)
    (hindex : isComponent pipeline (topology.widgets.get index) = true) :
    Collected topology pipeline compIds sourceSide index
      (acCollectRouteIds topology pipeline.id compIds sourceSide (topology.widgets.length + 1)
        (topology.widgets.get index).name []) := by
  have hpipeline := (isComponent_iff.mp hindex).1
  rw [acCollectRouteIds_eq hcompIds _ hpipeline]
  cases hcollect : Walk.collect (neighbours topology pipeline.id sourceSide) (isPassive topology)
      (idOf compIds) acMaxRouteIds (topology.widgets.length + 1) index [] with
  | some ids =>
      obtain ⟨hnodup, hmem⟩ := Walk.collect_eq_some hcollect
      rw [edge_neighbours hnamed] at hmem
      refine ⟨hnodup List.nodup_nil, fun id => ?_⟩
      rw [hmem, labels_iff]
      exact or_iff_right List.not_mem_nil
  | none =>
      have hfails := Walk.collect_eq_none List.nodup_nil hcollect
      rw [edge_neighbours hnamed] at hfails
      obtain hdescends | ⟨ids, hdistinct, hlong, hids⟩ := hfails
      · right
        apply hdescends.cycles (fun _ other _ => List.mem_finRange other)
        rw [List.length_finRange]
        exact Nat.lt_succ_self _
      · left
        refine ⟨ids, hdistinct, hlong, fun id hid => ?_⟩
        exact labels_iff.mp ((hids id hid).resolve_left List.not_mem_nil)

/-- Routes lead back on the other side. -/
theorem linked_turn (hlinked : Linked topology pipeline.id sourceSide index other) :
    Linked topology pipeline.id (!sourceSide) other index := by
  obtain ⟨hindex, hother, route, hroute, hnames⟩ := hlinked
  refine ⟨hother, hindex, route, hroute, ?_⟩
  cases sourceSide with
  | true => exact hnames.symm
  | false => exact hnames.symm

theorem LeadsTo.turn (hleads : LeadsTo topology pipeline sourceSide index other)
    (hindex : isComponent pipeline (topology.widgets.get index) = true) :
    LeadsTo topology pipeline (!sourceSide) other index :=
  ⟨hindex, hleads.2.turn fun _ _ => linked_turn⟩

/-- The ids on both sides of two components agree. -/
theorem acRouteIds_agree (hnamed : Named topology)
    (hcompIds : CompIdsOf topology pipeline compIds)
    (hindex : isComponent pipeline (topology.widgets.get index) = true)
    (hother : isComponent pipeline (topology.widgets.get other) = true)
    {sources sinks sources' sinks' : List UInt16}
    (hroutes : acRouteIds topology pipeline compIds (topology.widgets.get index) =
      some (sources, sinks))
    (hroutes' : acRouteIds topology pipeline compIds (topology.widgets.get other) =
      some (sources', sinks')) :
    idOf compIds other ∈ sinks ↔ idOf compIds index ∈ sources' := by
  have hsides : ∀ (index : WidgetIndex topology) (sources sinks : List UInt16),
      isComponent pipeline (topology.widgets.get index) = true →
      acRouteIds topology pipeline compIds (topology.widgets.get index) = some (sources, sinks) →
      (∀ id, id ∈ sources ↔ IdLedTo topology pipeline compIds true index id) ∧
        ∀ id, id ∈ sinks ↔ IdLedTo topology pipeline compIds false index id := by
    intro index sources sinks hindex hroutes
    obtain ⟨_, hsources, hroutes⟩ := Option.bind_eq_some_iff.mp hroutes
    obtain ⟨_, hsinks, hroutes⟩ := Option.bind_eq_some_iff.mp hroutes
    cases hroutes
    have hleft := @collected_acCollectRouteIds topology pipeline compIds true index hnamed
      hcompIds hindex
    have hright := @collected_acCollectRouteIds topology pipeline compIds false index hnamed
      hcompIds hindex
    rw [hsources] at hleft
    rw [hsinks] at hright
    exact ⟨hleft.2, hright.2⟩
  rw [(hsides index sources sinks hindex hroutes).2,
    (hsides other sources' sinks' hother hroutes').1]
  constructor
  · rintro ⟨last, hleads, hid⟩
    obtain rfl := hcompIds.injective hleads.1 hid
    exact ⟨index, hleads.turn hindex, rfl⟩
  · rintro ⟨last, hleads, hid⟩
    obtain rfl := hcompIds.injective hleads.1 hid
    exact ⟨other, hleads.turn hother, rfl⟩

end Collect

/-! ## What SOF is told -/

/-- A component is added with the ids that the routes lead to from it. -/
def Routed (topology : AcTopology) (pipeline : AcPipeline) (compIds : List UInt16) :
    LoaderCmd → Prop
  | .pipelineAddComp _ config sources sinks => ∃ index : WidgetIndex topology,
      isComponent pipeline (topology.widgets.get index) = true ∧
        config.compId = idOf compIds index ∧
        acRouteIds topology pipeline compIds (topology.widgets.get index) = some (sources, sinks)
  | _ => True

section Told

variable {abi : SofAbi} {ctrlDataSize : Nat} {topology : AcTopology} {pipeline : AcPipeline}
  {compIds : List UInt16}

theorem acConfigAttributes_routed (pipe : Nat) (config : SofPipeConfig)
    (keys : List PipeAttribute) :
    (acConfigAttributes pipe config keys).Issues (Routed topology pipeline compIds) := by
  induction keys with
  | nil => trivial
  | cons key keys ih =>
      refine (Proc.issues_request trivial).bind fun ret => ?_
      exact ih.bind fun _ => trivial

theorem acDestroyPipe_routed (pipe : Nat) :
    (acDestroyPipe pipe).Issues (Routed topology pipeline compIds) :=
  ⟨trivial, fun _ => ⟨trivial, fun _ => trivial⟩⟩

theorem acApplyControls_routed (compId : UInt16) (controls : List AcControl) :
    (acApplyControls abi ctrlDataSize compId controls).Issues
      (Routed topology pipeline compIds) := by
  induction controls with
  | nil => trivial
  | cons control controls ih =>
      have hone : (acApplyControlPayload abi ctrlDataSize compId control).Issues
          (Routed topology pipeline compIds) := by
        unfold acApplyControlPayload
        split
        · trivial
        · trivial
        · refine (Proc.issues_request trivial).bind fun address => ?_
          cases address with
          | none => trivial
          | some cdata => exact ⟨trivial, fun _ => ⟨trivial, fun _ => trivial⟩⟩
      refine hone.bind fun applied => ?_
      split
      · exact ih
      · trivial

theorem acApplyWidgetControls_routed (widgets : List (AcWidget × UInt16)) :
    (acApplyWidgetControls abi ctrlDataSize pipeline widgets).Issues
      (Routed topology pipeline compIds) := by
  induction widgets with
  | nil => trivial
  | cons entry widgets ih =>
      obtain ⟨widget, compId⟩ := entry
      rw [acApplyWidgetControls]
      split
      · exact ih
      · refine (acApplyControls_routed compId widget.controls).bind fun applied => ?_
        split
        · exact ih
        · trivial

theorem acAddComps_routed (hcompIds : CompIdsOf topology pipeline compIds) (pipe : Nat)
    (widgets : List (AcWidget × UInt16)) (hwidgets : widgets ⊆ topology.widgets.zip compIds) :
    (acAddComps abi topology pipeline pipe compIds widgets).Issues
      (Routed topology pipeline compIds) := by
  induction widgets with
  | nil => trivial
  | cons entry widgets ih =>
      obtain ⟨widget, compId⟩ := entry
      have hrest := ih (List.subset_of_cons_subset hwidgets)
      rw [acAddComps]
      split
      · exact hrest
      · next hnonzero =>
          split
          · trivial
          · next sources sinks hroutes =>
              split
              · trivial
              · next config hfill =>
                  refine (Proc.issues_request ?_).bind fun ret => ?_
                  · obtain ⟨position, hposition, hentry⟩ :=
                      List.mem_iff_getElem.mp (hwidgets List.mem_cons_self)
                    rw [List.length_zip] at hposition
                    rw [List.getElem_zip] at hentry
                    cases hentry
                    have hlt : position < topology.widgets.length := by omega
                    have hid : idOf compIds (⟨position, hlt⟩ : WidgetIndex topology) =
                        compIds[position] := List.getD_eq_getElem _ _ _
                    refine ⟨⟨position, hlt⟩, hcompIds.ne_zero.mp (hid ▸ hnonzero), ?_, hroutes⟩
                    exact (acFillCompConfig_compId hfill).trans hid.symm
                  · split
                    · trivial
                    · exact hrest

theorem acAllocCompIds_yields : (acAllocCompIds topology pipeline).Yields fun result =>
    ∀ address compIds, result = some (address, compIds) →
      CompIdsOf topology pipeline compIds := by
  intro address
  cases address with
  | none => exact nofun
  | some address =>
      change Proc.Yields _ (if _ then _ else _)
      split
      · exact fun _ => nofun
      · next hbase =>
          split
          · exact fun _ => nofun
          · next hnumber =>
              rintro _ _ ⟨⟩
              exact ⟨hbase, hnumber⟩

theorem acAllocCompIds_routed :
    (acAllocCompIds topology pipeline).Issues (Routed topology pipeline compIds) := by
  refine ⟨trivial, fun address => ?_⟩
  cases address with
  | none => trivial
  | some address =>
      change Proc.Issues _ (if _ then _ else _)
      split
      · exact ⟨trivial, fun _ => trivial⟩
      · split
        · exact ⟨trivial, fun _ => trivial⟩
        · trivial

theorem acInstallComps_routed (hcompIds : CompIdsOf topology pipeline compIds)
    (pipe address : Nat) :
    (acInstallComps abi ctrlDataSize topology pipeline pipe address compIds).Issues
      (Routed topology pipeline compIds) := by
  have hfails : ∀ error : LoaderError, (do
      let _ ← Proc.request (.free address)
      acDestroyPipe pipe
      pure (.error error) : LoaderProc (LoaderResult InstalledPipeline)).Issues
        (Routed topology pipeline compIds) := fun error =>
    (Proc.issues_request trivial).bind fun _ => (acDestroyPipe_routed pipe).bind fun _ => trivial
  unfold acInstallComps
  refine (acAddComps_routed hcompIds pipe _ (List.Subset.refl _)).bind fun result => ?_
  cases result with
  | error error => exact hfails error
  | ok =>
      refine (Proc.issues_request trivial).bind fun ret => ?_
      split
      · exact hfails _
      · refine (acApplyWidgetControls_routed _).bind fun result => ?_
        cases result with
        | error error => exact hfails error
        | ok => exact ⟨trivial, fun _ => trivial⟩

theorem acInstallOnePipeline_routed (hcompIds : CompIdsOf topology pipeline compIds)
    (lastSubPipe : Bool) :
    (acInstallOnePipeline abi ctrlDataSize topology pipeline lastSubPipe).Issues
      (Routed topology pipeline compIds) := by
  unfold acInstallOnePipeline
  split
  · trivial
  · refine acAllocCompIds_routed.bind_yields acAllocCompIds_yields fun result hresult => ?_
    cases result with
    | none => trivial
    | some result =>
        obtain ⟨address, compIds'⟩ := result
        have hsame : compIds' = compIds :=
          Option.some.inj ((hresult address compIds' rfl).2.symm.trans hcompIds.2)
        subst hsame
        refine (Proc.issues_request trivial).bind fun pipe => ?_
        cases pipe with
        | none => exact ⟨trivial, fun _ => trivial⟩
        | some pipe =>
            refine (acConfigAttributes_routed pipe _ _).bind fun configured => ?_
            split
            · exact acInstallComps_routed hcompIds pipe address
            · exact ⟨trivial, fun _ => ⟨trivial, fun _ => trivial⟩⟩

end Told

/-- In a topology whose widgets have names of their own, the ids that are collected for a
component are those of the components that the routes lead to, each once, and a collection
fails only when there are too many or the routes come round.  So in an installation a
component is a sink of another one if and only if that is a source of it. -/
theorem routes_collected (topology : AcTopology) (pipeline : AcPipeline) (compIds : List UInt16)
    (hnamed : Named topology) (hcompIds : CompIdsOf topology pipeline compIds) :
    (∀ (sourceSide : Bool) (index : WidgetIndex topology),
      isComponent pipeline (topology.widgets.get index) = true →
      Collected topology pipeline compIds sourceSide index
        (acCollectRouteIds topology pipeline.id compIds sourceSide (topology.widgets.length + 1)
          (topology.widgets.get index).name [])) ∧
    ∀ {σ : Type} (abi : SofAbi) (ctrlDataSize : Nat) (lastSubPipe : Bool)
      (handler : Handler LoaderReply σ) (state state' : σ) (one : InstalledPipeline)
      (log : List LoaderCmd),
      (acInstallOnePipeline abi ctrlDataSize topology pipeline lastSubPipe).run handler.logging
        (state, []) = (.done (.ok one), state', log) →
      ∀ pipe config sources sinks pipe' config' sources' sinks',
        .pipelineAddComp pipe config sources sinks ∈ log →
        .pipelineAddComp pipe' config' sources' sinks' ∈ log →
        (config'.compId ∈ sinks ↔ config.compId ∈ sources') := by
  refine ⟨fun _ _ => collected_acCollectRouteIds hnamed hcompIds, ?_⟩
  intro σ abi ctrlDataSize lastSubPipe handler state state' one log hrun pipe config sources sinks
    pipe' config' sources' sinks' hadd hadd'
  have hlog := (acInstallOnePipeline_routed hcompIds lastSubPipe).of_run hrun (fun _ => nofun)
  obtain ⟨index, hindex, hid, hroutes⟩ := hlog _ hadd
  obtain ⟨other, hother, hid', hroutes'⟩ := hlog _ hadd'
  rw [hid, hid']
  exact acRouteIds_agree hnamed hcompIds hindex hother hroutes hroutes'

/-! ## Two topologies -/

/-- A volume behind another one, with a buffer between them. -/
def bufferedTopology : AcTopology where
  widgets :=
    [{ name := ascii "SCHED", id := acDapmScheduler, pipelineId := 1 },
      { name := ascii "PGA1", id := acDapmPga, pipelineId := 1 },
      { name := ascii "BUF", id := acDapmBuffer, pipelineId := 1 },
      { name := ascii "PGA2", id := acDapmPga, pipelineId := 1 }]
  routes := [{ sink := ascii "BUF", source := ascii "PGA1" },
    { sink := ascii "PGA2", source := ascii "BUF" }]
  pipelines := [{ name := ascii "SCHED", id := 1 }]

def firstPipeline : AcPipeline := { name := ascii "SCHED", id := 1 }

theorem routes_collected_buffered :
    acCollectRouteIds bufferedTopology 1 [0, 257, 0, 258] true 5 (ascii "PGA2") [] = some [257] ∧
    Collected bufferedTopology firstPipeline [0, 257, 0, 258] true ⟨3, by decide⟩
      (acCollectRouteIds bufferedTopology 1 [0, 257, 0, 258] true 5 (ascii "PGA2") []) :=
  ⟨by decide, (routes_collected bufferedTopology firstPipeline [0, 257, 0, 258]
    ⟨by decide, by decide⟩ ⟨by decide, by decide⟩).1 true ⟨3, by decide⟩ (by decide)⟩

/-- A volume without a name in front of one that has one. -/
def namelessTopology : AcTopology where
  widgets :=
    [{ name := ascii "SCHED", id := acDapmScheduler, pipelineId := 1 },
      { name := [], id := acDapmPga, pipelineId := 1 },
      { name := ascii "PGA2", id := acDapmPga, pipelineId := 1 }]
  routes := [{ sink := ascii "PGA2", source := [] }]
  pipelines := [firstPipeline]

/-- A widget without a name has its sinks, but is a source of none of them. -/
theorem nameless_source_lost :
    (namelessTopology.widgets.map (·.name)).Nodup ∧
    ∃ (installed : InstalledPipeline) (log : List LoaderCmd) (first second : SofCompConfig),
      (acInstallOnePipeline sofAbi 0 namelessTopology firstPipeline true).run willing.logging
        ((), []) = (.done (.ok installed), (), log) ∧
      log[11]? = some (.pipelineAddComp 0 first [] [258]) ∧
      log[12]? = some (.pipelineAddComp 0 second [] []) ∧
      first.compId = 257 ∧ second.compId = 258 :=
  ⟨by decide, _, _, _, _, rfl, rfl, rfl, rfl, rfl⟩

end AudioStudio.Loader
