import AudioStudio.Gui.Drawn
import AudioStudio.Gui.Lookups

/-!
# The validated pipeline

`validationPipelineSelector` of `project_orchestration.cpp`: the number of the pipeline that is
installed for the group a request names.  The id of the group's pipeline is derived again, apart
from the one that was regenerated.
-/

namespace AudioStudio.Gui

open AudioStudio.LittleEndian

/-! ## Working groups -/

/-- A group with the id that requests name it by. -/
structure WorkingGroup extends SnapshotGroup where
  id : Bytes
  deriving DecidableEq, Repr

def jsonStringFieldAny (objectJson : Bytes) (fields : List Bytes) (fallback : Bytes) : Bytes :=
  ((fields.map fun field => ProjectOrchestration.simpleJsonStringField objectJson field []).find?
    (· ≠ [])).getD fallback

def workingGroup (item : Bytes × Nat) : WorkingGroup :=
  let (object, index) := item
  let id := ProjectOrchestration.simpleJsonStringField object (asciiBytes "id")
    (asciiBytes "GUI_PIPE_" ++ decimalText (index + 1))
  let origins := simpleJsonStringArrayField object (asciiBytes "origin_pipeline_ids")
  { id
    pipelineId :=
      jsonStringFieldAny object [asciiBytes "pipeline_id", asciiBytes "pipelineId"] id
    originPipelineIds :=
      if origins = [] then simpleJsonStringArrayField object (asciiBytes "originPipelineIds")
      else origins
    nodeIds := simpleJsonStringArrayField object (asciiBytes "nodes") }

def snapshotGroups (snapshotJson : Bytes) : List WorkingGroup :=
  (jsonObjectArrayItems (topLevelJsonMemberValue snapshotJson (asciiBytes "working_groups"))).zipIdx.map
    workingGroup

/-! ## The selector -/

def allId : Bytes := asciiBytes "ALL"

/-- A round of the loop over the groups: what it returns. -/
def groupPipeline (groupId : Bytes) (group : WorkingGroup) : Option Bytes :=
  if group.id ≠ groupId ∧ group.pipelineId ≠ groupId then none
  else
    match group.originPipelineIds with
    | [origin] => some origin
    | _ => if group.pipelineId ≠ [] ∧ group.pipelineId ≠ allId then some group.pipelineId else none

def pipelineFromGroup (groups : List WorkingGroup) (groupId : Bytes) : Bytes :=
  if groupId = [] ∨ groupId = allId then []
  else (groups.findSome? (groupPipeline groupId)).getD groupId

def selectorForPipeline (pipelineIds : List Bytes) (pipeId : Bytes) : Bytes :=
  if pipeId = [] ∨ pipeId = allId then []
  else
    match pipelineIds.idxOf? pipeId with
    | some index => decimalText (index + 1)
    | none => []

/-- A field of the request, or else of the snapshot. -/
def requestedField (requestJson snapshotJson : Bytes) (field : String) : Bytes :=
  ProjectOrchestration.simpleJsonStringField requestJson (asciiBytes field)
    (ProjectOrchestration.simpleJsonStringField snapshotJson (asciiBytes field) [])

def validationPipelineSelector (requestJson snapshotJson : Bytes) (pipelineIds : List Bytes) :
    Bytes :=
  if pipelineIds = [] then []
  else
    let groupId := requestedField requestJson snapshotJson "group_id"
    let selector :=
      selectorForPipeline pipelineIds (pipelineFromGroup (snapshotGroups snapshotJson) groupId)
    if selector ≠ [] then selector
    else
      let activePipeline := requestedField requestJson snapshotJson "active_pipeline"
      let selector := selectorForPipeline pipelineIds activePipeline
      if selector ≠ [] then selector else asciiBytes "1"

/-! ## The pipeline of a group -/

/-- The id or the pipeline id of the group is the requested one. -/
def IsRequested (groupId : Bytes) (group : WorkingGroup) : Prop :=
  group.id = groupId ∨ group.pipelineId = groupId

/-- What the selector takes for the pipeline of the requested group: its only origin, or else its
own pipeline id. -/
def takenPipeline (groupId : Bytes) (group : WorkingGroup) : Bytes :=
  if groupId = allId then []
  else
    match group.originPipelineIds with
    | [origin] => origin
    | _ => if group.pipelineId ≠ allId then group.pipelineId else groupId

/-- The id is one that is looked for and found. -/
def Found (pipelineIds : List Bytes) (pipeId : Bytes) : Prop :=
  pipeId ≠ [] ∧ pipeId ≠ allId ∧ pipeId ∈ pipelineIds

/-- The id is that of this pipeline, and of none in front of it. -/
structure NamesPipeline (pipelineIds : List Bytes) (index : Nat) (pipeId : Bytes) : Prop where
  nonempty : pipeId ≠ []
  notAll : pipeId ≠ allId
  here : pipelineIds[index]? = some pipeId
  first : pipeId ∉ pipelineIds.take index

theorem decimalText_inj {first second : Nat} (hsame : decimalText first = decimalText second) :
    first = second := by
  have hvalues := congrArg decimalValue hsame
  rwa [decimalValue_decimalText, decimalValue_decimalText] at hvalues

variable {index : Nat}

theorem idxOf?_eq_some_iff_first {ids : List Bytes} {id : Bytes} :
    ids.idxOf? id = some index ↔ ids[index]? = some id ∧ id ∉ ids.take index := by
  rw [List.idxOf?_eq_some_iff, List.mem_take_iff_getElem, List.getElem?_eq_some_iff]
  constructor
  · rintro ⟨hindex, hhere, hbefore⟩
    refine ⟨⟨hindex, hhere⟩, ?_⟩
    rintro ⟨earlier, hearlier, hsame⟩
    exact hbefore earlier (lt_of_lt_of_le hearlier (Nat.min_le_left _ _)) hsame
  · rintro ⟨⟨hindex, hhere⟩, hfirst⟩
    refine ⟨hindex, hhere, fun earlier hearlier hsame => hfirst ⟨earlier, ?_, hsame⟩⟩
    exact lt_min hearlier (hearlier.trans hindex)

variable {pipelineIds : List Bytes}

theorem selectorForPipeline_eq_nil_iff {pipeId : Bytes} :
    selectorForPipeline pipelineIds pipeId = [] ↔ ¬Found pipelineIds pipeId := by
  unfold selectorForPipeline
  split
  · next hunusable =>
      refine iff_of_true rfl fun hfound => ?_
      exact hunusable.elim hfound.1 hfound.2.1
  · next husable =>
      obtain ⟨hnonempty, hnotAll⟩ := not_or.mp husable
      cases hindex : pipelineIds.idxOf? pipeId with
      | some index =>
          refine iff_of_false (decimalText_ne_nil _) (not_not.mpr ⟨hnonempty, hnotAll, ?_⟩)
          rw [← List.isSome_idxOf?, hindex]
          rfl
      | none =>
          refine iff_of_true rfl fun hfound => ?_
          exact List.idxOf?_eq_none_iff.mp hindex hfound.2.2

theorem selectorForPipeline_eq_iff {pipeId : Bytes} :
    selectorForPipeline pipelineIds pipeId = decimalText (index + 1) ↔
      NamesPipeline pipelineIds index pipeId := by
  unfold selectorForPipeline
  split
  · next hunusable =>
      refine iff_of_false (decimalText_ne_nil _).symm fun hnames => ?_
      exact hunusable.elim hnames.nonempty hnames.notAll
  · next husable =>
      obtain ⟨hnonempty, hnotAll⟩ := not_or.mp husable
      have hnamed : pipelineIds.idxOf? pipeId = some index ↔
          NamesPipeline pipelineIds index pipeId := by
        rw [idxOf?_eq_some_iff_first]
        exact ⟨fun hfirst => ⟨hnonempty, hnotAll, hfirst.1, hfirst.2⟩,
          fun hnames => ⟨hnames.here, hnames.first⟩⟩
      rw [← hnamed]
      cases hindex : pipelineIds.idxOf? pipeId with
      | some found =>
          constructor
          · intro hsame
            exact congrArg some (Nat.succ.inj (decimalText_inj hsame))
          · rintro ⟨⟩
            rfl
      | none =>
          refine iff_of_false (decimalText_ne_nil _).symm ?_
          rintro ⟨⟩

/-- An empty string is as good as none. -/
theorem readStringField_ne_nil {fallback : Bytes} (hfallback : fallback ≠ []) (text : Bytes)
    (esc : Bool) (out : Bytes) : readStringField fallback text esc out ≠ [] := by
  induction text generalizing esc out with
  | nil => exact hfallback
  | cons c rest ih =>
      rw [readStringField]
      split
      · exact ih _ _
      split
      · exact ih _ _
      split
      · split
        · exact hfallback
        · next hout => exact hout
      · exact ih _ _

theorem simpleJsonStringField_ne_nil {body field fallback : Bytes} (hfallback : fallback ≠ []) :
    ProjectOrchestration.simpleJsonStringField body field fallback ≠ [] := by
  unfold ProjectOrchestration.simpleJsonStringField
  split
  · exact hfallback
  split
  · exact hfallback
  · exact readStringField_ne_nil hfallback _ _ _

/-- A group has an id and a pipeline id. -/
theorem snapshotGroups_ids {snapshotJson : Bytes} {group : WorkingGroup}
    (hmem : group ∈ snapshotGroups snapshotJson) : group.id ≠ [] ∧ group.pipelineId ≠ [] := by
  obtain ⟨⟨object, index⟩, -, rfl⟩ := List.mem_map.mp hmem
  have hid : (workingGroup (object, index)).id ≠ [] := by
    refine simpleJsonStringField_ne_nil fun hnil => ?_
    exact decimalText_ne_nil _ (List.append_eq_nil_iff.mp hnil).2
  refine ⟨hid, ?_⟩
  change jsonStringFieldAny object _ (workingGroup (object, index)).id ≠ []
  unfold jsonStringFieldAny
  cases hfind : List.find? (fun value => decide (value ≠ [])) ([asciiBytes "pipeline_id",
      asciiBytes "pipelineId"].map fun field =>
        ProjectOrchestration.simpleJsonStringField object field []) with
  | none => exact hid
  | some value =>
      have hvalue := List.find?_some hfind
      exact of_decide_eq_true hvalue

section Requests

variable {groups before after : List WorkingGroup} {group : WorkingGroup} {groupId : Bytes}

theorem pipelineFromGroup_eq (hgroups : groups = before ++ group :: after)
    (hids : ∀ other ∈ groups, other.id ≠ [] ∧ other.pipelineId ≠ [])
    (hrequested : IsRequested groupId group)
    (hothers : ∀ other ∈ before ++ after, ¬IsRequested groupId other) :
    pipelineFromGroup groups groupId = takenPipeline groupId group := by
  have hgroup := hids group (by rw [hgroups]; exact List.mem_append_right _ List.mem_cons_self)
  have hnonempty : groupId ≠ [] := by
    rcases hrequested with hid | hpipeline
    · exact hid ▸ hgroup.1
    · exact hpipeline ▸ hgroup.2
  have hskips : ∀ other ∈ before ++ after, groupPipeline groupId other = none :=
    fun other hmem => if_pos (not_or.mp (hothers other hmem))
  have hbefore : before.findSome? (groupPipeline groupId) = none :=
    List.findSome?_eq_none_iff.mpr fun other hmem => hskips other (List.mem_append_left _ hmem)
  have hafter : after.findSome? (groupPipeline groupId) = none :=
    List.findSome?_eq_none_iff.mpr fun other hmem => hskips other (List.mem_append_right _ hmem)
  unfold pipelineFromGroup takenPipeline
  by_cases hall : groupId = allId
  · rw [if_pos (.inr hall), if_pos hall]
  rw [if_neg (not_or.mpr ⟨hnonempty, hall⟩), if_neg hall, hgroups, List.findSome?_append, hbefore,
    Option.none_or, List.findSome?_cons, hafter]
  unfold groupPipeline
  rw [if_neg (fun hneither => hrequested.elim hneither.1 hneither.2)]
  have hplain : (if group.pipelineId ≠ [] ∧ group.pipelineId ≠ allId then some group.pipelineId
      else none).getD groupId = if group.pipelineId ≠ allId then group.pipelineId else groupId := by
    by_cases hnotAll : group.pipelineId ≠ allId
    · rw [if_pos ⟨hgroup.2, hnotAll⟩, if_pos hnotAll]
      rfl
    · rw [if_neg (fun hboth => hnotAll hboth.2), if_neg hnotAll]
      rfl
  rcases group.originPipelineIds with _ | ⟨origin, _ | ⟨second, rest⟩⟩
  · dsimp only
    rw [← hplain]
    cases (if group.pipelineId ≠ [] ∧ group.pipelineId ≠ allId then some group.pipelineId
      else none) <;> rfl
  · rfl
  · dsimp only
    rw [← hplain]
    cases (if group.pipelineId ≠ [] ∧ group.pipelineId ≠ allId then some group.pipelineId
      else none) <;> rfl

/-- When the selector of a request is the number of this pipeline. -/
structure SelectsPipeline (pipelineIds : List Bytes) (index : Nat) (taken active : Bytes) : Prop where
  ofTaken : Found pipelineIds taken → NamesPipeline pipelineIds index taken
  ofActive : ¬Found pipelineIds taken → Found pipelineIds active →
    NamesPipeline pipelineIds index active
  ofNeither : ¬Found pipelineIds taken → ¬Found pipelineIds active → index = 0

theorem decimalText_first : decimalText 1 = asciiBytes "1" := by
  unfold decimalText
  rw [if_neg Nat.one_ne_zero, Nat.digits_of_lt 10 1 (by decide) (by decide)]
  rfl

theorem selector_iff {requestJson snapshotJson : Bytes} (hsome : pipelineIds ≠ []) :
    validationPipelineSelector requestJson snapshotJson pipelineIds = decimalText (index + 1) ↔
      SelectsPipeline pipelineIds index
        (pipelineFromGroup (snapshotGroups snapshotJson)
          (requestedField requestJson snapshotJson "group_id"))
        (requestedField requestJson snapshotJson "active_pipeline") := by
  unfold validationPipelineSelector
  rw [if_neg hsome]
  dsimp only
  generalize pipelineFromGroup (snapshotGroups snapshotJson)
    (requestedField requestJson snapshotJson "group_id") = taken
  generalize requestedField requestJson snapshotJson "active_pipeline" = active
  by_cases htaken : Found pipelineIds taken
  · rw [if_pos (mt selectorForPipeline_eq_nil_iff.mp (not_not.mpr htaken)),
      selectorForPipeline_eq_iff]
    exact ⟨fun hnames => ⟨fun _ => hnames, absurd htaken, absurd htaken⟩,
      fun hselects => hselects.ofTaken htaken⟩
  rw [if_neg (not_not.mpr (selectorForPipeline_eq_nil_iff.mpr htaken))]
  by_cases hactive : Found pipelineIds active
  · rw [if_pos (mt selectorForPipeline_eq_nil_iff.mp (not_not.mpr hactive)),
      selectorForPipeline_eq_iff]
    exact ⟨fun hnames => ⟨fun hfound => absurd hfound htaken, fun _ _ => hnames,
      fun _ hnone => absurd hactive hnone⟩, fun hselects => hselects.ofActive htaken hactive⟩
  rw [if_neg (not_not.mpr (selectorForPipeline_eq_nil_iff.mpr hactive))]
  rw [← decimalText_first]
  constructor
  · intro hsame
    refine ⟨fun hfound => absurd hfound htaken, fun _ hfound => absurd hfound hactive,
      fun _ _ => (Nat.succ.inj (decimalText_inj hsame)).symm⟩
  · intro hselects
    rw [hselects.ofNeither htaken hactive]

end Requests

/-! ## The validated pipeline -/

/-- The selector names the pipeline that was regenerated for the requested group exactly when the
id it takes for it is that pipeline's, or the fallbacks happen to end there. -/
theorem validationPipelineSelector_iff {drawing : Drawing} {regenerated : RegeneratedProject}
    {requestJson snapshotJson : Bytes} {before after : List WorkingGroup} {group : WorkingGroup}
    (hregenerate : regenerateProjectFromSnapshot drawing = .ok regenerated)
    (hdrawn : drawing.groups = (snapshotGroups snapshotJson).map WorkingGroup.toSnapshotGroup)
    (hgroups : snapshotGroups snapshotJson = before ++ group :: after)
    (hrequested : IsRequested (requestedField requestJson snapshotJson "group_id") group)
    (hothers : ∀ other ∈ before ++ after,
      ¬IsRequested (requestedField requestJson snapshotJson "group_id") other) :
    (regenerated.pipelines.map RegeneratedPipeline.pipeId)[before.length]? =
        some (groupPipeId drawing.originals group.toSnapshotGroup before.length) ∧
      (validationPipelineSelector requestJson snapshotJson
          (regenerated.pipelines.map RegeneratedPipeline.pipeId) =
            decimalText (before.length + 1) ↔
        SelectsPipeline (regenerated.pipelines.map RegeneratedPipeline.pipeId) before.length
          (takenPipeline (requestedField requestJson snapshotJson "group_id") group)
          (requestedField requestJson snapshotJson "active_pipeline")) := by
  have hhere : (regenerated.pipelines.map RegeneratedPipeline.pipeId)[before.length]? =
      some (groupPipeId drawing.originals group.toSnapshotGroup before.length) := by
    rw [regenerated_pipeIds (regenerate_ok hregenerate).1, groupViews, List.map_map, hdrawn, hgroups,
      List.getElem?_map, List.getElem?_zipIdx, List.getElem?_map,
      List.getElem?_append_right (Nat.le_refl _), Nat.sub_self, List.getElem?_cons_zero]
    change some (groupPipeId drawing.originals group.toSnapshotGroup (0 + before.length)) = _
    rw [Nat.zero_add]
  refine ⟨hhere, ?_⟩
  rw [selector_iff (by
    intro hnil
    rw [hnil] at hhere
    cases hhere), pipelineFromGroup_eq hgroups (fun _ hmem => snapshotGroups_ids hmem) hrequested
    hothers]

/-! ## A foreign origin -/

/-- Two groups, and the second comes from a pipeline that the workspace does not have. -/
def foreignOrigin : Bytes :=
  asciiBytes "\x7b\"working_groups\":[\x7b\"id\":\"a\"\x7d,\x7b\"id\":\"b\",\"origin_pipeline_ids\":[\"x\"]\x7d]\x7d"

def foreignDrawing : Drawing where
  nodes := []
  connections := []
  groups := (snapshotGroups foreignOrigin).map WorkingGroup.toSnapshotGroup

def groupRequest (group : String) : Bytes :=
  asciiBytes "\x7b\"group_id\":\"" ++ asciiBytes group ++ asciiBytes "\"\x7d"

theorem foreignOrigin_groups : snapshotGroups foreignOrigin =
    [{ id := asciiBytes "a", pipelineId := asciiBytes "a" },
      { id := asciiBytes "b", pipelineId := asciiBytes "b"
        originPipelineIds := [asciiBytes "x"] }] := by
  rfl

theorem foreignDrawing_regenerated : regenerateProjectFromSnapshot foreignDrawing =
    .ok
      { pipelines :=
          [{ pipeId := asciiBytes "a", nodes := [], edges := [] },
            { pipeId := asciiBytes "b", nodes := [], edges := [] }] } := by
  rfl

/-- The first group has no origin, and its own pipeline is named. -/
theorem validationPipelineSelector_own :
    [asciiBytes "a", asciiBytes "b"][0]? = some (asciiBytes "a") ∧
      (validationPipelineSelector (groupRequest "a") foreignOrigin
          [asciiBytes "a", asciiBytes "b"] = decimalText (0 + 1) ↔
        SelectsPipeline [asciiBytes "a", asciiBytes "b"] 0 (asciiBytes "a") []) :=
  @validationPipelineSelector_iff _ _ (groupRequest "a") _ [] _ _ foreignDrawing_regenerated rfl
    foreignOrigin_groups (.inl rfl) (by
      intro other hmem
      rw [List.nil_append, List.mem_singleton] at hmem
      rw [hmem]
      exact not_or.mpr ⟨by decide, by decide⟩)

/-- The origin of the second group is no pipeline, and the first pipeline is validated. -/
theorem foreign_origin_selects : ¬ ∀ (drawing : Drawing) (regenerated : RegeneratedProject)
    (requestJson snapshotJson : Bytes) (before after : List WorkingGroup) (group : WorkingGroup),
    regenerateProjectFromSnapshot drawing = .ok regenerated →
    drawing.groups = (snapshotGroups snapshotJson).map WorkingGroup.toSnapshotGroup →
    snapshotGroups snapshotJson = before ++ group :: after →
    IsRequested (requestedField requestJson snapshotJson "group_id") group →
    (∀ other ∈ before ++ after,
      ¬IsRequested (requestedField requestJson snapshotJson "group_id") other) →
    validationPipelineSelector requestJson snapshotJson
      (regenerated.pipelines.map RegeneratedPipeline.pipeId) = decimalText (before.length + 1) := by
  intro hclaim
  have hselected := hclaim foreignDrawing _ (groupRequest "b") foreignOrigin
    [{ id := asciiBytes "a", pipelineId := asciiBytes "a" }] [] _ foreignDrawing_regenerated rfl
    foreignOrigin_groups (.inl rfl) (by
      intro other hmem
      rw [List.append_nil, List.mem_singleton] at hmem
      rw [hmem]
      exact not_or.mpr ⟨by decide, by decide⟩)
  have hone : validationPipelineSelector (groupRequest "b") foreignOrigin
      [asciiBytes "a", asciiBytes "b"] = decimalText 1 := by
    rw [decimalText_first]
    rfl
  have hapart := decimalText_inj (hone.symm.trans hselected)
  exact absurd hapart (by decide)

end AudioStudio.Gui
