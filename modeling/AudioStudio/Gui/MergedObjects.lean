import AudioStudio.Core.Keyed
import AudioStudio.Gui.LookupTexts

/-!
# Merged arrays of objects

`mergeTopLevelObjectArrayById` of `project_orchestration.cpp`: the objects of a workspace lie over
those of its source.
-/

namespace AudioStudio.Gui

open AudioStudio.LittleEndian
open AudioStudio.Rpc
open AudioStudio.Rpc.Parser

/-! ## Merging -/

/-- `objects` and `index_by_id`. -/
structure Merging where
  objects : List Bytes := []
  indexById : Bytes → Option Nat := fun _ => none

def objectId (idField object : Bytes) : Bytes :=
  ProjectOrchestration.simpleJsonStringField object idField []

def addObject (idField : Bytes) (merging : Merging) (object : Bytes) : Merging :=
  let id := objectId idField object
  if id = [] then { merging with objects := merging.objects ++ [object] }
  else
    match merging.indexById id with
    | none =>
        { objects := merging.objects ++ [object]
          indexById := Function.update merging.indexById id (some merging.objects.length) }
    | some index => { merging with objects := merging.objects.set index object }

def topLevelObjects (ownerJson field : Bytes) : List Bytes :=
  jsonObjectArrayItems (topLevelJsonMemberValue ownerJson field)

def jsonArrayFromObjects (objects : List Bytes) : Bytes :=
  ascii '[' :: (commaJoined objects ++ [ascii ']'])

def mergeTopLevelObjectArrayById (currentJson sourceJson field idField : Bytes) : Bytes :=
  let merging := (topLevelObjects sourceJson field).foldl (addObject idField) {}
  let merging := (topLevelObjects currentJson field).foldl (addObject idField) merging
  jsonArrayFromObjects merging.objects

/-! ## Objects by their ids -/

section Merging

variable {idField object : Bytes} {objects : List Bytes} {merging : Merging}

/-- The map has the place of every id. -/
def Indexes (idField : Bytes) (merging : Merging) : Prop :=
  ∀ id index, merging.indexById id = some index ↔
    (merging.objects.map (objectId idField))[index]? = some id

theorem Indexes.none_iff (hindexes : Indexes idField merging) {id : Bytes} :
    merging.indexById id = none ↔ id ∉ merging.objects.map (objectId idField) := by
  constructor
  · intro hnone hmem
    obtain ⟨index, hindex⟩ := List.mem_iff_getElem?.mp hmem
    rw [(hindexes id index).mpr hindex] at hnone
    cases hnone
  · intro hout
    by_contra hsome
    obtain ⟨index, hindex⟩ := Option.ne_none_iff_exists'.mp hsome
    exact hout (List.mem_of_getElem? ((hindexes id index).mp hindex))

theorem getElem?_concat_iff {ids : List Bytes} {last id : Bytes} {index : Nat} :
    (ids ++ [last])[index]? = some id ↔
      ids[index]? = some id ∨ index = ids.length ∧ id = last := by
  rcases lt_trichotomy index ids.length with hless | rfl | hmore
  · rw [List.getElem?_append_left hless]
    exact ⟨.inl, fun hplace => hplace.resolve_right fun hlast => hless.ne hlast.1⟩
  · rw [List.getElem?_concat_length, List.getElem?_eq_none (Nat.le_refl _)]
    constructor
    · rintro ⟨⟩
      exact .inr ⟨rfl, rfl⟩
    · rintro (hnone | ⟨-, rfl⟩)
      · cases hnone
      · rfl
  · rw [List.getElem?_eq_none (by rw [List.length_append, List.length_singleton]; omega),
      List.getElem?_eq_none hmore.le]
    refine iff_of_false (by rintro ⟨⟩) ?_
    rintro (hnone | ⟨rfl, -⟩)
    · cases hnone
    · exact lt_irrefl _ hmore

/-- With its id, an object is put over the one that has it. -/
theorem addObject_upserts (hindexes : Indexes idField merging) (hid : objectId idField object ≠ []) :
    (addObject idField merging object).objects =
        Keyed.upsert (objectId idField) object merging.objects ∧
      Indexes idField (addObject idField merging object) := by
  unfold addObject
  dsimp only
  rw [if_neg hid]
  cases hfound : merging.indexById (objectId idField object) with
  | none =>
      have hout := hindexes.none_iff.mp hfound
      refine ⟨(Keyed.upsert_of_not_mem hout).symm, fun id index => ?_⟩
      change Function.update merging.indexById _ (some merging.objects.length) id = _ ↔
        ((merging.objects ++ [object]).map (objectId idField))[index]? = some id
      rw [List.map_append, List.map_singleton, getElem?_concat_iff, List.length_map, ← hindexes]
      by_cases hsame : id = objectId idField object
      · rw [hsame, Function.update_self, hfound]
        constructor
        · rintro ⟨⟩
          exact .inr ⟨rfl, rfl⟩
        · rintro (hnone | ⟨rfl, -⟩)
          · cases hnone
          · rfl
      · rw [Function.update_of_ne hsame]
        exact ⟨.inl, fun hplace => hplace.resolve_right fun hlast => hsame hlast.2⟩
  | some index =>
      have hhere := (hindexes _ index).mp hfound
      refine ⟨(Keyed.upsert_set hhere fun hmem => ?_).symm, fun id other => ?_⟩
      · obtain ⟨earlier, hearlier, hsame⟩ := List.mem_take_iff_getElem.mp hmem
        have hplace := (hindexes (objectId idField object) earlier).mpr
          (List.getElem?_eq_some_iff.mpr ⟨_, hsame⟩)
        rw [hfound] at hplace
        cases hplace
        exact absurd hearlier (not_lt.mpr (Nat.min_le_left _ _))
      · obtain ⟨hindex, hat⟩ := List.getElem?_eq_some_iff.mp hhere
        change _ ↔ ((merging.objects.set index object).map (objectId idField))[other]? = some id
        rw [List.map_set, ← hat, List.set_getElem_self]
        exact hindexes id other

theorem foldl_addObject (hindexes : Indexes idField merging)
    (hids : ∀ object ∈ objects, objectId idField object ≠ []) :
    (objects.foldl (addObject idField) merging).objects =
        objects.foldl (fun items object => Keyed.upsert (objectId idField) object items)
          merging.objects ∧
      Indexes idField (objects.foldl (addObject idField) merging) := by
  induction objects generalizing merging with
  | nil => exact ⟨rfl, hindexes⟩
  | cons object objects ih =>
      obtain ⟨hid, hids⟩ := List.forall_mem_cons.mp hids
      obtain ⟨hobjects, hindexes⟩ := addObject_upserts hindexes hid
      rw [List.foldl_cons, List.foldl_cons, ← hobjects]
      exact ih hindexes hids

end Merging

/-! ## Objects of a project -/

/-- The objects of the array that a valid project has under a name, or none without it. -/
inductive HoldsObjects (object : ObjectText) (field : Bytes) : List Bytes → Prop
  | absent (hvalue : object.value field = none) : HoldsObjects object field []
  | present {value : Bytes} {items : List JsonItem} (hvalue : object.value field = some value)
      (harray : IsArray value items) (hobjects : ∀ item ∈ items, item.value.head? = some (ascii '{')) :
      HoldsObjects object field (items.map JsonItem.value)

section Reading

variable {object : ObjectText} {field : Bytes} {objects : List Bytes}

theorem filterMap_objectOf {items : List JsonItem}
    (hobjects : ∀ item ∈ items, item.value.head? = some (ascii '{')) :
    (items.filterMap fun item => objectOf item.value) = items.map JsonItem.value := by
  rw [← List.filterMap_eq_map]
  exact List.filterMap_congr fun item hmem => if_pos (hobjects item hmem)

theorem topLevelObjects_eq (hvalid : object.Valid) (hnames : object.names.Nodup)
    (hfield : PlainName field) (hsought : TopLevelSought object field)
    (hholds : HoldsObjects object field objects) : topLevelObjects object.text field = objects := by
  have hreads := topLevelJsonMemberValue_reads hsought hvalid hnames hfield
  unfold topLevelObjects
  cases hholds with
  | absent hvalue =>
      rw [hvalue] at hreads
      rw [show topLevelJsonMemberValue object.text field = [] from hreads]
      rfl
  | @present value items hvalue harray hobjects =>
      rw [hvalue] at hreads
      obtain ⟨blanks, -, hread⟩ := hreads
      rw [hread, jsonObjectArrayItems_array harray (fun item hmem => .inl (hobjects item hmem)),
        filterMap_objectOf hobjects]

theorem isValue_of_holds (hholds : HoldsObjects object field objects) :
    ∀ object ∈ objects, IsValue object ∧ object.head? = some (ascii '{') := by
  cases hholds with
  | absent _ => exact List.forall_mem_nil _
  | @present value items _ harray hobjects =>
      intro object hmem
      obtain ⟨item, hitem, rfl⟩ := List.mem_map.mp hmem
      refine ⟨?_, hobjects item hitem⟩
      cases harray with
      | empty _ => cases hitem
      | items _ _ hvalues => exact hvalues item hitem

/-- The array of some objects is a valid one with just them. -/
theorem isArray_jsonArrayFromObjects (hvalues : ∀ object ∈ objects, IsValue object) :
    IsArray (jsonArrayFromObjects objects) (objects.map fun object => { value := object }) := by
  have hblanks : Blanks [] := fun _ hc => absurd hc List.not_mem_nil
  cases objects with
  | nil => exact .empty hblanks
  | cons first objects =>
      have htexts : ((first :: objects).map fun object => ({ value := object } : JsonItem)).map
          JsonItem.text = first :: objects := by
        rw [List.map_map]
        refine (List.map_congr_left fun object _ => ?_).trans (List.map_id _)
        exact List.append_nil object
      have harray := @IsArray.items ((first :: objects).map fun object => { value := object })
        (List.cons_ne_nil _ _)
        (List.forall_mem_map.mpr fun object _ => ⟨hblanks, hblanks⟩)
        (List.forall_mem_map.mpr hvalues)
      rwa [htexts] at harray

end Reading

/-! ## What is merged -/

/-- One object for each id: the workspace's, or else the source's, in the order of the source and
then of the workspace. -/
structure Merged (idField : Bytes) (source workspace merged : List Bytes) : Prop where
  ids : merged.map (objectId idField) = source.map (objectId idField) ++
    (workspace.map (objectId idField)).filter fun id => id ∉ source.map (objectId idField)
  once : Keyed.Distinct (objectId idField) merged
  objects : ∀ id, Keyed.find (objectId idField) id merged =
    (Keyed.find (objectId idField) id workspace).or (Keyed.find (objectId idField) id source)

/-- The objects have ids, and no two have the same. -/
structure Identified (idField : Bytes) (objects : List Bytes) : Prop where
  named : ∀ object ∈ objects, objectId idField object ≠ []
  distinct : Keyed.Distinct (objectId idField) objects

/-- The merged array, which the source does not change any more. -/
structure MergesById (source workspace : ObjectText) (field idField : Bytes)
    (sourceObjects workspaceObjects : List Bytes) : Prop where
  array : ∃ items,
    IsArray (mergeTopLevelObjectArrayById workspace.text source.text field idField) items ∧
      Merged idField sourceObjects workspaceObjects (items.map JsonItem.value)
  again : ∀ merged : ObjectText, merged.Valid → merged.names.Nodup →
    TopLevelSought merged field →
    merged.value field =
      some (mergeTopLevelObjectArrayById workspace.text source.text field idField) →
    mergeTopLevelObjectArrayById merged.text source.text field idField =
      mergeTopLevelObjectArrayById workspace.text source.text field idField

section Overlay

variable {idField : Bytes} {source workspace : List Bytes}

theorem foldl_addObject_overlay (hsource : Identified idField source)
    (hworkspace : Identified idField workspace) :
    (workspace.foldl (addObject idField) (source.foldl (addObject idField) {})).objects =
      Keyed.overlay (objectId idField) source workspace := by
  have hempty : Indexes idField {} := by
    intro id index
    exact iff_of_false (by rintro ⟨⟩) (by rintro ⟨⟩)
  obtain ⟨hfirst, hindexes⟩ := foldl_addObject hempty hsource.named
  have hnone : Keyed.Distinct (objectId idField) [] := List.nodup_nil
  rw [(foldl_addObject hindexes hworkspace.named).1, hfirst,
    Keyed.foldl_upsert_eq_overlay hnone hsource.distinct, Keyed.overlay_on_nil,
    Keyed.foldl_upsert_eq_overlay hsource.distinct hworkspace.distinct]

theorem merged_overlay (hsource : Identified idField source)
    (hworkspace : Identified idField workspace) :
    Merged idField source workspace (Keyed.overlay (objectId idField) source workspace) := by
  refine ⟨?_, hsource.distinct.overlay hworkspace.distinct,
    fun id => Keyed.find_overlay id source workspace⟩
  rw [Keyed.keys_overlay]
  exact congrArg (_ ++ ·) (List.filter_congr fun id _ => decide_eq_decide.mpr Iff.rfl)

theorem mem_overlay {object : Bytes}
    (hmem : object ∈ Keyed.overlay (objectId idField) source workspace) :
    object ∈ source ∨ object ∈ workspace := by
  rcases List.mem_append.mp hmem with hfront | hbehind
  · obtain ⟨under, hunder, rfl⟩ := List.mem_map.mp hfront
    cases hfind : Keyed.find (objectId idField) (objectId idField under) workspace with
    | none => exact .inl hunder
    | some other => exact .inr (Keyed.find_mem hfind).1
  · exact .inr (List.mem_filter.mp hbehind).1

theorem Identified.overlay (hsource : Identified idField source)
    (hworkspace : Identified idField workspace) :
    Identified idField (Keyed.overlay (objectId idField) source workspace) :=
  ⟨fun object hmem => (mem_overlay hmem).elim (hsource.named object) (hworkspace.named object),
    hsource.distinct.overlay hworkspace.distinct⟩

end Overlay

/-- Objects are merged by their ids where the scan finds the arrays of both texts. -/
theorem merges_by_id {source workspace : ObjectText} {field idField : Bytes}
    {sourceObjects workspaceObjects : List Bytes} (hfield : PlainName field)
    (hvalid : source.Valid ∧ workspace.Valid)
    (hnames : source.names.Nodup ∧ workspace.names.Nodup)
    (hsource : HoldsObjects source field sourceObjects)
    (hworkspace : HoldsObjects workspace field workspaceObjects)
    (hsourceIds : Identified idField sourceObjects)
    (hworkspaceIds : Identified idField workspaceObjects)
    (hsought : TopLevelSought source field ∧ TopLevelSought workspace field) :
    MergesById source workspace field idField sourceObjects workspaceObjects := by
  have hfirst := topLevelObjects_eq hvalid.1 hnames.1 hfield hsought.1 hsource
  have hsecond := topLevelObjects_eq hvalid.2 hnames.2 hfield hsought.2 hworkspace
  have hresult : mergeTopLevelObjectArrayById workspace.text source.text field idField =
      jsonArrayFromObjects (Keyed.overlay (objectId idField) sourceObjects workspaceObjects) := by
    unfold mergeTopLevelObjectArrayById
    rw [hfirst, hsecond]
    dsimp only
    rw [foldl_addObject_overlay hsourceIds hworkspaceIds]
  have hvalues : ∀ object ∈ Keyed.overlay (objectId idField) sourceObjects workspaceObjects,
      IsValue object ∧ object.head? = some (ascii '{') := fun object hmem =>
    (mem_overlay hmem).elim (isValue_of_holds hsource object) (isValue_of_holds hworkspace object)
  have harray := isArray_jsonArrayFromObjects fun object hmem => (hvalues object hmem).1
  rw [← hresult] at harray
  have hback : ((Keyed.overlay (objectId idField) sourceObjects workspaceObjects).map
      fun object => ({ value := object } : JsonItem)).map JsonItem.value =
        Keyed.overlay (objectId idField) sourceObjects workspaceObjects := by
    rw [List.map_map]
    exact List.map_id _
  constructor
  · refine ⟨_, harray, ?_⟩
    rw [hback]
    exact merged_overlay hsourceIds hworkspaceIds
  · intro merged hmergedValid hmergedNames hmergedSought hmergedValue
    have hholds := HoldsObjects.present hmergedValue harray
      (List.forall_mem_map.mpr fun object hmem => (hvalues object hmem).2)
    rw [hback] at hholds
    have hthird := topLevelObjects_eq hmergedValid hmergedNames hfield hmergedSought hholds
    rw [hresult]
    unfold mergeTopLevelObjectArrayById
    rw [hfirst, hthird]
    dsimp only
    rw [foldl_addObject_overlay hsourceIds (hsourceIds.overlay hworkspaceIds),
      Keyed.overlay_overlay hsourceIds.distinct hworkspaceIds.distinct]

/-! ## A value that is spelled as the name -/

def listedObject : Bytes :=
  ascii '{' :: (commaJoined ([{ name := asciiBytes "a", value := quoted (asciiBytes "b") }].map
    JsonMember.text) ++ [ascii '}'])

/-- The text of `{"a":"...","c":true,"b":[{"a":"b"}]}`. -/
def taggedProject (tag : String) : ObjectText where
  members :=
    [{ name := asciiBytes "a", value := quoted (asciiBytes tag) },
      { name := asciiBytes "c", value := asciiBytes "true" },
      { name := asciiBytes "b", value := jsonArrayFromObjects [listedObject] }]

theorem isValue_listedObject : IsValue listedObject := by
  have hletters : PlainName (asciiBytes "a") ∧ PlainName (asciiBytes "b") :=
    ⟨plainName_letters _ (by decide), plainName_letters _ (by decide)⟩
  refine .object (List.cons_ne_nil _ _) ?_ ?_
  · exact List.forall_mem_singleton.mpr (plainMember_spaced hletters.1 _)
  · exact List.forall_mem_singleton.mpr (.string hletters.2.isBody)

theorem isArray_listedObject :
    IsArray (jsonArrayFromObjects [listedObject]) [{ value := listedObject }] :=
  isArray_jsonArrayFromObjects (List.forall_mem_singleton.mpr isValue_listedObject)

theorem IsArray.isValue {value : Bytes} {items : List JsonItem} (harray : IsArray value items) :
    IsValue value := by
  cases harray with
  | empty hblanks => exact .emptyArray hblanks
  | items hne hspaced hvalues => exact .array hne hspaced hvalues

theorem taggedProject_valid {tag : String} (htag : PlainName (asciiBytes tag)) :
    (taggedProject tag).Valid := by
  have hblanks : Blanks [] := fun _ hc => absurd hc List.not_mem_nil
  have hplain : ∀ name ∈ [asciiBytes "a", asciiBytes "b", asciiBytes "c"], ∀ value,
      ({ name, value } : JsonMember).Spaced :=
    fun name hname value => plainMember_spaced (plainName_letters name hname) value
  have harray : IsValue (jsonArrayFromObjects [listedObject]) :=
    isArray_listedObject.isValue
  refine ⟨hblanks, hblanks, hblanks, fun _ => rfl, ?_, ?_⟩
  · refine List.forall_mem_cons.mpr ⟨hplain _ (by decide) _, List.forall_mem_cons.mpr ⟨?_, ?_⟩⟩
    · exact hplain _ (by decide) _
    · exact List.forall_mem_singleton.mpr (hplain _ (by decide) _)
  · refine List.forall_mem_cons.mpr ⟨.string htag.isBody, List.forall_mem_cons.mpr ⟨?_, ?_⟩⟩
    · exact .literal (by decide)
    · exact List.forall_mem_singleton.mpr harray

theorem taggedProject_holds {tag : String}
    (hvalue : (taggedProject tag).value (asciiBytes "b") =
      some (jsonArrayFromObjects [listedObject])) :
    HoldsObjects (taggedProject tag) (asciiBytes "b") [listedObject] :=
  .present hvalue isArray_listedObject (List.forall_mem_singleton.mpr rfl)

theorem listedObject_identified : Identified (asciiBytes "a") [listedObject] :=
  ⟨List.forall_mem_singleton.mpr (by decide), List.nodup_singleton _⟩

theorem taggedProject_sought {tag : String} (htag : quoted (asciiBytes tag) ≠ quoted (asciiBytes "b")) :
    TopLevelSought (taggedProject tag) (asciiBytes "b") := by
  refine @TopLevelSought.present (taggedProject tag) (asciiBytes "b") rfl
    [{ name := asciiBytes "a", value := quoted (asciiBytes tag) },
      { name := asciiBytes "c", value := asciiBytes "true" }] [] _ rfl rfl ?_
  exact List.forall_mem_cons.mpr ⟨htag, List.forall_mem_singleton.mpr (by decide)⟩

/-- Two projects of which no value is the name of the array. -/
theorem merges_by_id_apart :
    MergesById (taggedProject "c") (taggedProject "a") (asciiBytes "b") (asciiBytes "a")
      [listedObject] [listedObject] := by
  have hletter : PlainName (asciiBytes "c") := plainName_letters _ (by decide)
  have hother : PlainName (asciiBytes "a") := plainName_letters _ (by decide)
  exact merges_by_id (plainName_letters _ (by decide))
    ⟨taggedProject_valid hletter, taggedProject_valid hother⟩ ⟨by decide, by decide⟩
    (taggedProject_holds (by decide)) (taggedProject_holds (by decide)) listedObject_identified
    listedObject_identified
    ⟨taggedProject_sought (by decide), taggedProject_sought (by decide)⟩

theorem IsArray.two_lt_length {value : Bytes} {items : List JsonItem} (harray : IsArray value items)
    (hne : items ≠ []) : 2 < value.length := by
  cases harray with
  | empty _ => exact absurd rfl hne
  | items _ _ hvalues =>
      cases items with
      | nil => exact absurd rfl hne
      | cons item items =>
          have hlength := List.length_pos_of_ne_nil (value_ne_nil (hvalues item List.mem_cons_self))
          rw [List.length_cons, List.length_append, List.map_cons, commaJoined, List.length_append,
            JsonItem.text, List.length_append, List.length_append, List.length_singleton]
          omega

/-- A value in front of the array is taken for its name, and the objects are lost. -/
theorem named_value_loses_objects : ¬ ∀ (source workspace : ObjectText) (field idField : Bytes)
    (sourceObjects workspaceObjects : List Bytes), PlainName field →
    source.Valid ∧ workspace.Valid → source.names.Nodup ∧ workspace.names.Nodup →
    HoldsObjects source field sourceObjects → HoldsObjects workspace field workspaceObjects →
    Identified idField sourceObjects → Identified idField workspaceObjects →
    MergesById source workspace field idField sourceObjects workspaceObjects := by
  intro hclaim
  have hletter : PlainName (asciiBytes "b") := plainName_letters _ (by decide)
  have hvalid : (taggedProject "b").Valid := taggedProject_valid hletter
  obtain ⟨⟨items, harray, hmerged⟩, -⟩ := hclaim (taggedProject "b") (taggedProject "b")
    (asciiBytes "b") (asciiBytes "a") [listedObject] [listedObject] hletter ⟨hvalid, hvalid⟩
    ⟨by decide, by decide⟩ (taggedProject_holds (by decide)) (taggedProject_holds (by decide))
    listedObject_identified listedObject_identified
  have hnone : mergeTopLevelObjectArrayById (taggedProject "b").text (taggedProject "b").text
      (asciiBytes "b") (asciiBytes "a") = asciiBytes "[]" := by
    rfl
  rw [hnone] at harray
  have hne : items ≠ [] := by
    rintro rfl
    have hids := hmerged.ids
    exact absurd hids (by decide)
  exact absurd (harray.two_lt_length hne) (by decide)

end AudioStudio.Gui
