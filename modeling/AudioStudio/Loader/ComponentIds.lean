import AudioStudio.Core.Ensures
import AudioStudio.Loader.SofLoader
import Mathlib.Data.List.Nodup

/-!
# Component ids

The ids that an installation gives to the components of its pipelines: each pipeline's are
consecutive from 256 times its id on, in 32 bits, so that they are distinct as long as no
pipeline reaches the first id of another one.
-/

namespace AudioStudio.Loader

open LittleEndian

/-! ## What SOF is given -/

/-- The component ids that SOF has been given after a command. -/
def addedIds (ids : List UInt16) : LoaderCmd → List UInt16
  | .pipelineAddComp _ config _ _ => ids ++ [config.compId]
  | _ => ids

/-- An environment with a record of the component ids that SOF is given. -/
def recording {σ : Type} (handler : Handler LoaderReply σ) :
    Handler LoaderReply (σ × List UInt16) :=
  fun cmd state =>
    (handler cmd state.1).map fun answer => (answer.1, answer.2, addedIds state.2 cmd)

/-- Any environment with that record. -/
def adding (σ : Type) : Effect LoaderReply (σ × List UInt16) :=
  fun cmd state _ state' => state'.2 = addedIds state.2 cmd

theorem adding_of_recording {σ : Type} (handler : Handler LoaderReply σ) (cmd : LoaderCmd)
    (state : σ × List UInt16) (reply : LoaderReply cmd) (state' : σ × List UInt16)
    (hanswer : (recording handler).effect cmd state reply state') :
    adding σ cmd state reply state' := by
  obtain ⟨answer, _, hanswer⟩ := Option.map_eq_some_iff.mp hanswer
  cases hanswer
  rfl

/-- A program that adds no component. -/
def Quiet {α : Type} (program : LoaderProc α) : Prop :=
  ∀ (σ : Type) (state : σ × List UInt16),
    program.Ensures (adding σ) state fun _ state' => state'.2 = state.2

/-- A program that, when it succeeds, has added components with ids as wanted. -/
def Adds {α : Type} (wanted : List UInt16 → Prop) (program : LoaderProc (LoaderResult α)) : Prop :=
  ∀ (σ : Type) (state : σ × List UInt16),
    program.Ensures (adding σ) state fun result state' => ∀ value, result = .ok value →
      ∃ ids, wanted ids ∧ state'.2 = state.2 ++ ids

section Rules

variable {α β : Type} {program : LoaderProc α} {wanted : List UInt16 → Prop}

theorem quiet_pure (value : α) : Quiet (pure value) :=
  fun _ _ => rfl

theorem quiet_request {cmd : LoaderCmd} (hcmd : ∀ ids, addedIds ids cmd = ids) :
    Quiet (Proc.request cmd) :=
  fun _ state _ _ hadded => hadded.trans (hcmd state.2)

theorem Quiet.bind {rest : α → LoaderProc β} (hprogram : Quiet program)
    (hrest : ∀ value, Quiet (rest value)) : Quiet (program >>= rest) := by
  intro σ state
  refine (hprogram σ state).bind fun value state' hsame => ?_
  exact (hrest value σ state').mono fun _ _ hsame' => hsame'.trans hsame

/-- What a quiet program is followed by adds all that is added. -/
theorem Quiet.bind_adds {rest : α → LoaderProc (LoaderResult β)} (hprogram : Quiet program)
    (hrest : ∀ value, Adds wanted (rest value)) : Adds wanted (program >>= rest) := by
  intro σ state
  refine (hprogram σ state).bind fun value state' hsame => ?_
  refine (hrest value σ state').mono fun result state'' hadds => ?_
  rwa [hsame] at hadds

theorem adds_error (error : LoaderError) :
    Adds wanted (pure (.error error) : LoaderProc (LoaderResult α)) :=
  fun _ _ => nofun

/-- A program that adds what is wanted, then fails when that failed, and is quiet otherwise. -/
theorem Adds.bind {program : LoaderProc (LoaderResult α)}
    {rest : LoaderResult α → LoaderProc (LoaderResult β)} (hprogram : Adds wanted program)
    (hfail : ∀ error, Adds (fun _ => False) (rest (.error error)))
    (hrest : ∀ value, Quiet (rest (.ok value))) : Adds wanted (program >>= rest) := by
  intro σ state
  refine (hprogram σ state).bind fun result state' hadds => ?_
  cases result with
  | error error =>
      refine (hfail error σ state').mono fun result state'' hfalse value hvalue => ?_
      obtain ⟨_, hnever, _⟩ := hfalse value hvalue
      exact hnever.elim
  | ok value =>
      obtain ⟨ids, hwanted, hids⟩ := hadds value rfl
      refine (hrest value σ state').mono fun result state'' hsame value' _ => ?_
      exact ⟨ids, hwanted, hsame.trans hids⟩

end Rules

/-! ## The parts of an installation -/

section Parts

variable {abi : SofAbi} {ctrlDataSize : Nat} {topology : AcTopology} {pipeline : AcPipeline}

theorem free_quiet (address : Nat) : Quiet (Proc.request (.free address)) :=
  quiet_request fun _ => rfl

theorem acDestroyPipe_quiet (pipe : Nat) : Quiet (acDestroyPipe pipe) := by
  apply (quiet_request fun _ => rfl).bind
  intro _
  apply (quiet_request fun _ => rfl).bind
  exact fun _ => quiet_pure ()

theorem acCleanupInstalled_quiet (installed : List InstalledPipeline) :
    Quiet (acCleanupInstalled installed) := by
  induction installed with
  | nil => exact quiet_pure ()
  | cons one installed ih =>
      apply (acDestroyPipe_quiet one.pipeline).bind
      exact fun _ => ih

theorem acConfigAttributes_quiet (pipe : Nat) (config : SofPipeConfig)
    (keys : List PipeAttribute) : Quiet (acConfigAttributes pipe config keys) := by
  induction keys with
  | nil => exact quiet_pure true
  | cons key keys ih =>
      apply (quiet_request fun _ => rfl).bind
      intro ret
      apply ih.bind
      exact fun others => quiet_pure _

theorem acApplyControlPayload_quiet (compId : UInt16) (control : AcControl) :
    Quiet (acApplyControlPayload abi ctrlDataSize compId control) := by
  unfold acApplyControlPayload
  split
  · exact quiet_pure false
  · exact quiet_pure true
  · apply (quiet_request fun _ => rfl).bind
    intro cdata
    cases cdata with
    | none => exact quiet_pure false
    | some cdata =>
        apply (quiet_request fun _ => rfl).bind
        intro ret
        apply (free_quiet cdata).bind
        exact fun _ => quiet_pure _

theorem acApplyControls_quiet (compId : UInt16) (controls : List AcControl) :
    Quiet (acApplyControls abi ctrlDataSize compId controls) := by
  induction controls with
  | nil => exact quiet_pure true
  | cons control controls ih =>
      apply (acApplyControlPayload_quiet compId control).bind
      intro applied
      split
      · exact ih
      · exact quiet_pure false

theorem acApplyWidgetControls_quiet (widgets : List (AcWidget × UInt16)) :
    Quiet (acApplyWidgetControls abi ctrlDataSize pipeline widgets) := by
  induction widgets with
  | nil => exact quiet_pure _
  | cons widget widgets ih =>
      rw [acApplyWidgetControls]
      split
      · exact ih
      · apply (acApplyControls_quiet widget.2 widget.1.controls).bind
        intro applied
        split
        · exact ih
        · exact quiet_pure _

/-- What a fill sets as the component's id is the one that it is given. -/
theorem acFillCompConfig_compId {widget : AcWidget} {compId : UInt16} {config : SofCompConfig}
    (hfill : acFillCompConfig abi widget pipeline compId = some config) :
    config.compId = compId := by
  obtain ⟨params, _, rfl⟩ := Option.map_eq_some_iff.mp hfill
  rfl

/-- The ids that are not 0 are given to SOF, in the order of the widgets. -/
theorem acAddComps_adds (pipe : Nat) (compIds : List UInt16) (widgets : List (AcWidget × UInt16)) :
    Adds (· = (widgets.map (·.2)).filter (· ≠ 0))
      (acAddComps abi topology pipeline pipe compIds widgets) := by
  induction widgets with
  | nil => exact fun _ state _ _ => ⟨[], rfl, (List.append_nil _).symm⟩
  | cons widget widgets ih =>
      rw [acAddComps, List.map_cons]
      split
      · next hzero =>
          rw [List.filter_cons_of_neg (by simpa using hzero)]
          exact ih
      · next hcomponent =>
          split
          · exact adds_error _
          · split
            · exact adds_error _
            · next config hfill =>
                rw [List.filter_cons_of_pos (by simpa using hcomponent)]
                intro σ state
                refine Proc.ensures_request_bind.mpr fun ret state' hadded => ?_
                have hadded : state'.2 = state.2 ++ [config.compId] := hadded
                rw [acFillCompConfig_compId hfill] at hadded
                split
                · exact nofun
                · refine (ih σ state').mono fun result state'' hadds value hvalue => ?_
                  obtain ⟨ids, rfl, hids⟩ := hadds value hvalue
                  exact ⟨_, rfl, by rw [hids, hadded, List.append_assoc]; rfl⟩

/-- What is undone when an installation fails. -/
theorem acInstall_undone {α : Type} (pipe address : Nat) (error : LoaderError) :
    Quiet (do
      let _ ← Proc.request (LoaderCmd.free address)
      acDestroyPipe pipe
      pure (.error error : LoaderResult α)) := by
  apply (free_quiet address).bind
  intro _
  apply (acDestroyPipe_quiet pipe).bind
  exact fun _ => quiet_pure _

theorem acInstallComps_adds (pipe address : Nat) {compIds : List UInt16}
    (hlength : compIds.length = topology.widgets.length) :
    Adds (· = compIds.filter (· ≠ 0))
      (acInstallComps abi ctrlDataSize topology pipeline pipe address compIds) := by
  have hzip : (topology.widgets.zip compIds).map (·.2) = compIds :=
    List.map_snd_zip hlength.le
  have hadds := @acAddComps_adds abi topology pipeline pipe compIds (topology.widgets.zip compIds)
  rw [hzip] at hadds
  apply hadds.bind
  · intro error
    apply (free_quiet address).bind_adds
    intro _
    apply (acDestroyPipe_quiet pipe).bind_adds
    exact fun _ => adds_error error
  · intro _
    apply (quiet_request fun _ => rfl).bind
    intro ret
    split
    · exact acInstall_undone pipe address _
    · apply (acApplyWidgetControls_quiet _).bind
      intro applied
      cases applied with
      | error error => exact acInstall_undone pipe address error
      | ok =>
          apply (free_quiet address).bind
          exact fun _ => quiet_pure _

/-! ## The ids of a pipeline -/

/-- How many components a pipeline has. -/
def componentCount (topology : AcTopology) (pipeline : AcPipeline) : Nat :=
  topology.widgets.countP (isComponent pipeline)

/-- Which 256 ids a pipeline is meant to have; its id counts in 24 bits. -/
def idBlock (pipeline : AcPipeline) : Nat := pipeline.id.toNat % 2 ^ 24

/-- The ids of a pipeline's components. -/
def componentIds (topology : AcTopology) (pipeline : AcPipeline) : List Nat :=
  List.range' (256 * idBlock pipeline + 1) (componentCount topology pipeline)

theorem acNumberWidgets_ids {widgets : List AcWidget} {nextId : UInt16} {compIds : List UInt16}
    (hnext : nextId ≠ 0) (hnumber : acNumberWidgets pipeline widgets nextId = some compIds) :
    compIds.length = widgets.length ∧ (compIds.filter (· ≠ 0)).map (·.toNat) =
      List.range' nextId.toNat (widgets.countP (isComponent pipeline)) := by
  induction widgets generalizing nextId compIds with
  | nil =>
      cases hnumber
      exact ⟨rfl, rfl⟩
  | cons widget widgets ih =>
      rw [acNumberWidgets] at hnumber
      split at hnumber
      · next hcomponent =>
          split at hnumber
          · cases hnumber
          · next hlast =>
              obtain ⟨rest, hrest, rfl⟩ := Option.map_eq_some_iff.mp hnumber
              have hnotLast : nextId.toNat ≠ 65535 := fun heq => hlast (UInt16.toNat_inj.mp heq)
              have hbound := nextId.toNat_lt
              have hsucc : (nextId + 1).toNat = nextId.toNat + 1 := by
                rw [UInt16.toNat_add, UInt16.toNat_one]
                exact Nat.mod_eq_of_lt (by omega)
              have hsuccNe : nextId + 1 ≠ 0 := by
                intro hzero
                rw [hzero] at hsucc
                exact absurd hsucc (Nat.succ_ne_zero _).symm
              obtain ⟨hlength, hids⟩ := ih hsuccNe hrest
              refine ⟨by rw [List.length_cons, List.length_cons, hlength], ?_⟩
              rw [List.filter_cons_of_pos (by simpa using hnext), List.map_cons, hids, hsucc,
                List.countP_cons_of_pos hcomponent, List.range'_succ]
      · next hother =>
          obtain ⟨rest, hrest, rfl⟩ := Option.map_eq_some_iff.mp hnumber
          obtain ⟨hlength, hids⟩ := ih hnext hrest
          refine ⟨by rw [List.length_cons, List.length_cons, hlength], ?_⟩
          rw [List.filter_cons_of_neg (by simp), hids, List.countP_cons_of_neg hother]

/-- The first id is computed in 32 bits and kept when it fits 16. -/
theorem firstId_toNat (hbase : ¬pipeline.id * acPipelineCompIdStride + 1 > 65535) :
    (pipeline.id * acPipelineCompIdStride + 1).toUInt16.toNat = 256 * idBlock pipeline + 1 := by
  have hsmall : (pipeline.id * acPipelineCompIdStride + 1).toNat ≤ 65535 :=
    UInt32.le_iff_toNat_le.mp (UInt32.not_lt.mp hbase)
  have hstride : acPipelineCompIdStride.toNat = 256 := rfl
  have hone : (1 : UInt32).toNat = 1 := rfl
  rw [UInt32.toNat_add, UInt32.toNat_mul, hstride, hone] at hsmall
  rw [UInt32.toNat_toUInt16, UInt32.toNat_add, UInt32.toNat_mul, hstride, hone, idBlock]
  omega

/-- The array has the pipeline's ids, and no other than 0. -/
theorem acAllocCompIds_ensures {σ : Type} (state : σ × List UInt16) :
    (acAllocCompIds topology pipeline).Ensures (adding σ) state fun result state' =>
      state'.2 = state.2 ∧ ∀ address compIds, result = some (address, compIds) →
        compIds.length = topology.widgets.length ∧
          (compIds.filter (· ≠ 0)).map (·.toNat) = componentIds topology pipeline := by
  refine Proc.ensures_request_bind.mpr fun address state' hsame => ?_
  have hsame : state'.2 = state.2 := hsame
  cases address with
  | none => exact ⟨hsame, nofun⟩
  | some address =>
      dsimp only
      split
      · exact fun _ state'' hfreed => ⟨hfreed.trans hsame, nofun⟩
      · next hbase =>
          split
          · exact fun _ state'' hfreed => ⟨hfreed.trans hsame, nofun⟩
          · next compIds hnumber =>
              refine ⟨hsame, ?_⟩
              rintro _ _ ⟨⟩
              have hfirst := firstId_toNat hbase
              have hne : (pipeline.id * acPipelineCompIdStride + 1).toUInt16 ≠ 0 := by
                intro hzero
                rw [hzero] at hfirst
                exact absurd hfirst (Nat.succ_ne_zero _).symm
              obtain ⟨hlength, hids⟩ := acNumberWidgets_ids hne hnumber
              rw [hfirst] at hids
              exact ⟨hlength, hids⟩

theorem acInstallOnePipeline_adds (lastSubPipe : Bool) :
    Adds (fun ids => ids.map (·.toNat) = componentIds topology pipeline)
      (acInstallOnePipeline abi ctrlDataSize topology pipeline lastSubPipe) := by
  unfold acInstallOnePipeline
  split
  · exact adds_error _
  · intro σ state
    refine (acAllocCompIds_ensures state).bind fun result state' hresult => ?_
    obtain ⟨hsame, hids⟩ := hresult
    rw [← hsame]
    cases result with
    | none => exact adds_error _ σ state'
    | some result =>
        obtain ⟨address, compIds⟩ := result
        obtain ⟨hlength, hids⟩ := hids address compIds rfl
        have hcreate : Quiet sofPipelineCreate := quiet_request fun _ => rfl
        refine hcreate.bind_adds (fun pipe => ?_) σ state'
        cases pipe with
        | none => exact (free_quiet address).bind_adds fun _ => adds_error _
        | some pipe =>
            apply (acConfigAttributes_quiet pipe _ _).bind_adds
            intro configured
            split
            · intro σ state
              refine (acInstallComps_adds pipe address hlength σ state).mono ?_
              intro result state' hadds value hvalue
              obtain ⟨ids, rfl, hadded⟩ := hadds value hvalue
              exact ⟨_, hids, hadded⟩
            · apply (free_quiet address).bind_adds
              intro _
              apply (quiet_request fun _ => rfl).bind_adds
              exact fun _ => adds_error _

theorem acInstallPipelines_adds (pipelines : List AcPipeline) (installed : List InstalledPipeline) :
    Adds (fun ids => ids.map (·.toNat) = pipelines.flatMap (componentIds topology))
      (acInstallPipelines abi ctrlDataSize topology pipelines installed) := by
  induction pipelines generalizing installed with
  | nil => exact fun _ state _ _ => ⟨[], rfl, (List.append_nil _).symm⟩
  | cons pipeline pipelines ih =>
      intro σ state
      refine (acInstallOnePipeline_adds _ σ state).bind fun result state' hresult => ?_
      cases result with
      | error error =>
          have hfails : Adds (fun _ => False) (do
              let _ ← acCleanupInstalled installed
              pure (.error error : LoaderResult (List InstalledPipeline))) :=
            (acCleanupInstalled_quiet installed).bind_adds fun _ => adds_error error
          refine (hfails σ state').mono fun result state'' hfalse value hvalue => ?_
          obtain ⟨_, hnever, _⟩ := hfalse value hvalue
          exact hnever.elim
      | ok one =>
          obtain ⟨ids, hids, hadded⟩ := hresult one rfl
          refine (ih (installed ++ [one]) σ state').mono fun result state'' hrest value hvalue => ?_
          obtain ⟨ids', hids', hadded'⟩ := hrest value hvalue
          refine ⟨ids ++ ids', ?_, ?_⟩
          · dsimp only at hids hids' ⊢
            rw [List.map_append, hids, hids', List.flatMap_cons]
          · rw [hadded', hadded, List.append_assoc]

end Parts

/-! ## Distinct ids -/

/-- Of two pipelines with components, one ends before the ids of the other one begin. -/
def Spaced (topology : AcTopology) (first second : AcPipeline) : Prop :=
  componentCount topology first = 0 ∨ componentCount topology second = 0 ∨
    256 * idBlock first + componentCount topology first ≤ 256 * idBlock second ∨
    256 * idBlock second + componentCount topology second ≤ 256 * idBlock first

instance (topology : AcTopology) (first second : AcPipeline) :
    Decidable (Spaced topology first second) :=
  inferInstanceAs (Decidable (_ ∨ _ ∨ _ ∨ _))

theorem disjoint_componentIds_iff {topology : AcTopology} {first second : AcPipeline} :
    (componentIds topology first).Disjoint (componentIds topology second) ↔
      Spaced topology first second := by
  constructor
  · intro hdisjoint
    by_contra hspaced
    unfold Spaced at hspaced
    have hfirst : max (256 * idBlock first) (256 * idBlock second) + 1 ∈
        componentIds topology first := by
      rw [componentIds, List.mem_range'_1]
      omega
    refine hdisjoint hfirst ?_
    rw [componentIds, List.mem_range'_1]
    omega
  · intro hspaced id hfirst hsecond
    rw [componentIds, List.mem_range'_1] at hfirst hsecond
    unfold Spaced at hspaced
    omega

theorem nodup_componentIds_iff {topology : AcTopology} {pipelines : List AcPipeline} :
    (pipelines.flatMap (componentIds topology)).Nodup ↔ pipelines.Pairwise (Spaced topology) := by
  have hown : ∀ pipeline ∈ pipelines, (componentIds topology pipeline).Nodup :=
    fun pipeline _ => List.nodup_range'
  rw [List.nodup_flatMap, and_iff_right hown]
  exact List.Pairwise.iff fun _ _ => disjoint_componentIds_iff

/-- When everything is installed, the component ids that SOF was given are not 0, and they
are pairwise distinct if and only if the pipelines are spaced. -/
theorem component_ids_distinct {σ : Type} (abi : SofAbi) (ctrlDataSize : Nat)
    (topology : AcTopology) (handler : Handler LoaderReply σ) (state state' : σ)
    (installed : List InstalledPipeline) (ids : List UInt16)
    (hrun : (audioControllerInstallAll abi ctrlDataSize topology).run (recording handler)
      (state, []) = (.done (.ok installed), state', ids)) :
    ((∀ id ∈ ids, id ≠ 0) ∧ ids.Nodup) ↔ topology.pipelines.Pairwise (Spaced topology) := by
  have hids : ids.map (·.toNat) = topology.pipelines.flatMap (componentIds topology) := by
    unfold audioControllerInstallAll at hrun
    split at hrun
    · cases hrun
    · split at hrun
      · cases hrun
      · have hadds := @acInstallPipelines_adds abi ctrlDataSize topology topology.pipelines [] σ
          (state, [])
        have hensures := hadds.restrict (adding_of_recording handler)
        obtain ⟨_, hids, rfl⟩ := hensures.of_run hrun installed rfl
        exact hids
  have hnonzero : ∀ id ∈ ids, id ≠ 0 := by
    rintro _ hmem rfl
    have hzero : 0 ∈ topology.pipelines.flatMap (componentIds topology) :=
      hids ▸ List.mem_map_of_mem hmem
    obtain ⟨pipeline, _, hzero⟩ := List.mem_flatMap.mp hzero
    rw [componentIds, List.mem_range'_1] at hzero
    omega
  rw [and_iff_right hnonzero, ← nodup_componentIds_iff, ← hids]
  exact (List.nodup_map_iff fun _ _ => UInt16.toNat_inj.mp).symm

/-! ## Two topologies -/

/-- A driver and a SOF library that refuse nothing. -/
def willing : Handler LoaderReply Unit
  | .alloc _, _ => some (some 0, ())
  | .free _, _ => some ((), ())
  | .pipelineCreate, _ => some (some 0, ())
  | .pipelineConfig _ _ _, _ => some (0, ())
  | .pipelineAddComp _ _ _ _, _ => some (0, ())
  | .pipelineInstall _, _ => some (0, ())
  | .pipelineRemove _, _ => some (0, ())
  | .pipelineDestroy _, _ => some (0, ())
  | .ctrlSet _ _, _ => some (0, ())

/-- SOF's ABI header, where no control has a payload. -/
def sofAbi : SofAbi where
  magic := 0x00464f53
  hdrSize := 32
  hdr payload := ⟨word32 payload 0, word32 payload 4, word32 payload 8⟩

/-- The scheduler and the volumes of a pipeline. -/
def volumeWidgets (pipelineId : UInt32) (count : Nat) : List AcWidget :=
  { name := ascii "SCHED", id := acDapmScheduler, pipelineId } ::
    List.replicate count { name := ascii "PGA", id := acDapmPga, pipelineId }

/-- Two pipelines with ids 1 and 2, the first with that many volumes, the second with one. -/
def volumeTopology (count : Nat) : AcTopology where
  widgets := volumeWidgets 1 count ++ volumeWidgets 2 1
  pipelines := [{ name := ascii "SCHED", id := 1 }, { name := ascii "SCHED", id := 2 }]

/-- What both pipelines are installed as. -/
def volumesInstalled : List InstalledPipeline :=
  [⟨1, 48000, 2, 0⟩, ⟨2, 48000, 2, 0⟩]

theorem component_ids_distinct_small : (∀ id ∈ [257, 258, 513], id ≠ (0 : UInt16)) ∧
    [257, 258, (513 : UInt16)].Nodup :=
  (component_ids_distinct sofAbi 0 (volumeTopology 2) willing () () volumesInstalled
    [257, 258, 513] rfl).mpr (by decide)

/-- The ids of a pipeline with 257 components, and of the one behind it. -/
def collidingIds : List UInt16 :=
  (List.range' 257 257).map Nat.toUInt16 ++ [513]

/-- The last of 257 components has the id of the next pipeline's first. -/
theorem component_ids_collide :
    (audioControllerInstallAll sofAbi 0 (volumeTopology 257)).run (recording willing) ((), []) =
      (.done (.ok volumesInstalled), (), collidingIds) ∧ ¬collidingIds.Nodup := by
  constructor
  · decide +kernel
  · decide +kernel

end AudioStudio.Loader
