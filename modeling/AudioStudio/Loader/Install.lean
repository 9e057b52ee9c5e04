import AudioStudio.Core.Text
import AudioStudio.Loader.SofLoader

/-!
# Choosing what is installed

`audio_controller_install_pipeline` and `audio_controller_install_all`, with the structure
that they fill in for their caller, and which pipeline a selector stands for.
-/

namespace AudioStudio.Loader

open LittleEndian

/-! ## What the caller is told -/

/-- An `audio_controller_installed_pipeline_t`, where a null pointer is `none`. -/
structure InstalledEntry where
  pipeId : UInt32 := 0
  maxSampleRate : UInt32 := 0
  maxChannels : UInt32 := 0
  pipeline : Option Nat := none
  deriving DecidableEq, Repr

/-- `audio_controller_installed_pipelines_t`. -/
@[ext] structure Installed where
  pipeId : UInt32 := 0
  count : Nat := 0
  pipelines : Nat → InstalledEntry := fun _ => {}

def InstalledEntry.of (installed : InstalledPipeline) : InstalledEntry where
  pipeId := installed.pipeId
  maxSampleRate := installed.maxSampleRate
  maxChannels := installed.maxChannels
  pipeline := some installed.pipeline

namespace Installed

/-- The entry that `out` points to is filled in. -/
def store (installed : Installed) (index : Nat) (one : InstalledPipeline) : Installed :=
  { installed with pipelines := Function.update installed.pipelines index (.of one) }

/-- The pointer of an entry is cleared. -/
def forget (installed : Installed) (index : Nat) : Installed :=
  { installed with
    pipelines := Function.update installed.pipelines index
      { installed.pipelines index with pipeline := none } }

end Installed

/-- The loop of `ac_cleanup_installed` over the entries that are counted. -/
def acCleanupEntries : List Nat → Installed → LoaderProc Installed
  | [], installed => pure { installed with count := 0 }
  | index :: indices, installed =>
      match (installed.pipelines index).pipeline with
      | none => acCleanupEntries indices installed
      | some pipe => do
          acDestroyPipe pipe
          acCleanupEntries indices (installed.forget index)

def acCleanup (installed : Installed) : LoaderProc Installed :=
  acCleanupEntries (List.range installed.count) installed

/-! ## Selectors -/

/-- The loop of `ac_parse_uint_text`. -/
def acParseDigits : Bytes → (result : UInt32) → Option UInt32
  | [], result => some result
  | character :: text, result =>
      if character < 0x30 ∨ character > 0x39 then none
      else acParseDigits text (result * 10 + (character - 0x30).toUInt32)

def acParseUintText (text : Bytes) : Option UInt32 :=
  if text = [] then none else acParseDigits text 0

/-- The first pipeline that has the name or the id. -/
def acSelectPipeline (pipelines : List AcPipeline) (idOrName : Bytes) : Option AcPipeline :=
  pipelines.find? fun pipeline =>
    acParseUintText idOrName = some pipeline.id ∨ pipeline.name = idOrName

/-! ## The two calls -/

section Calls

variable (abi : SofAbi) (ctrlDataSize : Nat) (topology : AcTopology)

/-- What `audio_controller_install_pipeline` does with the pipeline that it has found. -/
def acInstallSelected (idOrName : Bytes) :
    Option AcPipeline → LoaderProc (LoaderResult Unit × Installed)
  | none => pure (.error (.detail "pipeline not found: " idOrName), {})
  | some pipeline => do
      let installed : Installed := { pipeId := pipeline.id, count := 1 }
      match ← acInstallOnePipeline abi ctrlDataSize topology pipeline true with
      | .error error => do
          let installed ← acCleanup installed
          pure (.error error, installed)
      | .ok one => pure (.ok (), installed.store 0 one)

def audioControllerInstallPipeline (idOrName : Bytes) (installed : Installed) :
    LoaderProc (LoaderResult Unit × Installed) :=
  if idOrName = [] then pure (.error (.plain "pipeline id/name is empty"), installed)
  else
    acInstallSelected abi ctrlDataSize topology idOrName
      (acSelectPipeline topology.pipelines idOrName)

/-- The loop of `audio_controller_install_all`, which stores at its index. -/
def acInstallEntries : List AcPipeline → (index : Nat) → Installed →
    LoaderProc (LoaderResult Unit × Installed)
  | [], _, installed => pure (.ok (), installed)
  | pipeline :: rest, index, installed => do
      match ← acInstallOnePipeline abi ctrlDataSize topology pipeline rest.isEmpty with
      | .error error => do
          let installed ← acCleanup installed
          pure (.error error, installed)
      | .ok one =>
          acInstallEntries rest (index + 1)
            { installed.store index one with count := installed.count + 1 }

/-- `audio_controller_install_all` with the structure that it fills in. -/
def audioControllerInstallAllInto : LoaderProc (LoaderResult Unit × Installed) :=
  if topology.pipelines.length > audioControllerMaxInstalledPipelines then
    pure (.error (.plain "too many pipelines in topology"), {})
  else
    match topology.pipelines with
    | [] => pure (.error (.plain "topology has no pipelines"), {})
    | first :: _ =>
        acInstallEntries abi ctrlDataSize topology topology.pipelines 0 { pipeId := first.id }

end Calls

/-! ## Both forms of the result -/

namespace Installed

/-- The structure that lists these pipelines. -/
def listing (pipeId : UInt32) (installed : List InstalledPipeline) : Installed where
  pipeId := pipeId
  count := installed.length
  pipelines index := (installed[index]?).elim {} .of

/-- The structure that has listed these pipelines and was cleaned up. -/
def cleaned (pipeId : UInt32) (installed : List InstalledPipeline) : Installed where
  pipeId := pipeId
  count := 0
  pipelines index := { (installed[index]?).elim {} InstalledEntry.of with pipeline := none }

theorem listing_store (pipeId : UInt32) (installed : List InstalledPipeline)
    (one : InstalledPipeline) :
    { (listing pipeId installed).store installed.length one with
        count := installed.length + 1 } = listing pipeId (installed ++ [one]) := by
  apply Installed.ext
  · rfl
  · exact (List.length_append.trans (congrArg _ List.length_singleton)).symm
  funext index
  dsimp only [listing, store]
  obtain hless | rfl | hmore := Nat.lt_trichotomy index installed.length
  · rw [Function.update_of_ne (Nat.ne_of_lt hless), List.getElem?_append_left hless]
  · rw [Function.update_self, List.getElem?_concat_length]
    rfl
  · have hbeyond : (installed ++ [one])[index]? = none := by
      rw [List.getElem?_eq_none_iff, List.length_append, List.length_singleton]
      omega
    rw [Function.update_of_ne (Nat.ne_of_gt hmore), hbeyond,
      List.getElem?_eq_none_iff.mpr (Nat.le_of_lt hmore)]

/-- The structure whose first entries are cleared already. -/
def clearing (pipeId : UInt32) (installed : List InstalledPipeline) (index : Nat) : Installed where
  pipeId := pipeId
  count := installed.length
  pipelines position :=
    if position < index then
      { (installed[position]?).elim {} InstalledEntry.of with pipeline := none }
    else (installed[position]?).elim {} .of

theorem clearing_forget (pipeId : UInt32) (installed : List InstalledPipeline) (index : Nat) :
    (clearing pipeId installed index).forget index = clearing pipeId installed (index + 1) := by
  apply Installed.ext
  · rfl
  · rfl
  funext position
  dsimp only [clearing, forget]
  obtain hless | rfl | hmore := Nat.lt_trichotomy position index
  · rw [Function.update_of_ne (Nat.ne_of_lt hless), if_pos hless,
      if_pos (Nat.lt_succ_of_lt hless)]
  · rw [Function.update_self, if_neg (Nat.lt_irrefl _), if_pos (Nat.lt_succ_self _)]
  · rw [Function.update_of_ne (Nat.ne_of_gt hmore), if_neg (by omega), if_neg (by omega)]

end Installed

theorem acCleanupEntries_clearing (pipeId : UInt32) (before rest : List InstalledPipeline) :
    acCleanupEntries (List.range' before.length rest.length)
        (Installed.clearing pipeId (before ++ rest) before.length) =
      acCleanupInstalled rest >>= fun _ => pure (Installed.cleaned pipeId (before ++ rest)) := by
  induction rest generalizing before with
  | nil =>
      rw [List.append_nil]
      change pure _ = pure _
      congr 1
      apply Installed.ext
      · rfl
      · rfl
      funext position
      dsimp only [Installed.clearing, Installed.cleaned]
      split
      · rfl
      · next hless =>
          rw [List.getElem?_eq_none_iff.mpr (Nat.not_lt.mp hless)]
          rfl
  | cons one rest ih =>
      have hentry : ((Installed.clearing pipeId (before ++ one :: rest) before.length).pipelines
          before.length).pipeline = some one.pipeline := by
        dsimp only [Installed.clearing]
        rw [if_neg (Nat.lt_irrefl _), List.getElem?_append_right (Nat.le_refl _), Nat.sub_self]
        rfl
      have hsplit : before ++ one :: rest = before ++ [one] ++ rest := by
        rw [List.append_assoc, List.singleton_append]
      rw [List.length_cons, List.range'_succ, acCleanupEntries, hentry, acCleanupInstalled,
        Proc.bind_assoc]
      dsimp only
      congr 1
      funext _
      have hnext := ih (before ++ [one])
      rw [List.length_append, List.length_singleton, ← hsplit] at hnext
      rw [Installed.clearing_forget, hnext]

theorem acCleanup_listing (pipeId : UInt32) (installed : List InstalledPipeline) :
    acCleanup (.listing pipeId installed) =
      acCleanupInstalled installed >>= fun _ => pure (.cleaned pipeId installed) := by
  have hclear := acCleanupEntries_clearing pipeId [] installed
  have hstart : Installed.clearing pipeId installed 0 = .listing pipeId installed := rfl
  rw [List.nil_append, List.length_nil, hstart] at hclear
  rw [acCleanup, List.range_eq_range']
  exact hclear

/-- The pipelines that a structure lists. -/
def Installed.list (installed : Installed) : List InstalledPipeline :=
  (List.range installed.count).map fun index =>
    { pipeId := (installed.pipelines index).pipeId
      maxSampleRate := (installed.pipelines index).maxSampleRate
      maxChannels := (installed.pipelines index).maxChannels
      pipeline := (installed.pipelines index).pipeline.getD 0 }

theorem Installed.list_listing (pipeId : UInt32) (installed : List InstalledPipeline) :
    (Installed.listing pipeId installed).list = installed := by
  apply List.ext_getElem
  · rw [Installed.list, List.length_map, List.length_range]
    rfl
  · intro index _ hindex
    simp only [Installed.list, List.getElem_map, List.getElem_range, Installed.listing,
      List.getElem?_eq_getElem hindex]
    rfl

/-- The loop without the structure does the same as the loop that fills it in. -/
theorem acInstallPipelines_eq (abi : SofAbi) (ctrlDataSize : Nat) (topology : AcTopology)
    (pipeId : UInt32) (pipelines : List AcPipeline) (installed : List InstalledPipeline) :
    acInstallPipelines abi ctrlDataSize topology pipelines installed =
      acInstallEntries abi ctrlDataSize topology pipelines installed.length
          (.listing pipeId installed) >>= fun result =>
        pure (result.1.map fun _ => result.2.list) := by
  induction pipelines generalizing installed with
  | nil =>
      change pure _ = pure _
      rw [Except.map, Installed.list_listing]
  | cons pipeline pipelines ih =>
      rw [acInstallPipelines, acInstallEntries, Proc.bind_assoc]
      congr 1
      funext result
      cases result with
      | error error =>
          dsimp only
          rw [acCleanup_listing, Proc.bind_assoc, Proc.bind_assoc]
          rfl
      | ok one =>
          dsimp only
          have hcount : (Installed.listing pipeId installed).count = installed.length := rfl
          rw [hcount, Installed.listing_store, ih (installed ++ [one]), List.length_append,
            List.length_singleton]

theorem audioControllerInstallAll_eq (abi : SofAbi) (ctrlDataSize : Nat) (topology : AcTopology) :
    audioControllerInstallAll abi ctrlDataSize topology =
      audioControllerInstallAllInto abi ctrlDataSize topology >>= fun result =>
        pure (result.1.map fun _ => result.2.list) := by
  unfold audioControllerInstallAll audioControllerInstallAllInto
  split
  · rfl
  · cases hpipelines : topology.pipelines with
    | nil => rfl
    | cons first rest =>
        rw [List.isEmpty_cons, if_neg (by decide)]
        exact acInstallPipelines_eq abi ctrlDataSize topology first.id (first :: rest) []

/-! ## What a selector stands for -/

/-- The pipeline has the selector as its name, or the number that it spells as its id. -/
def Qualifies (selector : Bytes) (pipeline : AcPipeline) : Prop :=
  pipeline.name = selector ∨
    (∀ character ∈ selector, isDigit character = true) ∧
      pipeline.id.toNat = decimalValue selector

instance (selector : Bytes) (pipeline : AcPipeline) : Decidable (Qualifies selector pipeline) :=
  inferInstanceAs (Decidable (_ ∨ _ ∧ _))

theorem isDigit_iff {character : UInt8} :
    isDigit character = true ↔ ¬(character < 0x30 ∨ character > 0x39) := by
  rw [isDigit, decide_eq_true_eq, not_or, UInt8.not_lt, UInt8.not_lt]

/-- Digits are read in 32 bits. -/
theorem acParseDigits_eq (text : Bytes) (value : Nat) :
    acParseDigits text (UInt32.ofNat value) =
      if text.all isDigit then
        some (UInt32.ofNat
          (text.foldl (fun value digit => 10 * value + (digit - 0x30).toNat) value))
      else none := by
  induction text generalizing value with
  | nil => rw [acParseDigits, List.all_nil, if_pos rfl, List.foldl_nil]
  | cons character text ih =>
      rw [acParseDigits]
      by_cases hcharacter : character < 0x30 ∨ character > 0x39
      · rw [if_pos hcharacter, if_neg]
        rw [List.all_cons, Bool.and_eq_true]
        exact fun hall => isDigit_iff.mp hall.1 hcharacter
      · have hnext : UInt32.ofNat value * 10 + (character - 0x30).toUInt32 =
            UInt32.ofNat (10 * value + (character - 0x30).toNat) := by
          apply UInt32.toNat_inj.mp
          rw [UInt32.toNat_add, UInt32.toNat_mul, UInt8.toNat_toUInt32, UInt32.toNat_ofNat',
            UInt32.toNat_ofNat', Nat.mul_comm 10 value]
          have hten : (10 : UInt32).toNat = 10 := rfl
          rw [hten]
          omega
        rw [if_neg hcharacter, hnext, ih, List.foldl_cons]
        refine if_congr ?_ rfl rfl
        rw [List.all_cons, isDigit_iff.mpr hcharacter, Bool.true_and]

theorem acParseUintText_eq {text : Bytes} (hne : text ≠ []) :
    acParseUintText text =
      if text.all isDigit then
        some (UInt32.ofNat (decimalValue text))
      else none := by
  rw [acParseUintText, if_neg hne]
  exact acParseDigits_eq text 0

/-- A search that stops at more elements finds the same one if and only if it does not stop
in front of it. -/
theorem find?_or_eq_iff {α : Type} (more wanted : α → Bool) (list : List α) :
    list.find? (fun element => more element || wanted element) = list.find? wanted ↔
      ∀ element ∈ list.takeWhile (!wanted ·), more element = false := by
  induction list with
  | nil => exact ⟨fun _ => nofun, fun _ => rfl⟩
  | cons head list ih =>
      cases hwanted : wanted head with
      | true =>
          rw [List.find?_cons_of_pos (by rw [hwanted, Bool.or_true]), List.find?_cons_of_pos hwanted,
            List.takeWhile_cons_of_neg (by rw [hwanted]; decide)]
          exact ⟨fun _ => nofun, fun _ => rfl⟩
      | false =>
          have hskips : list.find? wanted = (head :: list).find? wanted :=
            (List.find?_cons_of_neg (by rw [hwanted]; decide)).symm
          rw [← hskips, List.takeWhile_cons_of_pos (by rw [hwanted]; rfl), List.forall_mem_cons]
          cases hmore : more head with
          | true =>
              rw [List.find?_cons_of_pos (by rw [hmore]; rfl)]
              constructor
              · intro hfound
                have hhead := List.find?_some hfound.symm
                exact absurd (hwanted.symm.trans hhead) nofun
              · exact fun hnever => absurd hnever.1 nofun
          | false =>
              rw [List.find?_cons_of_neg (by rw [hmore, hwanted]; decide), ih]
              exact ⟨fun hrest => ⟨rfl, hrest⟩, fun hboth => hboth.2⟩

/-- A number that fits 32 bits, or no number, is taken for what it is. -/
theorem acSelectPipeline_eq {pipelines : List AcPipeline} {selector : Bytes} (hne : selector ≠ [])
    (hexact : (∃ character ∈ selector, isDigit character = false) ∨
      decimalValue selector < 2 ^ 32) :
    acSelectPipeline pipelines selector = pipelines.find? (Qualifies selector ·) := by
  unfold acSelectPipeline
  congr 1
  funext pipeline
  rw [decide_eq_decide, Qualifies, acParseUintText_eq hne, or_comm]
  refine or_congr_right ?_
  split
  · next hall =>
      have hdigits := List.all_eq_true.mp hall
      obtain ⟨character, hmem, hother⟩ | hsmall := hexact
      · exact absurd (hdigits character hmem) (by rw [hother]; decide)
      · have hvalue : (UInt32.ofNat (decimalValue selector)).toNat = decimalValue selector :=
          Nat.mod_eq_of_lt hsmall
        rw [Option.some.injEq, and_iff_right hdigits, ← UInt32.toNat_inj, hvalue]
        exact eq_comm
  · next hall =>
      exact iff_of_false nofun fun hqualifies => hall (List.all_eq_true.mpr hqualifies.1)

/-- The pipelines in front of the first one of this name do not have the id that the
selector spells modulo `2 ^ 32`. -/
def UnreachedByWrap (pipelines : List AcPipeline) (selector : Bytes) : Prop :=
  ∀ pipeline ∈ pipelines.takeWhile (·.name ≠ selector),
    pipeline.id.toNat ≠ decimalValue selector % 2 ^ 32

instance (pipelines : List AcPipeline) (selector : Bytes) :
    Decidable (UnreachedByWrap pipelines selector) :=
  inferInstanceAs (Decidable (∀ _ ∈ _, _))

/-- A larger number is taken modulo `2 ^ 32`. -/
theorem acSelectPipeline_wraps {pipelines : List AcPipeline} {selector : Bytes}
    (hne : selector ≠ []) (hdigits : ∀ character ∈ selector, isDigit character = true)
    (hlarge : 2 ^ 32 ≤ decimalValue selector) :
    acSelectPipeline pipelines selector = pipelines.find? (Qualifies selector ·) ↔
      UnreachedByWrap pipelines selector := by
  have hcode : acSelectPipeline pipelines selector = pipelines.find? fun pipeline =>
      decide (pipeline.id.toNat = decimalValue selector % 2 ^ 32) ||
        decide (pipeline.name = selector) := by
    unfold acSelectPipeline
    congr 1
    funext pipeline
    rw [Bool.decide_or, acParseUintText_eq hne, if_pos (List.all_eq_true.mpr hdigits)]
    congr 1
    rw [decide_eq_decide, Option.some.injEq, ← UInt32.toNat_inj]
    exact eq_comm
  have hspec : pipelines.find? (Qualifies selector ·) =
      pipelines.find? fun pipeline => decide (pipeline.name = selector) := by
    congr 1
    funext pipeline
    rw [decide_eq_decide, Qualifies]
    refine or_iff_left ?_
    rintro ⟨_, hid⟩
    exact absurd pipeline.id.toNat_lt (by omega)
  rw [hcode, hspec, find?_or_eq_iff, UnreachedByWrap]
  simp only [decide_not, decide_eq_false_iff_not]

/-- The loader installs the pipeline that it has selected.  This is the first one that
qualifies, and none when none does, if and only if the selector is not a number, or one below
`2 ^ 32`, or no pipeline in front of the first one of this name has the id that it wraps to. -/
theorem selected_first_iff (abi : SofAbi) (ctrlDataSize : Nat) (topology : AcTopology)
    (selector : Bytes) (installed : Installed) (hne : selector ≠ []) :
    audioControllerInstallPipeline abi ctrlDataSize topology selector installed =
      acInstallSelected abi ctrlDataSize topology selector
        (acSelectPipeline topology.pipelines selector) ∧
    (acSelectPipeline topology.pipelines selector =
        topology.pipelines.find? (Qualifies selector ·) ↔
      (∃ character ∈ selector, isDigit character = false) ∨
        decimalValue selector < 2 ^ 32 ∨ UnreachedByWrap topology.pipelines selector) := by
  constructor
  · rw [audioControllerInstallPipeline, if_neg hne]
  · by_cases hexact : (∃ character ∈ selector, isDigit character = false) ∨
        decimalValue selector < 2 ^ 32
    · refine iff_of_true (acSelectPipeline_eq hne hexact) ?_
      rw [← or_assoc]
      exact .inl hexact
    · rw [← or_assoc, or_iff_right hexact]
      rw [not_or, not_exists, Nat.not_lt] at hexact
      refine acSelectPipeline_wraps hne (fun character hmem => ?_) hexact.2
      exact Bool.eq_true_of_not_eq_false fun hother => hexact.1 character ⟨hmem, hother⟩

/-- Two pipelines, the second of which has a number for its name. -/
def numberedPipelines : List AcPipeline :=
  [{ name := asciiBytes "playback", id := 1 }, { name := asciiBytes "4294967298", id := 2 }]

theorem selected_first_named :
    acSelectPipeline numberedPipelines (asciiBytes "4294967298") =
      numberedPipelines.find? (Qualifies (asciiBytes "4294967298") ·) :=
  (selected_first_iff ⟨0, 0, fun _ => ⟨0, 0, 0⟩⟩ 0 ⟨[], [], numberedPipelines⟩
    (asciiBytes "4294967298") {} (by decide)).2.mpr (.inr (.inr (by decide)))

/-- `2 ^ 32 + 1` selects the pipeline with id 1. -/
theorem selected_wrapped :
    acSelectPipeline numberedPipelines (asciiBytes "4294967297") =
        some { name := asciiBytes "playback", id := 1 } ∧
      numberedPipelines.find? (Qualifies (asciiBytes "4294967297") ·) = none := by
  decide +kernel

end AudioStudio.Loader
