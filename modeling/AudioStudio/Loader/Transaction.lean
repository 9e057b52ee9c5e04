import AudioStudio.Core.Ensures
import AudioStudio.Core.Ledger
import AudioStudio.Loader.ComponentIds
import AudioStudio.Loader.Install

/-!
# Installations as transactions

Which pipes and buffers an installation has acquired and released when it returns, whatever
the allocator and SOF answer: all of them when it fails, and all but the pipes that it
reports when it succeeds.
-/

namespace AudioStudio.Loader

open LittleEndian

/-! ## The books -/

/-- The pipes of SOF and the blocks of the allocator. -/
structure Books where
  pipes : Ledger Nat
  blocks : Ledger Nat

namespace Books

def empty : Books where
  pipes := .holding []
  blocks := .holding []

def acquirePipe (books : Books) (pipe : Nat) : Books :=
  { books with pipes := books.pipes.acquire pipe }

def releasePipe (books : Books) (pipe : Nat) : Books :=
  { books with pipes := books.pipes.release pipe }

def acquireBlock (books : Books) (address : Nat) : Books :=
  { books with blocks := books.blocks.acquire address }

def releaseBlock (books : Books) (address : Nat) : Books :=
  { books with blocks := books.blocks.release address }

end Books

def booked : (cmd : LoaderCmd) → LoaderReply cmd → Books → Books
  | .alloc _, some address, books => books.acquireBlock address
  | .free address, _, books => books.releaseBlock address
  | .pipelineCreate, some pipe, books => books.acquirePipe pipe
  | .pipelineDestroy pipe, _, books => books.releasePipe pipe
  | _, _, books => books

/-- An environment whose answers are booked. -/
def booking {σ : Type} (handler : Handler LoaderReply σ) : Handler LoaderReply (σ × Books) :=
  fun cmd state =>
    (handler cmd state.1).map fun answer => (answer.1, answer.2, booked cmd answer.1 state.2)

/-- Any environment with its books. -/
def keepsBooks (σ : Type) : Effect LoaderReply (σ × Books) :=
  fun cmd state reply state' => state'.2 = booked cmd reply state.2

theorem keepsBooks_of_booking {σ : Type} (handler : Handler LoaderReply σ) (cmd : LoaderCmd)
    (state : σ × Books) (reply : LoaderReply cmd) (state' : σ × Books)
    (hanswer : (booking handler).effect cmd state reply state') :
    keepsBooks σ cmd state reply state' := by
  obtain ⟨answer, _, hanswer⟩ := Option.map_eq_some_iff.mp hanswer
  cases hanswer
  rfl

/-! ## Programs that settle -/

/-- The pipes are as before, and the blocks that are held. -/
structure Settled (books books' : Books) : Prop where
  pipes : books'.pipes = books.pipes
  blocks : books.blocks.Holds books'.blocks books.blocks.held

def Settles {α : Type} (program : LoaderProc α) : Prop :=
  ∀ (σ : Type) (state : σ × Books),
    program.Ensures (keepsBooks σ) state fun _ state' => Settled state.2 state'.2

section Rules

variable {α β σ : Type} {books books' books'' : Books} {program : LoaderProc α}

theorem Settled.refl (books : Books) : Settled books books where
  pipes := rfl
  blocks := Ledger.Holds.refl _

theorem Settled.trans (hfirst : Settled books books') (hsecond : Settled books' books'') :
    Settled books books'' where
  pipes := hsecond.pipes.trans hfirst.pipes
  blocks := (hfirst.blocks.trans hsecond.blocks).perm hfirst.blocks.held

theorem settles_pure (value : α) : Settles (pure value) :=
  fun _ state => Settled.refl state.2

theorem settles_request {cmd : LoaderCmd} (hcmd : ∀ reply books, booked cmd reply books = books) :
    Settles (Proc.request cmd) := by
  intro σ state reply state' hbooked
  have hsame : state'.2 = state.2 := hbooked.trans (hcmd reply state.2)
  exact hsame ▸ Settled.refl state.2

theorem Settles.bind {rest : α → LoaderProc β} (hprogram : Settles program)
    (hrest : ∀ value, Settles (rest value)) : Settles (program >>= rest) := by
  intro σ state
  refine (hprogram σ state).bind fun value state' hfirst => ?_
  exact (hrest value σ state').mono fun _ _ hsecond => hfirst.trans hsecond

/-- A block that is allocated before a program that settles and freed behind it. -/
theorem settles_alloc {size : Nat} {none' : LoaderProc β} {some' : Nat → LoaderProc α}
    {rest : α → LoaderProc β} (hnone : Settles none') (hsome : ∀ address, Settles (some' address))
    (hrest : ∀ value, Settles (rest value)) :
    Settles (do
      match ← driverAlloc size with
      | none => none'
      | some address => do
          let value ← some' address
          let _ ← Proc.request (.free address)
          rest value) := by
  intro σ state
  refine Proc.ensures_request_bind.mpr fun address state' hbooked => ?_
  have hbooked : state'.2 = booked (.alloc size) address state.2 := hbooked
  cases address with
  | none =>
      have hsame : state'.2 = state.2 := hbooked
      have hends := hnone σ state'
      rw [hsame] at hends
      exact hends
  | some address =>
      refine (hsome address σ state').bind fun value state'' hsettled => ?_
      refine Proc.ensures_request_bind.mpr fun _ freed hfreed => ?_
      refine (hrest value σ freed).mono fun _ _ hends => ?_
      have hheld : state.2.blocks.Holds state'.2.blocks (address :: state.2.blocks.held) :=
        hbooked ▸ (Ledger.Holds.refl state.2.blocks).acquire
      have hbehind := (hheld.trans hsettled.blocks).perm hheld.held
      have hpipes : state'.2.pipes = state.2.pipes := by
        rw [hbooked]
        rfl
      have hfree : Settled state.2 freed.2 := by
        constructor
        · rw [hfreed]
          exact hsettled.pipes.trans hpipes
        · rw [hfreed]
          exact hbehind.release
      exact hfree.trans hends

end Rules

/-! ## The parts of an installation -/

section Parts

variable {σ : Type} {abi : SofAbi} {ctrlDataSize : Nat} {topology : AcTopology}
  {pipeline : AcPipeline}

theorem acConfigAttributes_settles (pipe : Nat) (config : SofPipeConfig)
    (keys : List PipeAttribute) : Settles (acConfigAttributes pipe config keys) := by
  induction keys with
  | nil => exact settles_pure true
  | cons key keys ih =>
      apply (settles_request fun _ _ => rfl).bind
      intro ret
      apply ih.bind
      exact fun others => settles_pure _

theorem acApplyControlPayload_settles (compId : UInt16) (control : AcControl) :
    Settles (acApplyControlPayload abi ctrlDataSize compId control) := by
  unfold acApplyControlPayload
  split
  · exact settles_pure false
  · exact settles_pure true
  · apply settles_alloc (settles_pure false)
    · exact fun address => settles_request fun _ _ => rfl
    · exact fun ret => settles_pure _

theorem acApplyControls_settles (compId : UInt16) (controls : List AcControl) :
    Settles (acApplyControls abi ctrlDataSize compId controls) := by
  induction controls with
  | nil => exact settles_pure true
  | cons control controls ih =>
      apply (acApplyControlPayload_settles compId control).bind
      intro applied
      split
      · exact ih
      · exact settles_pure false

theorem acApplyWidgetControls_settles (widgets : List (AcWidget × UInt16)) :
    Settles (acApplyWidgetControls abi ctrlDataSize pipeline widgets) := by
  induction widgets with
  | nil => exact settles_pure _
  | cons entry widgets ih =>
      obtain ⟨widget, compId⟩ := entry
      rw [acApplyWidgetControls]
      split
      · exact ih
      · apply (acApplyControls_settles compId widget.controls).bind
        intro applied
        split
        · exact ih
        · exact settles_pure _

theorem acAddComps_settles (pipe : Nat) (compIds : List UInt16)
    (widgets : List (AcWidget × UInt16)) :
    Settles (acAddComps abi topology pipeline pipe compIds widgets) := by
  induction widgets with
  | nil => exact settles_pure _
  | cons entry widgets ih =>
      obtain ⟨widget, compId⟩ := entry
      rw [acAddComps]
      split
      · exact ih
      · split
        · exact settles_pure _
        · split
          · exact settles_pure _
          · apply (settles_request fun _ _ => rfl).bind
            intro ret
            split
            · exact settles_pure _
            · exact ih

/-- A pipe that is held is destroyed, and a block that is held is freed. -/
structure Dropped (books books' : Books) (pipes blocks : List Nat) : Prop where
  pipes : books.pipes.Holds books'.pipes pipes
  blocks : books.blocks.Holds books'.blocks blocks

theorem acDestroyPipe_ensures {books : Books} {pipe : Nat} {pipes blocks : List Nat}
    {state : σ × Books} (hdropped : Dropped books state.2 (pipe :: pipes) blocks) :
    (acDestroyPipe pipe).Ensures (keepsBooks σ) state
      fun _ state' => Dropped books state'.2 pipes blocks := by
  intro _ removed hremoved _ destroyed hdestroyed
  have hsame : removed.2 = state.2 := hremoved
  have hdestroyed : destroyed.2 = removed.2.releasePipe pipe := hdestroyed
  constructor
  · rw [hdestroyed, hsame]
    exact hdropped.pipes.release
  · rw [hdestroyed, hsame]
    exact hdropped.blocks

theorem acCleanupInstalled_ensures {books : Books} {blocks : List Nat}
    (installed : List InstalledPipeline) {state : σ × Books}
    (hdropped : Dropped books state.2 (installed.map (·.pipeline)) blocks) :
    (acCleanupInstalled installed).Ensures (keepsBooks σ) state
      fun _ state' => Dropped books state'.2 [] blocks := by
  induction installed generalizing state with
  | nil => exact hdropped
  | cons one installed ih =>
      exact (acDestroyPipe_ensures hdropped).bind fun _ state' hrest => ih hrest

/-- What an installation of one pipeline has done when it returns. -/
structure Installs (pipeline : AcPipeline) (books books' : Books)
    (result : LoaderResult InstalledPipeline) : Prop where
  blocks : books.blocks.Holds books'.blocks books.blocks.held
  failed : ∀ error, result = .error error → books.pipes.Holds books'.pipes books.pipes.held
  done : ∀ one, result = .ok one →
    books'.pipes = books.pipes.acquire one.pipeline ∧ one.pipeId = pipeline.id

/-- The ids are freed and the pipe is destroyed before an error is returned. -/
theorem installs_error {books : Books} {pipe address : Nat} {error : LoaderError}
    {state : σ × Books}
    (hdropped : Dropped books state.2 (pipe :: books.pipes.held) (address :: books.blocks.held)) :
    (do
      let _ ← Proc.request (.free address)
      acDestroyPipe pipe
      pure (.error error) : LoaderProc (LoaderResult InstalledPipeline)).Ensures (keepsBooks σ)
      state fun result state' => Installs pipeline books state'.2 result := by
  refine Proc.ensures_request_bind.mpr fun _ freed hfreed => ?_
  have hfreed : freed.2 = state.2.releaseBlock address := hfreed
  have hafter : Dropped books freed.2 (pipe :: books.pipes.held) books.blocks.held := by
    constructor
    · rw [hfreed]
      exact hdropped.pipes
    · rw [hfreed]
      exact hdropped.blocks.release
  refine (acDestroyPipe_ensures hafter).bind fun _ state' hends => ?_
  exact { blocks := hends.blocks, failed := fun _ _ => hends.pipes, done := nofun }

theorem acInstallComps_ensures {books : Books} {pipe address : Nat} (compIds : List UInt16)
    {state : σ × Books} (hpipes : state.2.pipes = books.pipes.acquire pipe)
    (hblocks : books.blocks.Holds state.2.blocks (address :: books.blocks.held)) :
    (acInstallComps abi ctrlDataSize topology pipeline pipe address compIds).Ensures
      (keepsBooks σ) state fun result state' => Installs pipeline books state'.2 result := by
  have hkept : ∀ state' : σ × Books, Settled state.2 state'.2 →
      state'.2.pipes = books.pipes.acquire pipe ∧
        books.blocks.Holds state'.2.blocks (address :: books.blocks.held) := by
    intro state' hsettled
    exact ⟨hsettled.pipes.trans hpipes, (hblocks.trans hsettled.blocks).perm hblocks.held⟩
  have hdrops : ∀ state' : σ × Books, Settled state.2 state'.2 →
      Dropped books state'.2 (pipe :: books.pipes.held) (address :: books.blocks.held) := by
    intro state' hsettled
    obtain ⟨hpipes', hblocks'⟩ := hkept state' hsettled
    exact { pipes := hpipes' ▸ (Ledger.Holds.refl books.pipes).acquire, blocks := hblocks' }
  unfold acInstallComps
  refine (acAddComps_settles pipe compIds _ σ state).bind fun result added hadded => ?_
  cases result with
  | error error => exact installs_error (hdrops added hadded)
  | ok =>
      dsimp only
      refine Proc.ensures_request_bind.mpr fun ret installed hinstalled => ?_
      have hsame : installed.2 = added.2 := hinstalled
      have hinstalled : Settled state.2 installed.2 := hsame ▸ hadded
      split
      · exact installs_error (hdrops installed hinstalled)
      · refine (acApplyWidgetControls_settles _ σ installed).bind fun result applied happlied => ?_
        have happlied := hinstalled.trans happlied
        cases result with
        | error error => exact installs_error (hdrops applied happlied)
        | ok =>
            refine Proc.ensures_request_bind.mpr fun _ freed hfreed => ?_
            have hfreed : freed.2 = applied.2.releaseBlock address := hfreed
            obtain ⟨hpipes', hblocks'⟩ := hkept applied happlied
            constructor
            · rw [hfreed]
              exact hblocks'.release
            · exact nofun
            · rintro _ ⟨⟩
              rw [hfreed]
              exact ⟨hpipes', rfl⟩

/-- Without a pipe, only the ids have to be freed. -/
theorem acAllocCompIds_ensures_books (state : σ × Books) :
    (acAllocCompIds topology pipeline).Ensures (keepsBooks σ) state fun result state' =>
      state'.2.pipes = state.2.pipes ∧ match result with
        | none => state.2.blocks.Holds state'.2.blocks state.2.blocks.held
        | some (address, _) =>
            state.2.blocks.Holds state'.2.blocks (address :: state.2.blocks.held) := by
  unfold acAllocCompIds
  refine Proc.ensures_request_bind.mpr fun address state' hbooked => ?_
  have hbooked : state'.2 = booked (.alloc (topology.widgets.length * 2)) address state.2 := hbooked
  cases address with
  | none =>
      have hsame : state'.2 = state.2 := hbooked
      exact ⟨congrArg Books.pipes hsame, hsame ▸ Ledger.Holds.refl _⟩
  | some address =>
      have hbooked : state'.2 = state.2.acquireBlock address := hbooked
      have hheld : state.2.blocks.Holds state'.2.blocks (address :: state.2.blocks.held) :=
        hbooked ▸ (Ledger.Holds.refl state.2.blocks).acquire
      have hpipes : state'.2.pipes = state.2.pipes := hbooked ▸ rfl
      have hfrees : ∀ freed : σ × Books, freed.2 = state'.2.releaseBlock address →
          freed.2.pipes = state.2.pipes ∧
            state.2.blocks.Holds freed.2.blocks state.2.blocks.held := by
        intro freed hfreed
        rw [hfreed]
        exact ⟨hpipes, hheld.release⟩
      dsimp only
      split
      · exact fun _ freed hfreed => hfrees freed hfreed
      · split
        · exact fun _ freed hfreed => hfrees freed hfreed
        · exact ⟨hpipes, hheld⟩

theorem acInstallOnePipeline_ensures (lastSubPipe : Bool) (state : σ × Books) :
    (acInstallOnePipeline abi ctrlDataSize topology pipeline lastSubPipe).Ensures (keepsBooks σ)
      state fun result state' => Installs pipeline state.2 state'.2 result := by
  unfold acInstallOnePipeline
  split
  · exact
      { blocks := Ledger.Holds.refl _, failed := fun _ _ => Ledger.Holds.refl _, done := nofun }
  · refine (acAllocCompIds_ensures_books state).bind fun result state' hresult => ?_
    obtain ⟨hpipes, hblocks⟩ := hresult
    cases result with
    | none =>
        exact
          { blocks := hblocks, failed := fun _ _ => hpipes ▸ Ledger.Holds.refl _, done := nofun }
    | some result =>
        obtain ⟨address, compIds⟩ := result
        have hblocks : state.2.blocks.Holds state'.2.blocks (address :: state.2.blocks.held) :=
          hblocks
        refine Proc.ensures_request_bind.mpr fun pipe created hcreated => ?_
        have hcreated : created.2 = booked .pipelineCreate pipe state'.2 := hcreated
        cases pipe with
        | none =>
            intro _ freed hfreed
            have hsame : created.2 = state'.2 := hcreated
            have hfreed : freed.2 = created.2.releaseBlock address := hfreed
            rw [hsame] at hfreed
            constructor
            · rw [hfreed]
              exact hblocks.release
            · intro _ _
              rw [hfreed]
              exact hpipes ▸ Ledger.Holds.refl _
            · exact nofun
        | some pipe =>
            have hcreated : created.2 = state'.2.acquirePipe pipe := hcreated
            have hpipe : created.2.pipes = state.2.pipes.acquire pipe := by
              rw [hcreated, ← hpipes]
              rfl
            have hheld : state.2.blocks.Holds created.2.blocks (address :: state.2.blocks.held) :=
              hcreated ▸ hblocks
            refine (acConfigAttributes_settles pipe _ _ σ created).bind ?_
            intro configured state'' hsettled
            have hpipe' : state''.2.pipes = state.2.pipes.acquire pipe :=
              hsettled.pipes.trans hpipe
            have hheld' : state.2.blocks.Holds state''.2.blocks
                (address :: state.2.blocks.held) :=
              (hheld.trans hsettled.blocks).perm hheld.held
            split
            · exact acInstallComps_ensures compIds hpipe' hheld'
            · intro _ freed hfreed _ destroyed hdestroyed
              have hfreed : freed.2 = state''.2.releaseBlock address := hfreed
              have hdestroyed : destroyed.2 = freed.2.releasePipe pipe := hdestroyed
              constructor
              · rw [hdestroyed, hfreed]
                exact hheld'.release
              · intro _ _
                rw [hdestroyed, hfreed]
                have hholds : state.2.pipes.Holds state''.2.pipes (pipe :: state.2.pipes.held) :=
                  hpipe' ▸ (Ledger.Holds.refl state.2.pipes).acquire
                exact hholds.release
              · exact nofun

end Parts

/-! ## Whole installations -/

/-- All blocks are freed exactly once.  After a failure so are all pipes destroyed, and none is
reported; after a success none is, and they are reported in the order of the requests. -/
structure Transactional (requested : List AcPipeline) (books : Books)
    (result : LoaderResult Unit × Installed) : Prop where
  strayBlocks : books.blocks.stray = []
  blocks : books.blocks.released.Perm books.blocks.acquired
  strayPipes : books.pipes.stray = []
  failed : ∀ error, result.1 = .error error →
    books.pipes.released.Perm books.pipes.acquired ∧ result.2.count = 0 ∧
      ∀ index, (result.2.pipelines index).pipeline = none
  done : result.1 = .ok () →
    books.pipes.released = [] ∧ books.pipes.acquired.length = requested.length ∧
      result.2.count = requested.length ∧
      (∀ index, (result.2.pipelines index).pipeline = books.pipes.acquired[index]?) ∧
      ∀ (index : Nat) (pipeline : AcPipeline), requested[index]? = some pipeline →
        (result.2.pipelines index).pipeId = pipeline.id

/-- What an installation has done after some of its pipelines. -/
structure Underway (finished : List AcPipeline) (books : Books)
    (installed : List InstalledPipeline) : Prop where
  blocks : (Ledger.holding []).Holds books.blocks []
  acquired : books.pipes.acquired = installed.map (·.pipeline)
  released : books.pipes.released = []
  stray : books.pipes.stray = []
  requested : installed.map (·.pipeId) = finished.map (·.id)

section Runs

variable {σ : Type} {abi : SofAbi} {ctrlDataSize : Nat} {topology : AcTopology}
  {pipeline : AcPipeline} {finished : List AcPipeline} {books : Books}
  {installed : List InstalledPipeline}

theorem Underway.held (hunderway : Underway finished books installed) :
    books.pipes.held.Perm (installed.map (·.pipeline)) := by
  have hbalanced := books.pipes.balanced
  rw [hunderway.released, List.nil_append, hunderway.acquired] at hbalanced
  exact hbalanced.symm

theorem underway_empty : Underway [] .empty [] where
  blocks := Ledger.Holds.refl _
  acquired := rfl
  released := rfl
  stray := rfl
  requested := rfl

/-- One more pipeline was installed. -/
theorem Underway.next {books' : Books} {one : InstalledPipeline}
    (hunderway : Underway finished books installed)
    (hinstalls : Installs pipeline books books' (.ok one)) :
    Underway (finished ++ [pipeline]) books' (installed ++ [one]) := by
  obtain ⟨hpipes, hpipeId⟩ := hinstalls.done one rfl
  constructor
  · exact (hunderway.blocks.trans hinstalls.blocks).perm hunderway.blocks.held
  · rw [hpipes, Ledger.acquire_acquired, hunderway.acquired, List.map_append]
    rfl
  · rw [hpipes, Ledger.acquire_released, hunderway.released]
  · rw [hpipes, Ledger.acquire_stray, hunderway.stray]
  · rw [List.map_append, List.map_append, hunderway.requested, List.map_singleton,
      List.map_singleton, hpipeId]

theorem Underway.transactional (hunderway : Underway finished books installed) (pipeId : UInt32) :
    Transactional finished books (.ok (), .listing pipeId installed) := by
  have hlength : installed.length = finished.length := by
    have hlengths := congrArg List.length hunderway.requested
    rwa [List.length_map, List.length_map] at hlengths
  constructor
  · exact hunderway.blocks.stray
  · exact Ledger.released_perm (List.perm_nil.mp hunderway.blocks.held)
  · exact hunderway.stray
  · exact nofun
  · intro _
    refine ⟨hunderway.released, ?_, hlength, ?_, ?_⟩
    · rw [hunderway.acquired, List.length_map, hlength]
    · intro index
      rw [hunderway.acquired, List.getElem?_map]
      dsimp only [Installed.listing]
      cases installed[index]? with
      | none => rfl
      | some one => rfl
    · intro index pipeline hrequested
      have hids := congrArg (·[index]?) hunderway.requested
      rw [List.getElem?_map, List.getElem?_map, hrequested, Option.map_some] at hids
      obtain ⟨one, hone, hpipeId⟩ := Option.map_eq_some_iff.mp hids
      dsimp only [Installed.listing]
      rw [hone]
      exact hpipeId

/-- The pipelines that were installed are destroyed after one that was not. -/
theorem Underway.cleanup {books' : Books} {error : LoaderError}
    {requested : List AcPipeline} {pipeId : UInt32} (hunderway : Underway finished books installed)
    (hinstalls : Installs pipeline books books' (.error error)) {state : σ} :
    (acCleanup (.listing pipeId installed) >>= fun installed =>
      pure (.error error, installed) : LoaderProc (LoaderResult Unit × Installed)).Ensures
      (keepsBooks σ) (state, books') fun result state' =>
        Transactional requested state'.2 result := by
  have hstart : Dropped books books' (installed.map (·.pipeline)) [] := by
    constructor
    · exact (hinstalls.failed error rfl).perm hunderway.held
    · exact hinstalls.blocks.perm hunderway.blocks.held
  rw [acCleanup_listing, Proc.bind_assoc]
  have hcleaned : (acCleanupInstalled installed).Ensures (keepsBooks σ) (state, books')
      fun _ state' => Dropped books state'.2 [] [] := acCleanupInstalled_ensures installed hstart
  refine hcleaned.bind ?_
  intro _ state' hends
  constructor
  · exact hends.blocks.stray.trans hunderway.blocks.stray
  · exact Ledger.released_perm (List.perm_nil.mp hends.blocks.held)
  · exact hends.pipes.stray.trans hunderway.stray
  · intro _ _
    exact ⟨Ledger.released_perm (List.perm_nil.mp hends.pipes.held), rfl, fun _ => rfl⟩
  · exact nofun

theorem acInstallEntries_ensures (pipeId : UInt32) (pipelines : List AcPipeline)
    {state : σ × Books} (hunderway : Underway finished state.2 installed) :
    (acInstallEntries abi ctrlDataSize topology pipelines installed.length
        (.listing pipeId installed)).Ensures (keepsBooks σ) state
      fun result state' => Transactional (finished ++ pipelines) state'.2 result := by
  induction pipelines generalizing state finished installed with
  | nil =>
      rw [List.append_nil]
      exact hunderway.transactional pipeId
  | cons pipeline pipelines ih =>
      refine (acInstallOnePipeline_ensures _ state).bind fun result state' hinstalls => ?_
      cases result with
      | error error => exact hunderway.cleanup hinstalls
      | ok one =>
          have hcount : (Installed.listing pipeId installed).count = installed.length := rfl
          have hrest := ih (hunderway.next hinstalls)
          rw [List.append_assoc, List.singleton_append, List.length_append,
            List.length_singleton] at hrest
          dsimp only
          rw [hcount, Installed.listing_store]
          exact hrest

theorem acInstallSelected_ensures (selector : Bytes) (selected : Option AcPipeline) (state : σ) :
    (acInstallSelected abi ctrlDataSize topology selector selected).Ensures (keepsBooks σ)
      (state, .empty) fun result state' => Transactional selected.toList state'.2 result := by
  cases selected with
  | none =>
      exact
        { strayBlocks := rfl, blocks := List.Perm.refl _, strayPipes := rfl
          failed := fun _ _ => ⟨List.Perm.refl _, rfl, fun _ => rfl⟩, done := nofun }
  | some pipeline =>
      refine (acInstallOnePipeline_ensures true (state, Books.empty)).bind ?_
      intro result state' hinstalls
      cases result with
      | error error =>
          -- The entry is counted before its pipeline is installed, but has no pipe yet.
          have hcleanup : acCleanup { pipeId := pipeline.id, count := 1 } =
              pure { pipeId := pipeline.id, count := 0 } := rfl
          dsimp only
          rw [hcleanup]
          constructor
          · exact hinstalls.blocks.stray
          · exact Ledger.released_perm (List.perm_nil.mp hinstalls.blocks.held)
          · exact (hinstalls.failed error rfl).stray
          · intro _ _
            have hheld := (hinstalls.failed error rfl).held
            exact ⟨Ledger.released_perm (List.perm_nil.mp hheld), rfl, fun _ => rfl⟩
          · exact nofun
      | ok one =>
          have hlisting : Installed.store { pipeId := pipeline.id, count := 1 } 0 one =
              .listing pipeline.id [one] := Installed.listing_store pipeline.id [] one
          dsimp only
          rw [hlisting]
          exact (underway_empty.next hinstalls).transactional pipeline.id

end Runs

/-- Whatever the allocator and SOF answer: an installation of all pipelines, or of one that a
selector names, is transactional. -/
theorem installs_transactional {σ : Type} (abi : SofAbi) (ctrlDataSize : Nat)
    (topology : AcTopology) (handler : Handler LoaderReply σ) (state : σ) :
    (∀ result state' books,
      (audioControllerInstallAllInto abi ctrlDataSize topology).run (booking handler)
        (state, .empty) = (.done result, state', books) →
      Transactional topology.pipelines books result) ∧
    ∀ (selector : Bytes) (installed : Installed) result state' books, selector ≠ [] →
      (audioControllerInstallPipeline abi ctrlDataSize topology selector installed).run
        (booking handler) (state, .empty) = (.done result, state', books) →
      Transactional (acSelectPipeline topology.pipelines selector).toList books result := by
  have hnothing : ∀ error : LoaderError,
      Transactional topology.pipelines .empty (.error error, {}) := fun error =>
    { strayBlocks := rfl, blocks := List.Perm.refl _, strayPipes := rfl
      failed := fun _ _ => ⟨List.Perm.refl _, rfl, fun _ => rfl⟩, done := nofun }
  constructor
  · intro result state' books hrun
    unfold audioControllerInstallAllInto at hrun
    split at hrun
    · cases hrun
      exact hnothing _
    · split at hrun
      · cases hrun
        exact hnothing _
      · next first _ _ =>
          have hensures := @acInstallEntries_ensures σ abi ctrlDataSize topology [] [] first.id
            topology.pipelines (state, .empty) underway_empty
          exact (hensures.restrict (keepsBooks_of_booking handler)).of_run hrun
  · intro selector installed result state' books hne hrun
    rw [audioControllerInstallPipeline, if_neg hne] at hrun
    have hensures := @acInstallSelected_ensures σ abi ctrlDataSize topology selector
      (acSelectPipeline topology.pipelines selector) state
    exact (hensures.restrict (keepsBooks_of_booking handler)).of_run hrun

theorem installs_transactional_small : ∃ result state' books,
    (audioControllerInstallAllInto sofAbi 0 (volumeTopology 2)).run (booking willing)
      ((), .empty) = (.done result, state', books) ∧ result.1 = .ok () ∧
    Transactional (volumeTopology 2).pipelines books result :=
  ⟨_, _, _, rfl, rfl, (installs_transactional sofAbi 0 (volumeTopology 2) willing ()).1 _ _ _ rfl⟩

/-- What an installation of a volume has reported to its caller. -/
def reportedBefore : Installed :=
  .listing 1 [⟨1, 48000, 2, 4096⟩]

/-- An empty selector is refused before the caller's structure is cleared. -/
theorem empty_selector_untouched :
    (audioControllerInstallPipeline sofAbi 0 (volumeTopology 2) [] reportedBefore).run
        (booking willing) ((), .empty) =
      (.done (.error (.plain "pipeline id/name is empty"), reportedBefore), (), .empty) ∧
    reportedBefore.count = 1 ∧ (reportedBefore.pipelines 0).pipeline = some 4096 :=
  ⟨rfl, rfl, rfl⟩

end AudioStudio.Loader
