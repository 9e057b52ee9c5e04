import AudioStudio.Gui.Orchestrator

/-!
# What is saved

`build_ok` is a flag beside the file that it vouches for.  Which overlapping of tasks
keeps the two together, and that then only validated text reaches a source.
-/

namespace AudioStudio.Gui

open AudioStudio.LittleEndian

namespace Stage

/-- A build that has not yet taken `build_ok` down. -/
def early : Stage → Bool
  | readInput _ | readSource _ _ | stopValidation _ _ _ | reset _ _ _ => true
  | _ => false

/-- A build that has not yet compiled. -/
def beforeCompile : Stage → Bool
  | writeInput _ _ | revise _ | compile _ => true
  | stage => stage.early

/-- A build of which nothing more will be asked. -/
def afterFailure : Stage → Bool
  | ended .failed => true
  | _ => false

/-- A build that left `build_ok` as it is, or set it. -/
def closed : Stage → Bool
  | ended .loaded | ended .missing => true
  | _ => false

def saving : Stage → Bool
  | saveRead | saveWrite _ => true
  | _ => false

end Stage

/-- The workspace that a request names. -/
def BuildRequest.target (request : BuildRequest) : Bytes :=
  if request.workspaceId = [] then workspaceIdOf (sanitizeProjectConfigPath request.project)
  else request.workspaceId

/-- The stage of the most recently started build of a workspace meets a condition. -/
def LatestMeets (s : Orchestrator) (workspaceId : Bytes) (meets : Stage → Bool) : Prop :=
  ∃ build task, s.latestBuild workspaceId = some build ∧ s.tasks build = some task ∧
    meets task.stage = true

/-- The events that keep `build_ok` and the file together. -/
def Timely (s : Orchestrator) : Event → Prop
  | .buildPipeline _ request _ =>
      -- no build starts while a save is under way
      ∀ other task, s.tasks other = some task → task.stage.saving = true →
        task.record.workspaceId ≠ request.target
  | .saveProject _ workspaceId =>
      -- no save starts while the last build still has to take the flag down
      (∃ record, s.workspaces workspaceId = some record ∧ record.buildOk = true) →
        ¬ LatestMeets s workspaceId Stage.early
  | .advance task _ =>
      match s.tasks task with
      | some { record, stage := .writeInput _ _ } =>
          -- no overtaken build writes under one that has compiled
          LatestMeets s record.workspaceId fun stage => stage.beforeCompile || stage.afterFailure
      | some { record, stage := .finish (_ :: _) } =>
          -- no overtaken build sets the flag for one that is under way or has failed
          s.latestBuild record.workspaceId ≠ some task →
            LatestMeets s record.workspaceId fun stage => stage.early || stage.closed
      | _ => True
  | .openProjectByName _ _ | .unloadPipeline _ _ _ => True

/-! ## The invariant -/

/-- What the most recently started build of a workspace has shown of its file. -/
def Shown (s : Orchestrator) (build : Nat) (task : Task) : Prop :=
  match task.stage with
  | .writeTestList _ | .startValidation _ =>
      s.compiled build = some (s.inputs task.record.inputPath)
  | .finish _ | .ended .loaded =>
      s.compiled build = some (s.inputs task.record.inputPath) ∧ s.validated build = true
  | .ended .missing => s.inputs task.record.inputPath = []
  | _ => True

structure Vouching (site : Site) (s : Orchestrator) : Prop where
  known : ∀ workspaceId place, s.places workspaceId = some place →
    place = placeOf site place.project ∧ place.workspaceId = workspaceId
  task : ∀ number task, s.tasks number = some task →
    s.places task.record.workspaceId = some task.record.toWorkspacePlace
  latest : ∀ workspaceId build, s.latestBuild workspaceId = some build →
    ∃ task, s.tasks build = some task ∧ task.record.workspaceId = workspaceId
  shown : ∀ workspaceId build task, s.latestBuild workspaceId = some build →
    s.tasks build = some task → Shown s build task
  flag : ∀ workspaceId record, s.workspaces workspaceId = some record → record.buildOk = true →
    LatestMeets s workspaceId fun stage => stage.early || stage.closed
  saving : ∀ number task, s.tasks number = some task → task.stage.saving = true →
    LatestMeets s task.record.workspaceId Stage.closed
  saved : ∀ number record text, s.tasks number = some { record, stage := .saveWrite text } →
    text = s.inputs record.inputPath ∧ text ≠ []

/-! ## The latest build -/

section Steps

variable {site : Site} {s : Orchestrator}

/-- Two conditions on the latest build meet in its stage. -/
theorem LatestMeets.both {workspaceId : Bytes} {first second : Stage → Bool}
    (hfirst : LatestMeets s workspaceId first) (hsecond : LatestMeets s workspaceId second) :
    ∃ stage, first stage = true ∧ second stage = true := by
  obtain ⟨build, task, hbuild, htask, hmeets⟩ := hfirst
  obtain ⟨build', task', hbuild', htask', hmeets'⟩ := hsecond
  obtain rfl := Option.some.inj (hbuild.symm.trans hbuild')
  obtain rfl := Option.some.inj (htask.symm.trans htask')
  exact ⟨task.stage, hmeets, hmeets'⟩

variable {number : Nat} {record : WorkspaceRecord}

theorem LatestMeets.goTo {workspaceId : Bytes} {meets : Stage → Bool} {stage : Stage}
    (hmeets : LatestMeets s workspaceId meets)
    (hnew : s.latestBuild workspaceId = some number → meets stage = true) :
    LatestMeets (s.goTo number record stage) workspaceId meets := by
  obtain ⟨build, task, hbuild, htask, hold⟩ := hmeets
  by_cases hsame : build = number
  · subst hsame
    exact ⟨build, _, hbuild, Function.update_self build _ _, hnew hbuild⟩
  · refine ⟨build, task, hbuild, ?_, hold⟩
    exact (Function.update_of_ne hsame _ _).trans htask

/-- A task is in no other place than before. -/
theorem tasks_goTo {other : Nat} {stage : Stage} {task : Task}
    (htask : (s.goTo number record stage).tasks other = some task) :
    (other = number ∧ task = { record, stage }) ∨ (other ≠ number ∧ s.tasks other = some task) := by
  by_cases hsame : other = number
  · subst hsame
    left
    have hself : (s.goTo other record stage).tasks other = some { record, stage } :=
      Function.update_self other _ _
    exact ⟨rfl, Option.some.inj (htask.symm.trans hself)⟩
  · right
    exact ⟨hsame, (Function.update_of_ne hsame _ _).symm.trans htask⟩

namespace Vouching

/-! ## Changes -/

variable {number : Nat} {task : Task} {record : WorkspaceRecord} {stage : Stage}

/-- A task goes on to its next stage. -/
theorem goTo (hvouching : Vouching site s) (hat : s.tasks number = some task)
    (hrecord : record.toWorkspacePlace = task.record.toWorkspacePlace)
    (hopen : task.stage.closed = false)
    (hshown : s.latestBuild record.workspaceId = some number → Shown s number { record, stage })
    (hflag : ∀ kept, s.workspaces record.workspaceId = some kept → kept.buildOk = true →
      s.latestBuild record.workspaceId = some number → (stage.early || stage.closed) = true)
    (hsaving : stage.saving = true → task.stage.saving = true)
    (hsaved : ∀ text, stage = .saveWrite text → text = s.inputs record.inputPath ∧ text ≠ []) :
    Vouching site (s.goTo number record stage) := by
  have hid : record.workspaceId = task.record.workspaceId :=
    congrArg WorkspacePlace.workspaceId hrecord
  -- no workspace has the task as its latest build but its own
  have hown (workspaceId : Bytes) (hlatest : s.latestBuild workspaceId = some number) :
      workspaceId = record.workspaceId := by
    obtain ⟨found, hfound, hfoundId⟩ := hvouching.latest workspaceId number hlatest
    obtain rfl := Option.some.inj (hat.symm.trans hfound)
    rw [hid, hfoundId]
  have hclosed (workspaceId : Bytes) (hmeets : LatestMeets s workspaceId Stage.closed) :
      LatestMeets (s.goTo number record stage) workspaceId Stage.closed := by
    apply hmeets.goTo
    intro hlatest
    obtain ⟨build, found, hbuild, hfound, hends⟩ := hmeets
    obtain rfl := Option.some.inj (hlatest.symm.trans hbuild)
    obtain rfl := Option.some.inj (hat.symm.trans hfound)
    exact absurd (hopen.symm.trans hends) Bool.false_ne_true
  constructor
  · exact hvouching.known
  · intro other found hfound
    rcases tasks_goTo hfound with ⟨_, rfl⟩ | ⟨_, hold⟩
    · have hplace := hvouching.task number task hat
      rw [← hid, ← hrecord] at hplace
      exact hplace
    · exact hvouching.task other found hold
  · intro workspaceId build hlatest
    obtain ⟨found, hfound, hfoundId⟩ := hvouching.latest workspaceId build hlatest
    by_cases hsame : build = number
    · subst hsame
      exact ⟨_, Function.update_self build _ _, (hown workspaceId hlatest).symm⟩
    · exact ⟨found, (Function.update_of_ne hsame _ _).trans hfound, hfoundId⟩
  · intro workspaceId build found hlatest hfound
    rcases tasks_goTo hfound with ⟨rfl, rfl⟩ | ⟨_, hold⟩
    · obtain rfl := hown workspaceId hlatest
      exact hshown hlatest
    · exact hvouching.shown workspaceId build found hlatest hold
  · intro workspaceId kept hkept hok
    apply (hvouching.flag workspaceId kept hkept hok).goTo
    intro hlatest
    obtain rfl := hown workspaceId hlatest
    exact hflag kept hkept hok hlatest
  · intro other found hfound hsaves
    rcases tasks_goTo hfound with ⟨_, rfl⟩ | ⟨_, hold⟩
    · have hmeets := hvouching.saving number task hat (hsaving hsaves)
      rw [← hid] at hmeets
      exact hclosed _ hmeets
    · exact hclosed _ (hvouching.saving other found hold hsaves)
  · intro other kept text hfound
    rcases tasks_goTo hfound with ⟨_, heq⟩ | ⟨_, hold⟩
    · obtain ⟨rfl, rfl⟩ := Task.mk.inj heq
      exact hsaved text rfl
    · exact hvouching.saved other kept text hold

variable {workspaceId : Bytes}

/-- A section changes the flags of a workspace. -/
theorem modify (change : WorkspaceRecord → WorkspaceRecord)
    (hvouching : Vouching site s)
    (hchange : ∀ record, (change record).toWorkspacePlace = record.toWorkspacePlace)
    (hflag : ∀ record, s.workspaces workspaceId = some record →
      (change record).buildOk = true →
      record.buildOk = true ∨ LatestMeets s workspaceId fun stage => stage.early || stage.closed) :
    Vouching site (s.modify workspaceId change) := by
  have hplaces := Orchestrator.places_modify change hchange workspaceId s
  constructor
  · rw [hplaces]
    exact hvouching.known
  · rw [hplaces]
    exact hvouching.task
  · exact hvouching.latest
  · exact hvouching.shown
  · intro other record hrecord hok
    by_cases hsame : other = workspaceId
    · subst hsame
      have hself : (s.modify other change).workspaces other = (s.workspaces other).map change :=
        Function.update_self other _ _
      obtain ⟨old, hold, rfl⟩ := Option.map_eq_some_iff.mp (hself.symm.trans hrecord)
      rcases hflag old hold hok with hwas | hmeets
      · exact hvouching.flag other old hold hwas
      · exact hmeets
    · have hold := (Function.update_of_ne hsame _ _).symm.trans hrecord
      exact hvouching.flag other record hold hok
  · exact hvouching.saving
  · exact hvouching.saved

/-- A workspace file is written while its latest build has not compiled, or has failed. -/
theorem writeInput {project path : Bytes} (text : Bytes) (hvouching : Vouching site s)
    (hpath : path = (placeOf site project).inputPath)
    (hfree : ∀ number task, s.tasks number = some task →
      task.record.workspaceId = workspaceIdOf project →
      task.stage.saving = false ∧ (s.latestBuild (workspaceIdOf project) = some number →
        (task.stage.beforeCompile || task.stage.afterFailure) = true)) :
    Vouching site (s.writeInput path text) := by
  -- a task whose file this is belongs to the workspace
  have hsame (number : Nat) (task : Task) (htask : s.tasks number = some task)
      (hinput : task.record.inputPath = path) :
      task.record.workspaceId = workspaceIdOf project := by
    obtain ⟨hplace, _⟩ := hvouching.known _ _ (hvouching.task number task htask)
    have hinputs : (placeOf site task.record.project).inputPath = (placeOf site project).inputPath :=
      (congrArg WorkspacePlace.inputPath hplace).symm.trans (hinput.trans hpath)
    have htells := inputPath_tells hinputs
    rw [← hplace] at htells
    exact htells
  have hother {input : Bytes} (hne : input ≠ path) :
      (s.writeInput path text).inputs input = s.inputs input :=
    Function.update_of_ne hne _ _
  constructor
  · exact hvouching.known
  · exact hvouching.task
  · exact hvouching.latest
  · intro workspaceId build task hlatest htask
    have hshown := hvouching.shown workspaceId build task hlatest htask
    by_cases hinput : task.record.inputPath = path
    · have hid := hsame build task htask hinput
      obtain ⟨found, hfound, hfoundId⟩ := hvouching.latest workspaceId build hlatest
      obtain rfl := Option.some.inj (htask.symm.trans hfound)
      rw [← hfoundId, hid] at hlatest
      have hstage := (hfree build task htask hid).2 hlatest
      unfold Shown
      cases hcase : task.stage with
      | ended ending =>
          rw [hcase] at hstage
          cases ending with
          | failed => trivial
          | _ => cases hstage
      | writeTestList _ => rw [hcase] at hstage; cases hstage
      | startValidation _ => rw [hcase] at hstage; cases hstage
      | finish _ => rw [hcase] at hstage; cases hstage
      | _ => trivial
    · unfold Shown at hshown ⊢
      rw [hother hinput]
      exact hshown
  · exact hvouching.flag
  · exact hvouching.saving
  · intro number record saved htask
    by_cases hinput : record.inputPath = path
    · have hid := hsame number _ htask hinput
      have hnot := (hfree number _ htask hid).1
      cases hnot
    · rw [hother hinput]
      exact hvouching.saved number record saved htask

theorem noteCompiled {pipelineIds : List Bytes} (text : Bytes) (hvouching : Vouching site s)
    (hat : s.tasks number = some { record, stage := .compile pipelineIds }) :
    Vouching site (s.noteCompiled number text) := by
  constructor
  · exact hvouching.known
  · exact hvouching.task
  · exact hvouching.latest
  · intro workspaceId build task hlatest htask
    have hshown := hvouching.shown workspaceId build task hlatest htask
    by_cases hsame : build = number
    · subst hsame
      obtain rfl := Option.some.inj (hat.symm.trans htask)
      trivial
    · have hkept : (s.noteCompiled number text).compiled build = s.compiled build :=
        Function.update_of_ne hsame _ _
      unfold Shown at hshown ⊢
      rw [hkept]
      exact hshown
  · exact hvouching.flag
  · exact hvouching.saving
  · exact hvouching.saved

theorem noteValidated (number : Nat) (hvouching : Vouching site s) :
    Vouching site (s.noteValidated number) := by
  have hmore {build : Nat} (hvalid : s.validated build = true) :
      (s.noteValidated number).validated build = true := by
    by_cases hsame : build = number
    · subst hsame
      exact Function.update_self build _ _
    · exact (Function.update_of_ne hsame _ _).trans hvalid
  constructor
  · exact hvouching.known
  · exact hvouching.task
  · exact hvouching.latest
  · intro workspaceId build task hlatest htask
    have hshown := hvouching.shown workspaceId build task hlatest htask
    unfold Shown at hshown ⊢
    cases hcase : task.stage with
    | finish pipelineIds =>
        rw [hcase] at hshown
        exact ⟨hshown.1, hmore hshown.2⟩
    | ended ending =>
        rw [hcase] at hshown
        cases ending with
        | loaded => exact ⟨hshown.1, hmore hshown.2⟩
        | _ => exact hshown
    | _ =>
        rw [hcase] at hshown
        exact hshown
  · exact hvouching.flag
  · exact hvouching.saving
  · exact hvouching.saved

theorem writeSource (path text : Bytes) (hvouching : Vouching site s) :
    Vouching site (s.writeSource path text) :=
  ⟨hvouching.known, hvouching.task, hvouching.latest, hvouching.shown, hvouching.flag,
    hvouching.saving, hvouching.saved⟩

/-! ## The steps of a task -/

/-- A task goes on where its stage shows nothing and asks nothing. -/
theorem goOn (hvouching : Vouching site s)
    (hat : s.tasks number = some task) (hopen : task.stage.closed = false)
    (hshown : s.latestBuild task.record.workspaceId = some number →
      Shown s number { record := task.record, stage })
    (hflag : (task.stage.early || task.stage.closed) = true → (stage.early || stage.closed) = true)
    (hsaving : stage.saving = false) :
    Vouching site (s.goTo number task.record stage) := by
  apply hvouching.goTo hat rfl hopen hshown
  · intro kept hkept hok hlatest
    apply hflag
    obtain ⟨build, found, hbuild, hfound, hmeets⟩ := hvouching.flag _ kept hkept hok
    obtain rfl := Option.some.inj (hlatest.symm.trans hbuild)
    obtain rfl := Option.some.inj (hat.symm.trans hfound)
    exact hmeets
  · intro hsaves
    exact absurd (hsaving.symm.trans hsaves) Bool.false_ne_true
  · rintro text rfl
    cases hsaving

/-- A section of a build takes the flag down, and the build goes on. -/
theorem takeDown (change : WorkspaceRecord → WorkspaceRecord) (hvouching : Vouching site s)
    (hchange : ∀ record, (change record).toWorkspacePlace = record.toWorkspacePlace)
    (hdown : ∀ record, (change record).buildOk = false) (hat : s.tasks number = some task)
    (hopen : task.stage.closed = false) (hshown : ∀ record, Shown s number { record, stage })
    (hsaving : stage.saving = false) :
    Vouching site ((s.modify task.record.workspaceId change).goTo number
      ((s.modify task.record.workspaceId change).reread task.record) stage) := by
  have hmodified : Vouching site (s.modify task.record.workspaceId change) :=
    hvouching.modify change hchange fun record _ hok =>
      absurd ((hdown record).symm.trans hok) Bool.false_ne_true
  have hplace := Orchestrator.places_reread (hmodified.task number task hat)
  have hid : ((s.modify task.record.workspaceId change).reread task.record).workspaceId =
      task.record.workspaceId :=
    congrArg WorkspacePlace.workspaceId hplace
  apply hmodified.goTo hat hplace hopen fun _ => hshown _
  · intro kept hkept hok
    rw [hid] at hkept
    have hself : (s.modify task.record.workspaceId change).workspaces task.record.workspaceId =
        (s.workspaces task.record.workspaceId).map change :=
      Function.update_self _ _ _
    obtain ⟨old, _, rfl⟩ := Option.map_eq_some_iff.mp (hself.symm.trans hkept)
    exact absurd ((hdown old).symm.trans hok) Bool.false_ne_true
  · intro hsaves
    exact absurd (hsaving.symm.trans hsaves) Bool.false_ne_true
  · rintro text rfl
    cases hsaving

/-- The last section of a build. -/
theorem finishBuild {pipelineIds : List Bytes}
    (hvouching : Vouching site s)
    (hat : s.tasks number = some { record, stage := .finish pipelineIds })
    (htimely : pipelineIds ≠ [] → s.latestBuild record.workspaceId ≠ some number →
      LatestMeets s record.workspaceId fun stage => stage.early || stage.closed) :
    Vouching site ((s.goTo number record (.ended .loaded)).modify record.workspaceId
      (WorkspaceRecord.finish pipelineIds)) := by
  have hmoved : Vouching site (s.goTo number record (.ended .loaded)) := by
    apply hvouching.goTo hat rfl rfl
    · intro hlatest
      have hshown := hvouching.shown _ number _ hlatest hat
      exact hshown
    · intro kept hkept hok hlatest
      rfl
    · intro hsaves
      cases hsaves
    · intro text htext
      cases htext
  refine hmoved.modify (WorkspaceRecord.finish pipelineIds) (fun _ => rfl) fun kept hkept hok => ?_
  right
  have hne : pipelineIds ≠ [] := by
    rintro rfl
    cases hok
  by_cases hlatest : s.latestBuild record.workspaceId = some number
  · exact ⟨number, _, hlatest, Function.update_self number _ _, rfl⟩
  · exact (htimely hne hlatest).goTo fun hnew => absurd hnew hlatest

/-- While the last build has not compiled, no task of the workspace has shown anything of its
file. -/
theorem free_to_write (hvouching : Vouching site s)
    (htimely : LatestMeets s workspaceId fun stage => stage.beforeCompile || stage.afterFailure) :
    ∀ number task, s.tasks number = some task → task.record.workspaceId = workspaceId →
      task.stage.saving = false ∧ (s.latestBuild workspaceId = some number →
        (task.stage.beforeCompile || task.stage.afterFailure) = true) := by
  intro other found hfound hfoundId
  constructor
  · by_contra hsaves
    have hclosed := hvouching.saving other found hfound (by simpa using hsaves)
    rw [hfoundId] at hclosed
    obtain ⟨stage, hbefore, hends⟩ := LatestMeets.both htimely hclosed
    cases stage with
    | ended ending => cases ending <;> simp [Stage.beforeCompile, Stage.early,
        Stage.afterFailure, Stage.closed] at hbefore hends
    | _ => cases hends
  · intro hlatest
    obtain ⟨build, task, hbuild, htask, hmeets⟩ := htimely
    obtain rfl := Option.some.inj (hlatest.symm.trans hbuild)
    obtain rfl := Option.some.inj (hfound.symm.trans htask)
    exact hmeets

theorem advance (regenerate : Bytes → Bytes → Bytes → Option (Bytes × List Bytes))
    (outcome : Outcome) (hvouching : Vouching site s) (hat : s.tasks number = some task)
    (htimely : Timely s (.advance number outcome)) :
    Vouching site (s.advance regenerate number task.record outcome task.stage) := by
  obtain ⟨record, stage⟩ := task
  unfold Timely at htimely
  dsimp only at htimely
  rw [hat] at htimely
  cases stage with
  | readInput request =>
      unfold Orchestrator.advance
      dsimp only
      split
      · next hempty => exact hvouching.goOn hat rfl (fun _ => hempty) (fun _ => rfl) rfl
      · exact hvouching.goOn hat rfl (fun _ => trivial) (fun _ => rfl) rfl
  | readSource request allJson => exact hvouching.goOn hat rfl (fun _ => trivial) (fun _ => rfl) rfl
  | stopValidation request allJson sourceJson =>
      exact hvouching.goOn hat rfl (fun _ => trivial) (fun _ => rfl) rfl
  | reset request allJson sourceJson =>
      unfold Orchestrator.advance
      dsimp only
      split
      · exact hvouching.takeDown WorkspaceRecord.reset (fun _ => rfl) (fun _ => rfl) hat rfl
          (fun _ => trivial) rfl
      · exact hvouching.takeDown WorkspaceRecord.reset (fun _ => rfl) (fun _ => rfl) hat rfl
          (fun _ => trivial) rfl
  | writeInput allJsonNext pipelineIds =>
      obtain ⟨hplace, _⟩ := hvouching.known _ _ (hvouching.task number _ hat)
      have hid : record.workspaceId = workspaceIdOf record.project :=
        congrArg WorkspacePlace.workspaceId hplace
      have hwritten : Vouching site (s.writeInput record.inputPath (outcome.text allJsonNext)) := by
        apply hvouching.writeInput (outcome.text allJsonNext)
          (congrArg WorkspacePlace.inputPath hplace)
        rw [← hid]
        exact hvouching.free_to_write htimely
      unfold Orchestrator.advance
      dsimp only
      split
      · exact hwritten.goOn hat rfl (fun _ => trivial) (fun hearly => hearly) rfl
      · exact hwritten.goOn hat rfl (fun _ => trivial) (fun hearly => hearly) rfl
  | revise pipelineIds =>
      exact hvouching.takeDown WorkspaceRecord.revise (fun _ => rfl) (fun _ => rfl) hat rfl
        (fun _ => trivial) rfl
  | compile pipelineIds =>
      unfold Orchestrator.advance
      dsimp only
      split
      · have hnoted := hvouching.noteCompiled (s.inputs record.inputPath) hat
        exact hnoted.goOn hat rfl (fun _ => Function.update_self number _ _) (fun hearly => hearly) rfl
      · exact hvouching.goOn hat rfl (fun _ => trivial) (fun hearly => hearly) rfl
  | writeTestList pipelineIds =>
      unfold Orchestrator.advance
      dsimp only
      split
      · refine hvouching.goOn hat rfl (fun hlatest => ?_) (fun hearly => hearly) rfl
        have hshown := hvouching.shown _ number _ hlatest hat
        exact hshown
      · exact hvouching.goOn hat rfl (fun _ => trivial) (fun hearly => nomatch hearly) rfl
  | startValidation pipelineIds =>
      unfold Orchestrator.advance
      dsimp only
      split
      · refine (hvouching.noteValidated number).goOn hat rfl (fun hlatest => ?_)
          (fun hearly => hearly) rfl
        have hshown := hvouching.shown _ number _ hlatest hat
        exact ⟨hshown, Function.update_self number _ _⟩
      · exact hvouching.goOn hat rfl (fun _ => trivial) (fun hearly => hearly) rfl
  | stopFailed => exact hvouching.goOn hat rfl (fun _ => trivial) (fun hearly => hearly) rfl
  | finish pipelineIds =>
      apply hvouching.finishBuild hat
      intro hne hother
      cases pipelineIds with
      | nil => exact absurd rfl hne
      | cons first rest => exact htimely hother
  | unloadStop =>
      unfold Orchestrator.advance
      dsimp only
      split
      · exact hvouching.goOn hat rfl (fun _ => trivial) (fun hearly => hearly) rfl
      · exact hvouching.goOn hat rfl (fun _ => trivial) (fun hearly => hearly) rfl
  | unloadClear =>
      have hmoved : Vouching site (s.goTo number record (.ended .unloaded)) :=
        hvouching.goOn hat rfl (fun _ => trivial) (fun hearly => hearly) rfl
      exact hmoved.modify WorkspaceRecord.unload (fun _ => rfl) fun _ _ hok => .inl hok
  | saveRead =>
      unfold Orchestrator.advance
      dsimp only
      split
      · exact hvouching.goOn hat rfl (fun _ => trivial) (fun hearly => hearly) rfl
      · next hne =>
          apply hvouching.goTo hat rfl rfl
          · intro _
            trivial
          · intro kept hkept hok hlatest
            obtain ⟨build, found, hbuild, hfound, hmeets⟩ := hvouching.flag _ kept hkept hok
            obtain rfl := Option.some.inj (hlatest.symm.trans hbuild)
            obtain rfl := Option.some.inj (hat.symm.trans hfound)
            cases hmeets
          · intro _
            rfl
          · intro text htext
            obtain rfl := Stage.saveWrite.inj htext
            exact ⟨rfl, hne⟩
  | saveWrite text =>
      have hwritten := hvouching.writeSource record.sourcePath (outcome.text text)
      unfold Orchestrator.advance
      dsimp only
      split
      · exact hwritten.goOn hat rfl (fun _ => trivial) (fun hearly => hearly) rfl
      · exact hwritten.goOn hat rfl (fun _ => trivial) (fun hearly => hearly) rfl
  | ended ending => exact hvouching

/-! ## The first section of a request -/

theorem noteOpened (project : Bytes) (record : WorkspaceRecord) (hvouching : Vouching site s) :
    Vouching site (s.noteOpened project record) :=
  ⟨hvouching.known, hvouching.task, hvouching.latest, hvouching.shown, hvouching.flag,
    hvouching.saving, hvouching.saved⟩

theorem insert {project : Bytes} (hvouching : Vouching site s)
    (hnew : s.workspaces (workspaceIdOf project) = none) :
    Vouching site (s.insert { toWorkspacePlace := placeOf site project }) := by
  have hplaces (workspaceId : Bytes) (hne : workspaceId ≠ workspaceIdOf project) :
      (s.insert { toWorkspacePlace := placeOf site project }).places workspaceId =
        s.places workspaceId := by
    have hother : workspaceId ≠ (placeOf site project).workspaceId := hne
    unfold Orchestrator.places Orchestrator.insert
    dsimp only
    rw [Function.update_of_ne hother]
  have hself : (s.insert { toWorkspacePlace := placeOf site project }).workspaces
      (workspaceIdOf project) = some { toWorkspacePlace := placeOf site project } :=
    Function.update_self _ _ _
  constructor
  · intro workspaceId place hplace
    by_cases hsame : workspaceId = workspaceIdOf project
    · subst hsame
      unfold Orchestrator.places at hplace
      rw [hself] at hplace
      obtain rfl := Option.some.inj hplace
      exact ⟨rfl, rfl⟩
    · rw [hplaces workspaceId hsame] at hplace
      exact hvouching.known workspaceId place hplace
  · intro number task htask
    have hold := hvouching.task number task htask
    rw [hplaces]
    · exact hold
    · intro hsame
      unfold Orchestrator.places at hold
      rw [hsame, hnew] at hold
      cases hold
  · exact hvouching.latest
  · exact hvouching.shown
  · intro workspaceId record hrecord hok
    by_cases hsame : workspaceId = workspaceIdOf project
    · subst hsame
      obtain rfl := Option.some.inj (hself.symm.trans hrecord)
      cases hok
    · have hold := (Function.update_of_ne hsame _ _).symm.trans hrecord
      exact hvouching.flag workspaceId record hold hok
  · exact hvouching.saving
  · exact hvouching.saved

theorem openProjectLocked (project : Bytes) (disk : Option Outcome)
    (hvouching : Vouching site s) : Vouching site (s.openProjectLocked site project disk).2 := by
  rcases s.openProjectLocked_cases site project disk with
    ⟨existing, _, heq⟩ | ⟨_, _, heq⟩ | ⟨record, text, hnone, rfl, heq⟩
  · rw [heq]
    exact hvouching.noteOpened project existing
  · rw [heq]
    exact hvouching
  · rw [heq]
    apply noteOpened
    apply insert
    · apply hvouching.writeInput text rfl
      -- a workspace that is not kept has no tasks
      intro number task htask hid
      have hplace := hvouching.task number task htask
      unfold Orchestrator.places at hplace
      rw [hid, hnone] at hplace
      cases hplace
    · exact hnone

theorem lookUp (request : BuildRequest) (disk : Option Outcome) (hvouching : Vouching site s) :
    Vouching site (s.lookUp site request disk).2 := by
  unfold Orchestrator.lookUp
  split
  · exact hvouching.openProjectLocked request.project disk
  · exact hvouching

/-- A task begins. -/
theorem begin (hvouching : Vouching site s) (hfree : s.tasks number = none)
    (hrecord : s.workspaces record.workspaceId = some record)
    (hsaving : stage.saving = true → LatestMeets s record.workspaceId Stage.closed)
    (hsaved : ∀ text, stage ≠ .saveWrite text) : Vouching site (s.goTo number record stage) := by
  have hother {workspaceId : Bytes} {build : Nat}
      (hlatest : s.latestBuild workspaceId = some build) : build ≠ number := by
    rintro rfl
    obtain ⟨task, htask, _⟩ := hvouching.latest workspaceId build hlatest
    rw [hfree] at htask
    cases htask
  have hmeets {workspaceId : Bytes} {meets : Stage → Bool}
      (hold : LatestMeets s workspaceId meets) :
      LatestMeets (s.goTo number record stage) workspaceId meets :=
    hold.goTo fun hlatest => absurd rfl (hother hlatest)
  constructor
  · exact hvouching.known
  · intro other found hfound
    rcases tasks_goTo hfound with ⟨_, rfl⟩ | ⟨_, hold⟩
    · have hplace : s.places record.workspaceId = some record.toWorkspacePlace := by
        unfold Orchestrator.places
        rw [hrecord]
        rfl
      exact hplace
    · exact hvouching.task other found hold
  · intro workspaceId build hlatest
    obtain ⟨found, hfound, hid⟩ := hvouching.latest workspaceId build hlatest
    exact ⟨found, (Function.update_of_ne (hother hlatest) _ _).trans hfound, hid⟩
  · intro workspaceId build found hlatest hfound
    rcases tasks_goTo hfound with ⟨rfl, _⟩ | ⟨_, hold⟩
    · exact absurd rfl (hother hlatest)
    · exact hvouching.shown workspaceId build found hlatest hold
  · intro workspaceId kept hkept hok
    exact hmeets (hvouching.flag workspaceId kept hkept hok)
  · intro other found hfound hsaves
    rcases tasks_goTo hfound with ⟨_, rfl⟩ | ⟨_, hold⟩
    · exact hmeets (hsaving hsaves)
    · exact hmeets (hvouching.saving other found hold hsaves)
  · intro other kept text hfound
    rcases tasks_goTo hfound with ⟨_, heq⟩ | ⟨_, hold⟩
    · exact absurd (Task.mk.inj heq).2.symm (hsaved text)
    · exact hvouching.saved other kept text hold

/-- A task that has begun early becomes the latest build of its workspace. -/
theorem noteStarted (hvouching : Vouching site s)
    (hat : s.tasks number = some task) (hearly : task.stage.early = true)
    (hquiet : ∀ other found, s.tasks other = some found → found.stage.saving = true →
      found.record.workspaceId ≠ task.record.workspaceId) :
    Vouching site (s.noteStarted number task.record.workspaceId) := by
  have hmeets {workspaceId : Bytes} {meets : Stage → Bool}
      (hne : workspaceId ≠ task.record.workspaceId) (hold : LatestMeets s workspaceId meets) :
      LatestMeets (s.noteStarted number task.record.workspaceId) workspaceId meets := by
    obtain ⟨build, found, hbuild, hfound, hends⟩ := hold
    exact ⟨build, found, (Function.update_of_ne hne _ _).trans hbuild, hfound, hends⟩
  have hself : (s.noteStarted number task.record.workspaceId).latestBuild task.record.workspaceId =
      some number :=
    Function.update_self _ _ _
  have hshows : Shown s number task := by
    unfold Shown
    cases hcase : task.stage with
    | ended ending => rw [hcase] at hearly; cases hearly
    | writeTestList _ => rw [hcase] at hearly; cases hearly
    | startValidation _ => rw [hcase] at hearly; cases hearly
    | finish _ => rw [hcase] at hearly; cases hearly
    | _ => trivial
  constructor
  · exact hvouching.known
  · exact hvouching.task
  · intro workspaceId build hlatest
    by_cases hsame : workspaceId = task.record.workspaceId
    · subst hsame
      obtain rfl := Option.some.inj (hself.symm.trans hlatest)
      exact ⟨task, hat, rfl⟩
    · exact hvouching.latest workspaceId build
        ((Function.update_of_ne hsame _ _).symm.trans hlatest)
  · intro workspaceId build found hlatest hfound
    by_cases hsame : workspaceId = task.record.workspaceId
    · subst hsame
      obtain rfl := Option.some.inj (hself.symm.trans hlatest)
      obtain rfl := Option.some.inj (hat.symm.trans hfound)
      exact hshows
    · exact hvouching.shown workspaceId build found
        ((Function.update_of_ne hsame _ _).symm.trans hlatest) hfound
  · intro workspaceId kept hkept hok
    by_cases hsame : workspaceId = task.record.workspaceId
    · subst hsame
      exact ⟨number, task, hself, hat, Bool.or_eq_true_iff.mpr (.inl hearly)⟩
    · exact hmeets hsame (hvouching.flag workspaceId kept hkept hok)
  · intro other found hfound hsaves
    exact hmeets (hquiet other found hfound hsaves) (hvouching.saving other found hfound hsaves)
  · exact hvouching.saved

theorem workspaceId_eq (hvouching : Vouching site s)
    (hrecord : s.workspaces workspaceId = some record) : record.workspaceId = workspaceId := by
  have hplace : s.places workspaceId = some record.toWorkspacePlace := by
    unfold Orchestrator.places
    rw [hrecord]
    rfl
  exact (hvouching.known _ _ hplace).2

/-- A record that is found is that of the workspace the request names. -/
theorem lookUp_found {request : BuildRequest} {disk : Option Outcome} {record : WorkspaceRecord}
    (hvouching : Vouching site s) (hfound : (s.lookUp site request disk).1 = some record) :
    (s.lookUp site request disk).2.workspaces record.workspaceId = some record ∧
      record.workspaceId = request.target ∧ (s.lookUp site request disk).2.tasks = s.tasks := by
  have hlooked := hvouching.lookUp request disk
  unfold Orchestrator.lookUp at hfound hlooked ⊢
  unfold BuildRequest.target
  by_cases hempty : request.workspaceId = []
  · rw [if_pos hempty] at hfound hlooked ⊢
    rw [if_pos hempty]
    obtain ⟨opened, hopened, hrecord⟩ := Option.bind_eq_some_iff.mp hfound
    have hid := hlooked.workspaceId_eq hrecord
    dsimp only at hlooked ⊢
    rw [hid]
    refine ⟨hrecord, ?_⟩
    rcases s.openProjectLocked_cases site request.project disk with
      ⟨existing, hexisting, heq⟩ | ⟨_, _, heq⟩ | ⟨made, text, _, rfl, heq⟩
    · rw [heq] at hopened ⊢
      obtain rfl := Option.some.inj hopened
      exact ⟨hvouching.workspaceId_eq hexisting, rfl⟩
    · rw [heq] at hopened
      cases hopened
    · rw [heq] at hopened ⊢
      obtain rfl := Option.some.inj hopened
      exact ⟨rfl, rfl⟩
  · rw [if_neg hempty] at hfound ⊢
    rw [if_neg hempty]
    have hid := hvouching.workspaceId_eq hfound
    rw [hid]
    exact ⟨hfound, rfl, rfl⟩

theorem step {regenerate : Bytes → Bytes → Bytes → Option (Bytes × List Bytes)} {event : Event}
    (htimely : Timely s event) (hvouching : Vouching site s) :
    Vouching site (s.step site regenerate event) := by
  cases event with
  | openProjectByName project disk => exact hvouching.openProjectLocked project disk
  | buildPipeline number request disk =>
      have hlooked := hvouching.lookUp request disk
      have hfound (record : WorkspaceRecord) :=
        @lookUp_found site s request disk record hvouching
      unfold Orchestrator.step
      dsimp only
      split
      · next hfree =>
          generalize s.lookUp site request disk = found at hlooked hfound
          obtain ⟨record | record, s'⟩ := found
          · exact hlooked
          · obtain ⟨hrecord, htarget, htasks⟩ := hfound record rfl
            dsimp only at hrecord htasks hlooked ⊢
            have hfree' : s'.tasks number = none := by
              rw [htasks]
              exact hfree
            have hbegun : Vouching site (s'.goTo number record (.readInput request.body)) := by
              apply hlooked.begin hfree' hrecord
              · intro hsaves
                cases hsaves
              · intro text htext
                cases htext
            refine hbegun.noteStarted (Function.update_self number _ _) rfl ?_
            intro other task htask hsaves
            rcases tasks_goTo htask with ⟨_, rfl⟩ | ⟨_, hold⟩
            · cases hsaves
            · rw [htasks] at hold
              have hquiet := htimely other task hold hsaves
              dsimp only
              rw [htarget]
              exact hquiet
      · exact hvouching
  | unloadPipeline number request disk =>
      have hlooked := hvouching.lookUp request disk
      have hfound (record : WorkspaceRecord) :=
        @lookUp_found site s request disk record hvouching
      unfold Orchestrator.step
      dsimp only
      split
      · next hfree =>
          generalize s.lookUp site request disk = found at hlooked hfound
          obtain ⟨record | record, s'⟩ := found
          · exact hlooked
          · obtain ⟨hrecord, _, htasks⟩ := hfound record rfl
            dsimp only at hrecord htasks hlooked ⊢
            have hfree' : s'.tasks number = none := by
              rw [htasks]
              exact hfree
            apply hlooked.begin hfree' hrecord
            · intro hsaves
              cases hsaves
            · intro text htext
              cases htext
      · exact hvouching
  | saveProject number workspaceId =>
      unfold Orchestrator.step
      dsimp only
      split
      · exact hvouching
      · next record hrecord =>
          split
          · next hready =>
              obtain ⟨hfree, hok⟩ := hready
              have hid := hvouching.workspaceId_eq hrecord
              have hlate := htimely ⟨record, hrecord, hok⟩
              apply hvouching.begin hfree
              · rw [hid]
                exact hrecord
              · intro _
                rw [hid]
                obtain ⟨build, task, hbuild, htask, hmeets⟩ :=
                  hvouching.flag workspaceId record hrecord hok
                refine ⟨build, task, hbuild, htask, ?_⟩
                rcases Bool.or_eq_true_iff.mp hmeets with hearly | hclosed
                · exact absurd ⟨build, task, hbuild, htask, hearly⟩ hlate
                · exact hclosed
              · intro text htext
                cases htext
          · exact hvouching
  | advance number outcome =>
      unfold Orchestrator.step
      dsimp only
      split
      · exact hvouching
      · next record stage hat => exact hvouching.advance regenerate outcome hat htimely

end Vouching

theorem vouching_initial (sources : Bytes → Bytes) :
    Vouching site (Orchestrator.initial sources) := by
  constructor
  · intro workspaceId place hplace
    cases hplace
  · intro number task htask
    cases htask
  · intro workspaceId build hlatest
    cases hlatest
  · intro workspaceId build task hlatest
    cases hlatest
  · intro workspaceId record hrecord
    cases hrecord
  · intro number task htask
    cases htask
  · intro number record text htask
    cases htask

/-- A text that is about to be saved is one that the latest build compiled and validated. -/
theorem Vouching.saved_validated {text : Bytes} (hvouching : Vouching site s)
    (hat : s.tasks number = some { record, stage := .saveWrite text }) :
    text = s.inputs record.inputPath ∧
      ∃ build, s.latestBuild record.workspaceId = some build ∧
        s.compiled build = some text ∧ s.validated build = true := by
  obtain ⟨htext, hne⟩ := hvouching.saved number record text hat
  obtain ⟨build, task, hbuild, htask, hclosed⟩ := hvouching.saving number _ hat rfl
  have hshown := hvouching.shown _ build task hbuild htask
  -- the build works on the same file
  have hplace := hvouching.task number _ hat
  have hplace' := hvouching.task build task htask
  obtain ⟨found, hfound, hid⟩ := hvouching.latest _ build hbuild
  obtain rfl := Option.some.inj (htask.symm.trans hfound)
  rw [hid, hplace] at hplace'
  have hinput : record.inputPath = task.record.inputPath :=
    congrArg WorkspacePlace.inputPath (Option.some.inj hplace')
  refine ⟨htext, build, hbuild, ?_⟩
  unfold Shown at hshown
  cases hcase : task.stage with
  | ended ending =>
      rw [hcase] at hshown hclosed
      cases ending with
      | loaded =>
          rw [htext, hinput]
          exact hshown
      | missing =>
          dsimp only at hshown
          rw [← hinput, ← htext] at hshown
          exact absurd hshown hne
      | _ => cases hclosed
  | _ =>
      rw [hcase] at hclosed
      cases hclosed

end Steps

/-! ## Runs -/

/-- In a timely run, a save that is about to write the source holds the text of the
workspace file, which the most recently started build compiled and validated. -/
theorem only_validated_text_is_saved (site : Site)
    (regenerate : Bytes → Bytes → Bytes → Option (Bytes × List Bytes))
    (sources : Bytes → Bytes) (events : List Event)
    (htimely : Orchestrator.Throughout site regenerate Timely
      (Orchestrator.initial sources) events)
    (number : Nat) (record : WorkspaceRecord) (text : Bytes)
    (hat : ((Orchestrator.initial sources).run site regenerate events).tasks number =
      some { record, stage := .saveWrite text }) :
    text = ((Orchestrator.initial sources).run site regenerate events).inputs record.inputPath ∧
      ∃ build, ((Orchestrator.initial sources).run site regenerate events).latestBuild
          record.workspaceId = some build ∧
        ((Orchestrator.initial sources).run site regenerate events).compiled build = some text ∧
        ((Orchestrator.initial sources).run site regenerate events).validated build = true := by
  have hvouching : Vouching site ((Orchestrator.initial sources).run site regenerate events) :=
    Orchestrator.run_keeps site regenerate (fun _ _ => Vouching.step) htimely
      (vouching_initial sources)
  exact hvouching.saved_validated hat

/-! ## A test -/

/-- A test for events that overtake no build. -/
def plainlyTimely (s : Orchestrator) : Event → Bool
  | .advance number _ =>
      (s.tasks number).all fun task =>
        s.latestBuild task.record.workspaceId = some number ∨ task.stage.saving
  | .saveProject _ workspaceId =>
      (s.latestBuild workspaceId).all fun build =>
        (s.tasks build).all fun task => !task.stage.early
  | .openProjectByName _ _ | .unloadPipeline _ _ _ => true
  | .buildPipeline _ _ _ => false

/-- The steps of the latest build are always timely. -/
theorem timely_of_latest {s : Orchestrator} {number : Nat} {task : Task}
    (hat : s.tasks number = some task)
    (hlatest : s.latestBuild task.record.workspaceId = some number) (outcome : Outcome) :
    Timely s (.advance number outcome) := by
  obtain ⟨record, stage⟩ := task
  unfold Timely
  dsimp only
  rw [hat]
  cases stage with
  | writeInput text pipelineIds => exact ⟨number, _, hlatest, hat, rfl⟩
  | finish pipelineIds =>
      cases pipelineIds with
      | nil => trivial
      | cons first rest => exact fun hother => absurd hlatest hother
  | _ => trivial

theorem timely_of_plainly {s : Orchestrator} {event : Event}
    (hplainly : plainlyTimely s event = true) : Timely s event := by
  cases event with
  | openProjectByName project disk => trivial
  | unloadPipeline number request disk => trivial
  | buildPipeline number request disk => cases hplainly
  | saveProject number workspaceId =>
      rintro - ⟨build, task, hbuild, htask, hearly⟩
      unfold plainlyTimely at hplainly
      dsimp only at hplainly
      rw [hbuild, Option.all_some, htask, Option.all_some, hearly] at hplainly
      cases hplainly
  | advance number outcome =>
      cases hat : s.tasks number with
      | none =>
          unfold Timely
          dsimp only
          rw [hat]
          trivial
      | some task =>
          unfold plainlyTimely at hplainly
          dsimp only at hplainly
          rw [hat, Option.all_some] at hplainly
          rcases of_decide_eq_true hplainly with hlatest | hsaving
          · exact timely_of_latest hat hlatest outcome
          · obtain ⟨record, stage⟩ := task
            unfold Timely
            dsimp only
            rw [hat]
            cases stage with
            | writeInput text pipelineIds => cases hsaving
            | finish pipelineIds => cases hsaving
            | _ => trivial

def allPlainlyTimely (site : Site)
    (regenerate : Bytes → Bytes → Bytes → Option (Bytes × List Bytes)) :
    Orchestrator → List Event → Bool
  | _, [] => true
  | s, event :: rest =>
      plainlyTimely s event && allPlainlyTimely site regenerate (s.step site regenerate event) rest

theorem throughout_of_plainly {site : Site}
    {regenerate : Bytes → Bytes → Bytes → Option (Bytes × List Bytes)} {s : Orchestrator}
    {events : List Event} (hplainly : allPlainlyTimely site regenerate s events = true) :
    Orchestrator.Throughout site regenerate Timely s events := by
  induction events generalizing s with
  | nil => trivial
  | cons event rest ih =>
      obtain ⟨hevent, hrest⟩ := Bool.and_eq_true_iff.mp hplainly
      exact ⟨timely_of_plainly hevent, ih hrest⟩

/-! ## A build, a save and another build -/

def studioSite : Site where
  rootDir := asciiBytes "/studio"
  tempDirectory := asciiBytes "/tmp"

/-- The snapshot is the next workspace file, with one pipeline. -/
def takeSnapshot (_ _ body : Bytes) : Option (Bytes × List Bytes) :=
  some (body, [asciiBytes "main"])

/-- A build of the default project and its first steps. -/
def buildSteps (number : Nat) (body : Bytes) (steps : Nat) : List Event :=
  .buildPipeline number ⟨[], defaultProjectConfigPath, body⟩ (some .succeeds) ::
    List.replicate steps (.advance number .succeeds)

/-- One build, and a save that has read the file. -/
def buildThenSave : List Event :=
  buildSteps 0 (asciiBytes "first") 10 ++
    [.saveProject 1 (workspaceIdOf defaultProjectConfigPath), .advance 1 .succeeds]

/-- The save lets another build write the file. -/
def overtakenSave : List Event :=
  buildSteps 0 (asciiBytes "first") 10 ++
    [.saveProject 1 (workspaceIdOf defaultProjectConfigPath)] ++
    buildSteps 2 (asciiBytes "second") 5 ++ [.advance 1 .succeeds]

/-- The record when the first build has ended. -/
def builtRecord : WorkspaceRecord where
  toWorkspacePlace := placeOf studioSite defaultProjectConfigPath
  buildOk := true
  workspaceRevision := 1
  loadedPipelineIds := [asciiBytes "main"]
  validatedPipelineIds := [asciiBytes "main"]

theorem build_then_save_example :
    asciiBytes "first" = ((Orchestrator.initial fun _ => asciiBytes "source").run studioSite
        takeSnapshot buildThenSave).inputs builtRecord.inputPath ∧
      ∃ build, ((Orchestrator.initial fun _ => asciiBytes "source").run studioSite
          takeSnapshot buildThenSave).latestBuild builtRecord.workspaceId = some build ∧
        ((Orchestrator.initial fun _ => asciiBytes "source").run studioSite
          takeSnapshot buildThenSave).compiled build = some (asciiBytes "first") ∧
        ((Orchestrator.initial fun _ => asciiBytes "source").run studioSite
          takeSnapshot buildThenSave).validated build = true :=
  only_validated_text_is_saved studioSite takeSnapshot (fun _ => asciiBytes "source")
    buildThenSave ⟨fun _ _ htask => (nomatch htask), throughout_of_plainly (by decide +kernel)⟩
    1 builtRecord (asciiBytes "first") (by decide +kernel)

/-- The save writes what the second build has not compiled. -/
theorem overtaken_save_writes_unvalidated : ¬ ∀ (site : Site)
    (regenerate : Bytes → Bytes → Bytes → Option (Bytes × List Bytes))
    (sources : Bytes → Bytes) (events : List Event)
    (number : Nat) (record : WorkspaceRecord) (text : Bytes),
    ((Orchestrator.initial sources).run site regenerate events).tasks number =
      some { record, stage := .saveWrite text } →
    text = ((Orchestrator.initial sources).run site regenerate events).inputs record.inputPath ∧
      ∃ build, ((Orchestrator.initial sources).run site regenerate events).latestBuild
          record.workspaceId = some build ∧
        ((Orchestrator.initial sources).run site regenerate events).compiled build = some text ∧
        ((Orchestrator.initial sources).run site regenerate events).validated build = true := by
  intro hvalidated
  obtain ⟨_, build, hlatest, hcompiled, _⟩ := hvalidated studioSite takeSnapshot
    (fun _ => asciiBytes "source") overtakenSave 1 builtRecord (asciiBytes "second")
    (by decide +kernel)
  have hsecond : ((Orchestrator.initial fun _ => asciiBytes "source").run studioSite takeSnapshot
      overtakenSave).latestBuild builtRecord.workspaceId = some 2 := by
    decide +kernel
  obtain rfl := Option.some.inj (hlatest.symm.trans hsecond)
  have hnone : ((Orchestrator.initial fun _ => asciiBytes "source").run studioSite takeSnapshot
      overtakenSave).compiled 2 = none := by
    decide +kernel
  rw [hnone] at hcompiled
  cases hcompiled

end AudioStudio.Gui
