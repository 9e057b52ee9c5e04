import AudioStudio.Gui.Workspaces
import Mathlib.Logic.Function.Basic

/-!
# The build orchestrator

The requests of `BuildOrchestrator`, each a task that other tasks may overtake: a step is
one section under `mutex_`, one read or write of a file, or one call of the compile client
or of the validation runner.  The files of workspaces and the sources are kept apart.
-/

namespace AudioStudio.Gui

open AudioStudio.LittleEndian

/-- What `simpleJsonStringField` reads of a request, and the request. -/
structure BuildRequest where
  workspaceId : Bytes
  project : Bytes
  body : Bytes

/-- How a call ends; a write that fails leaves some text. -/
inductive Outcome where
  | succeeds
  | fails (left : Bytes)
  deriving DecidableEq, Repr

namespace Outcome

def ok : Outcome → Bool
  | succeeds => true
  | fails _ => false

def text (written : Bytes) : Outcome → Bytes
  | succeeds => written
  | fails left => left

end Outcome

inductive Ending where
  | missing
  | failed
  | loaded
  | unloaded
  | saved
  deriving DecidableEq, Repr

/-- What a task does next; `reset`, `revise`, `finish` and `unloadClear` are the later
sections under the mutex. -/
inductive Stage where
  | readInput (request : Bytes)
  | readSource (request allJson : Bytes)
  | stopValidation (request allJson sourceJson : Bytes)
  | reset (request allJson sourceJson : Bytes)
  | writeInput (allJsonNext : Bytes) (pipelineIds : List Bytes)
  | revise (pipelineIds : List Bytes)
  | compile (pipelineIds : List Bytes)
  | writeTestList (pipelineIds : List Bytes)
  | startValidation (pipelineIds : List Bytes)
  | stopFailed
  | finish (pipelineIds : List Bytes)
  | unloadStop
  | unloadClear
  | saveRead
  | saveWrite (workspaceJson : Bytes)
  | ended (ending : Ending)
  deriving DecidableEq, Repr

/-- A request under way, with its copy of the record. -/
structure Task where
  record : WorkspaceRecord
  stage : Stage
  deriving DecidableEq, Repr

/-- The fields of the orchestrator and the files; the last four fields observe the builds
that have started and the texts they compiled, and the records that were returned. -/
structure Orchestrator where
  workspaces : Bytes → Option WorkspaceRecord
  inputs : Bytes → Bytes
  sources : Bytes → Bytes
  tasks : Nat → Option Task
  latestBuild : Bytes → Option Nat
  compiled : Nat → Option Bytes
  validated : Nat → Bool
  opened : List (Bytes × WorkspaceRecord)

namespace WorkspaceRecord

/-- The section of `buildPipeline` behind the stop of the validation. -/
def reset (record : WorkspaceRecord) : WorkspaceRecord :=
  { record with loadedPipelineIds := [], validatedPipelineIds := [], buildOk := false }

def revise (record : WorkspaceRecord) : WorkspaceRecord :=
  { record with buildOk := false, workspaceRevision := record.workspaceRevision + 1 }

/-- The last section of `buildPipeline`. -/
def finish (pipelineIds : List Bytes) (record : WorkspaceRecord) : WorkspaceRecord :=
  { record with
    validatedPipelineIds := pipelineIds, loadedPipelineIds := pipelineIds
    buildOk := !pipelineIds.isEmpty }

def unload (record : WorkspaceRecord) : WorkspaceRecord :=
  { record with loadedPipelineIds := [], validatedPipelineIds := [] }

end WorkspaceRecord

namespace Orchestrator

def goTo (task : Nat) (record : WorkspaceRecord) (stage : Stage) (s : Orchestrator) :
    Orchestrator :=
  { s with tasks := Function.update s.tasks task (some { record, stage }) }

/-- A section that changes the record of a workspace. -/
def modify (workspaceId : Bytes) (change : WorkspaceRecord → WorkspaceRecord)
    (s : Orchestrator) : Orchestrator :=
  { s with
    workspaces := Function.update s.workspaces workspaceId
      ((s.workspaces workspaceId).map change) }

/-- `record = *found`. -/
def reread (record : WorkspaceRecord) (s : Orchestrator) : WorkspaceRecord :=
  (s.workspaces record.workspaceId).getD record

def writeInput (path text : Bytes) (s : Orchestrator) : Orchestrator :=
  { s with inputs := Function.update s.inputs path text }

def writeSource (path text : Bytes) (s : Orchestrator) : Orchestrator :=
  { s with sources := Function.update s.sources path text }

def noteCompiled (task : Nat) (text : Bytes) (s : Orchestrator) : Orchestrator :=
  { s with compiled := Function.update s.compiled task (some text) }

def noteValidated (task : Nat) (s : Orchestrator) : Orchestrator :=
  { s with validated := Function.update s.validated task true }

def noteStarted (task : Nat) (workspaceId : Bytes) (s : Orchestrator) : Orchestrator :=
  { s with latestBuild := Function.update s.latestBuild workspaceId (some task) }

def noteOpened (project : Bytes) (record : WorkspaceRecord) (s : Orchestrator) : Orchestrator :=
  { s with opened := (project, record) :: s.opened }

def insert (record : WorkspaceRecord) (s : Orchestrator) : Orchestrator :=
  { s with workspaces := Function.update s.workspaces record.workspaceId (some record) }

/-- Nothing is returned when the directories cannot be made. -/
def openProjectLocked (site : Site) (project : Bytes) (disk : Option Outcome)
    (s : Orchestrator) : Option WorkspaceRecord × Orchestrator :=
  let sanitizedProject := sanitizeProjectConfigPath project
  match s.workspaces (workspaceIdOf sanitizedProject) with
  | some existing => (some existing, s.noteOpened project existing)
  | none =>
      match disk with
      | none => (none, s)
      | some outcome =>
          let record : WorkspaceRecord := { toWorkspacePlace := placeOf site sanitizedProject }
          let sourceJson := s.sources record.sourcePath
          (some record,
            ((s.writeInput record.inputPath (outcome.text sourceJson)).insert record).noteOpened
              project record)

/-- The first section of `buildPipeline` and of `unloadPipeline`. -/
def lookUp (site : Site) (request : BuildRequest) (disk : Option Outcome) (s : Orchestrator) :
    Option WorkspaceRecord × Orchestrator :=
  if request.workspaceId = [] then
    let opened := s.openProjectLocked site request.project disk
    (opened.1.bind fun record => opened.2.workspaces record.workspaceId, opened.2)
  else (s.workspaces request.workspaceId, s)

/-- One step of a task. `regenerate` makes of the workspace file, the source and the
request the next workspace file and its pipelines. -/
def advance (regenerate : Bytes → Bytes → Bytes → Option (Bytes × List Bytes))
    (task : Nat) (record : WorkspaceRecord) (outcome : Outcome) (s : Orchestrator) :
    Stage → Orchestrator
  | .readInput request =>
      let allJson := s.inputs record.inputPath
      s.goTo task record (if allJson = [] then .ended .missing else .readSource request allJson)
  | .readSource request allJson =>
      s.goTo task record (.stopValidation request allJson (s.sources record.sourcePath))
  | .stopValidation request allJson sourceJson =>
      s.goTo task record (.reset request allJson sourceJson)
  | .reset request allJson sourceJson =>
      let s := s.modify record.workspaceId WorkspaceRecord.reset
      s.goTo task (s.reread record)
        (match regenerate allJson sourceJson request with
        | none => .ended .failed
        | some (allJsonNext, pipelineIds) => .writeInput allJsonNext pipelineIds)
  | .writeInput allJsonNext pipelineIds =>
      (s.writeInput record.inputPath (outcome.text allJsonNext)).goTo task record
        (if outcome.ok then .revise pipelineIds else .ended .failed)
  | .revise pipelineIds =>
      let s := s.modify record.workspaceId WorkspaceRecord.revise
      s.goTo task (s.reread record) (.compile pipelineIds)
  | .compile pipelineIds =>
      if outcome.ok then
        (s.noteCompiled task (s.inputs record.inputPath)).goTo task record
          (.writeTestList pipelineIds)
      else s.goTo task record (.ended .failed)
  | .writeTestList pipelineIds =>
      s.goTo task record (if outcome.ok then .startValidation pipelineIds else .ended .failed)
  | .startValidation pipelineIds =>
      if outcome.ok then (s.noteValidated task).goTo task record (.finish pipelineIds)
      else s.goTo task record .stopFailed
  | .stopFailed => s.goTo task record (.ended .failed)
  | .finish pipelineIds =>
      (s.goTo task record (.ended .loaded)).modify record.workspaceId
        (WorkspaceRecord.finish pipelineIds)
  | .unloadStop => s.goTo task record (if outcome.ok then .unloadClear else .ended .failed)
  | .unloadClear =>
      (s.goTo task record (.ended .unloaded)).modify record.workspaceId WorkspaceRecord.unload
  | .saveRead =>
      let workspaceJson := s.inputs record.inputPath
      s.goTo task record (if workspaceJson = [] then .ended .failed else .saveWrite workspaceJson)
  | .saveWrite workspaceJson =>
      (s.writeSource record.sourcePath (outcome.text workspaceJson)).goTo task record
        (.ended (if outcome.ok then .saved else .failed))
  | .ended _ => s

end Orchestrator

/-! ## Runs -/

inductive Event where
  | openProjectByName (project : Bytes) (disk : Option Outcome)
  | buildPipeline (task : Nat) (request : BuildRequest) (disk : Option Outcome)
  | unloadPipeline (task : Nat) (request : BuildRequest) (disk : Option Outcome)
  | saveProject (task : Nat) (workspaceId : Bytes)
  | advance (task : Nat) (outcome : Outcome)

section Runs

variable (site : Site) (regenerate : Bytes → Bytes → Bytes → Option (Bytes × List Bytes))

namespace Orchestrator

/-- A request is refused without a task. -/
def step (s : Orchestrator) : Event → Orchestrator
  | .openProjectByName project disk => (s.openProjectLocked site project disk).2
  | .buildPipeline task request disk =>
      if s.tasks task = none then
        match s.lookUp site request disk with
        | (none, s) => s
        | (some record, s) =>
            (s.noteStarted task record.workspaceId).goTo task record (.readInput request.body)
      else s
  | .unloadPipeline task request disk =>
      if s.tasks task = none then
        match s.lookUp site request disk with
        | (none, s) => s
        | (some record, s) => s.goTo task record .unloadStop
      else s
  | .saveProject task workspaceId =>
      match s.workspaces workspaceId with
      | none => s
      | some record =>
          if s.tasks task = none ∧ record.buildOk then s.goTo task record .saveRead else s
  | .advance task outcome =>
      match s.tasks task with
      | none => s
      | some { record, stage } => s.advance regenerate task record outcome stage

/-- The orchestrator before any request. -/
def initial (sources : Bytes → Bytes) : Orchestrator where
  workspaces _ := none
  inputs _ := []
  sources := sources
  tasks _ := none
  latestBuild _ := none
  compiled _ := none
  validated _ := false
  opened := []

def run (s : Orchestrator) (events : List Event) : Orchestrator :=
  events.foldl (step site regenerate) s

/-- Every event meets a condition on the state before it. -/
def Throughout (condition : Orchestrator → Event → Prop) :
    Orchestrator → List Event → Prop
  | _, [] => True
  | s, event :: rest => condition s event ∧ Throughout condition (step site regenerate s event) rest

/-- What every event keeps under a condition holds after the run. -/
theorem run_keeps {condition : Orchestrator → Event → Prop} {P : Orchestrator → Prop}
    (hstep : ∀ s event, condition s event → P s → P (step site regenerate s event))
    {s : Orchestrator} {events : List Event}
    (hthroughout : Throughout site regenerate condition s events) (hs : P s) :
    P (run site regenerate s events) := by
  induction events generalizing s with
  | nil => exact hs
  | cons event rest ih =>
      obtain ⟨hevent, hrest⟩ := hthroughout
      exact ih hrest (hstep s event hevent hs)

end Orchestrator

end Runs

/-! ## What a step leaves in place -/

namespace Orchestrator

/-- Where the files of a workspace lie. -/
def places (s : Orchestrator) (workspaceId : Bytes) : Option WorkspacePlace :=
  (s.workspaces workspaceId).map WorkspaceRecord.toWorkspacePlace

theorem places_modify (change : WorkspaceRecord → WorkspaceRecord)
    (hchange : ∀ record, (change record).toWorkspacePlace = record.toWorkspacePlace)
    (workspaceId : Bytes) (s : Orchestrator) : (s.modify workspaceId change).places = s.places := by
  funext other
  unfold places modify
  dsimp only
  by_cases hother : other = workspaceId
  · rw [hother, Function.update_self, Option.map_map]
    congr 1
    funext record
    exact hchange record
  · rw [Function.update_of_ne hother]

theorem places_reread {record : WorkspaceRecord} {s : Orchestrator}
    (hrecord : s.places record.workspaceId = some record.toWorkspacePlace) :
    (s.reread record).toWorkspacePlace = record.toWorkspacePlace := by
  unfold places at hrecord
  unfold reread
  obtain ⟨found, hfound, hplace⟩ := Option.map_eq_some_iff.mp hrecord
  rw [hfound, Option.getD_some, hplace]

/-- The steps of a task move no workspace. -/
theorem places_advance (regenerate : Bytes → Bytes → Bytes → Option (Bytes × List Bytes))
    (task : Nat) (record : WorkspaceRecord) (outcome : Outcome) (s : Orchestrator)
    (stage : Stage) : (s.advance regenerate task record outcome stage).places = s.places := by
  cases stage with
  | reset request allJson sourceJson =>
      exact places_modify WorkspaceRecord.reset (fun _ => rfl) record.workspaceId s
  | revise pipelineIds =>
      exact places_modify WorkspaceRecord.revise (fun _ => rfl) record.workspaceId s
  | finish pipelineIds =>
      exact places_modify (WorkspaceRecord.finish pipelineIds) (fun _ => rfl) record.workspaceId s
  | unloadClear =>
      exact places_modify WorkspaceRecord.unload (fun _ => rfl) record.workspaceId s
  | compile pipelineIds =>
      unfold advance
      cases outcome.ok with
      | true => rfl
      | false => rfl
  | startValidation pipelineIds =>
      unfold advance
      cases outcome.ok with
      | true => rfl
      | false => rfl
  | _ => rfl

theorem opened_advance (regenerate : Bytes → Bytes → Bytes → Option (Bytes × List Bytes))
    (task : Nat) (record : WorkspaceRecord) (outcome : Outcome) (s : Orchestrator)
    (stage : Stage) : (s.advance regenerate task record outcome stage).opened = s.opened := by
  cases stage with
  | compile pipelineIds =>
      unfold advance
      cases outcome.ok with
      | true => rfl
      | false => rfl
  | startValidation pipelineIds =>
      unfold advance
      cases outcome.ok with
      | true => rfl
      | false => rfl
  | _ => rfl

/-- Opening a project finds a record or makes one. -/
theorem openProjectLocked_cases (site : Site) (project : Bytes) (disk : Option Outcome)
    (s : Orchestrator) :
    (∃ existing, s.workspaces (workspaceIdOf (sanitizeProjectConfigPath project)) = some existing ∧
      s.openProjectLocked site project disk = (some existing, s.noteOpened project existing)) ∨
    (s.workspaces (workspaceIdOf (sanitizeProjectConfigPath project)) = none ∧ disk = none ∧
      s.openProjectLocked site project disk = (none, s)) ∨
    ∃ record text,
      s.workspaces (workspaceIdOf (sanitizeProjectConfigPath project)) = none ∧
      record = { toWorkspacePlace := placeOf site (sanitizeProjectConfigPath project) } ∧
      s.openProjectLocked site project disk =
        (some record, ((s.writeInput record.inputPath text).insert record).noteOpened
          project record) := by
  unfold openProjectLocked
  dsimp only
  cases hfound : s.workspaces (workspaceIdOf (sanitizeProjectConfigPath project)) with
  | some existing => exact .inl ⟨existing, rfl, rfl⟩
  | none =>
      cases disk with
      | none => exact .inr (.inl ⟨rfl, rfl, rfl⟩)
      | some outcome => exact .inr (.inr ⟨_, _, rfl, rfl, rfl⟩)

end Orchestrator

end AudioStudio.Gui
