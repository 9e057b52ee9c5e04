import AudioStudio.Gui.ProjectPath

/-!
# Workspaces

The records of `BuildOrchestrator` and where their files lie.
-/

namespace AudioStudio.Gui

open AudioStudio.LittleEndian
open AudioStudio.Paths

/-- The directories that the orchestrator works in. -/
structure Site where
  rootDir : Bytes
  tempDirectory : Bytes

/-- What a `WorkspaceRecord` keeps for good. -/
structure WorkspacePlace where
  workspaceId : Bytes
  project : Bytes
  projectName : Bytes
  sourcePath : Bytes
  workspaceDir : Bytes
  inputPath : Bytes
  outputDir : Bytes
  deriving DecidableEq, Repr

structure WorkspaceRecord extends WorkspacePlace where
  buildOk : Bool := false
  workspaceRevision : Nat := 0
  loadedPipelineIds : List Bytes := []
  validatedPipelineIds : List Bytes := []
  deriving DecidableEq, Repr

def workspaceIdOf (sanitizedProject : Bytes) : Bytes :=
  asciiBytes "ws_" ++ safeId sanitizedProject

def workspaceDirOf (site : Site) (workspaceId : Bytes) : Bytes :=
  join (join (join site.tempDirectory (asciiBytes "audio-studio-gui-workspaces"))
    (safeId site.rootDir)) workspaceId

/-- The record that `openProjectLocked` fills for a project. -/
def placeOf (site : Site) (sanitizedProject : Bytes) : WorkspacePlace where
  workspaceId := workspaceIdOf sanitizedProject
  project := sanitizedProject
  projectName := projectNameFromProjectPath sanitizedProject
  sourcePath := join site.rootDir (projectConfigRelPath sanitizedProject)
  workspaceDir := workspaceDirOf site (workspaceIdOf sanitizedProject)
  inputPath := join (workspaceDirOf site (workspaceIdOf sanitizedProject))
    (projectNameFromProjectPath sanitizedProject ++ asciiBytes "_pipeline_all.json")
  outputDir := join (workspaceDirOf site (workspaceIdOf sanitizedProject)) (asciiBytes "build")

/-- The file of a project. -/
def projectFile (site : Site) (sanitizedProject : Bytes) : Bytes :=
  join site.rootDir (asciiBytes "configs/platform/" ++ sanitizedProject)

/-! ## Identifiers are components -/

theorem slash_notMem_safeId (value : Bytes) : slash ∉ safeId value := by
  have hmapped : slash ∉ value.map fun c => if isAlnum c then c else 0x5f := by
    intro hmem
    obtain ⟨c, _, hc⟩ := List.mem_map.mp hmem
    by_cases halnum : isAlnum c = true
    · rw [if_pos halnum] at hc
      rw [hc] at halnum
      exact absurd halnum (by decide)
    · rw [if_neg halnum] at hc
      exact absurd hc (by decide)
  unfold safeId
  dsimp only
  split
  · decide
  · intro hmem
    have hdropped := (List.dropWhile_suffix _).subset (List.mem_reverse.mp hmem)
    exact hmapped (List.mem_reverse.mp hdropped)

theorem slash_notMem_workspaceId (project : Bytes) : slash ∉ workspaceIdOf project := by
  intro hmem
  rcases List.mem_append.mp hmem with hstart | hid
  · exact absurd hstart (by decide)
  · exact slash_notMem_safeId project hid

theorem workspaceId_ne_nil (project : Bytes) : workspaceIdOf project ≠ [] := by
  intro hempty
  exact absurd (List.append_eq_nil_iff.mp hempty).1 (by decide)

theorem slash_notMem_projectName (project : Bytes) :
    slash ∉ projectNameFromProjectPath project := by
  unfold projectNameFromProjectPath
  split
  · exact slash_notMem_safeId _
  · exact slash_notMem_safeId _

variable {site : Site} {project project' : Bytes}

/-- A name inside a workspace tells the workspace. -/
theorem workspaceId_of_join {name name' : Bytes}
    (hname : slash ∉ name) (hname' : slash ∉ name') (hne : name ≠ []) (hne' : name' ≠ [])
    (hjoin : join (workspaceDirOf site (workspaceIdOf project)) name =
      join (workspaceDirOf site (workspaceIdOf project')) name') :
    workspaceIdOf project = workspaceIdOf project' := by
  have hcomponents := congrArg components hjoin
  unfold workspaceDirOf at hcomponents
  simp only [components_join,
    components_of_no_slash (slash_notMem_workspaceId _) (workspaceId_ne_nil _),
    components_of_no_slash hname hne, components_of_no_slash hname' hne',
    List.append_assoc, List.append_cancel_left_eq] at hcomponents
  exact (List.cons.inj hcomponents).1

theorem inputPath_tells
    (hinput : (placeOf site project).inputPath = (placeOf site project').inputPath) :
    (placeOf site project).workspaceId = (placeOf site project').workspaceId := by
  have hslash (project : Bytes) :
      slash ∉ projectNameFromProjectPath project ++ asciiBytes "_pipeline_all.json" := by
    intro hmem
    rcases List.mem_append.mp hmem with hname | hend
    · exact slash_notMem_projectName project hname
    · exact absurd hend (by decide)
  have hne (project : Bytes) :
      projectNameFromProjectPath project ++ asciiBytes "_pipeline_all.json" ≠ [] := by
    intro hempty
    exact absurd (List.append_eq_nil_iff.mp hempty).2 (by decide)
  exact workspaceId_of_join (hslash project) (hslash project') (hne project) (hne project') hinput

theorem outputDir_tells
    (houtput : (placeOf site project).outputDir = (placeOf site project').outputDir) :
    (placeOf site project).workspaceId = (placeOf site project').workspaceId :=
  workspaceId_of_join (by decide) (by decide) (by decide) (by decide) houtput

/-- The files of two projects differ. -/
theorem projectFile_injective (hfile : projectFile site project = projectFile site project') :
    project = project' :=
  List.append_cancel_left (join_injective hfile)

end AudioStudio.Gui
