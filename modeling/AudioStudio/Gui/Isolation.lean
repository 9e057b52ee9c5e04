import AudioStudio.Gui.Orchestrator

/-!
# Projects in their own workspaces

A workspace is found by an identifier that several projects may share, and its source is
found by sanitising the project a second time.
-/

namespace AudioStudio.Gui

open AudioStudio.LittleEndian
open AudioStudio.Paths

/-- The project that an event opens. -/
def Event.opens : Event → Option Bytes
  | .openProjectByName project _ => some project
  | .buildPipeline _ request _ | .unloadPipeline _ request _ =>
      if request.workspaceId = [] then some request.project else none
  | .saveProject _ _ | .advance _ _ => none

/-- Sanitising the project again changes nothing, and the identifier is not taken by
another project. -/
def Distinguishes (s : Orchestrator) (event : Event) : Prop :=
  ∀ project, event.opens = some project →
    sanitizeProjectConfigPath (sanitizeProjectConfigPath project) =
      sanitizeProjectConfigPath project ∧
    ∀ record, s.workspaces (workspaceIdOf (sanitizeProjectConfigPath project)) = some record →
      record.project = sanitizeProjectConfigPath project

section Isolation

variable (site : Site) (regenerate : Bytes → Bytes → Bytes → Option (Bytes × List Bytes))

/-- A returned record is that of the project asked for, and is kept. -/
structure OwnRecord (s : Orchestrator) (project : Bytes) (record : WorkspaceRecord) : Prop where
  place : record.toWorkspacePlace = placeOf site (sanitizeProjectConfigPath project)
  stable : sanitizeProjectConfigPath (sanitizeProjectConfigPath project) =
    sanitizeProjectConfigPath project
  kept : s.places record.workspaceId = some record.toWorkspacePlace

/-- The invariant of a run that distinguishes its projects. -/
structure Isolated (s : Orchestrator) : Prop where
  known : ∀ workspaceId place, s.places workspaceId = some place →
    place = placeOf site place.project ∧ place.workspaceId = workspaceId
  own : ∀ project record, (project, record) ∈ s.opened → OwnRecord site s project record

variable {site regenerate}

variable {s : Orchestrator}

/-- What neither moves a workspace nor returns a record keeps the invariant. -/
theorem Isolated.of_same {s' : Orchestrator} (hisolated : Isolated site s)
    (hplaces : s'.places = s.places) (hopened : s'.opened = s.opened) : Isolated site s' := by
  constructor
  · rw [hplaces]
    exact hisolated.known
  · intro project record hmem
    rw [hopened] at hmem
    obtain ⟨hplace, hstable, hkept⟩ := hisolated.own project record hmem
    exact ⟨hplace, hstable, hplaces ▸ hkept⟩

variable {project : Bytes} {record : WorkspaceRecord}

theorem Isolated.noteOpened (hisolated : Isolated site s) (hown : OwnRecord site s project record) :
    Isolated site (s.noteOpened project record) := by
  constructor
  · exact hisolated.known
  · intro other found hmem
    rcases List.mem_cons.mp hmem with hnew | hold
    · obtain ⟨rfl, rfl⟩ := Prod.mk.inj hnew
      exact ⟨hown.place, hown.stable, hown.kept⟩
    · obtain ⟨hplace, hstable, hkept⟩ := hisolated.own other found hold
      exact ⟨hplace, hstable, hkept⟩

/-- The places after a new record is entered. -/
theorem places_insert (path text : Bytes) (record : WorkspaceRecord) (s : Orchestrator) :
    ((s.writeInput path text).insert record).places =
      Function.update s.places record.workspaceId (some record.toWorkspacePlace) := by
  funext workspaceId
  unfold Orchestrator.places Orchestrator.insert
  dsimp only
  by_cases hsame : workspaceId = record.workspaceId
  · rw [hsame, Function.update_self, Function.update_self, Option.map_some]
  · rw [Function.update_of_ne hsame, Function.update_of_ne hsame]
    rfl

theorem Isolated.insert {path text : Bytes} (hisolated : Isolated site s)
    (hrecord : record.toWorkspacePlace = placeOf site (sanitizeProjectConfigPath project))
    (hnew : s.workspaces record.workspaceId = none) :
    Isolated site ((s.writeInput path text).insert record) := by
  have hnone : s.places record.workspaceId = none := by
    unfold Orchestrator.places
    rw [hnew]
    rfl
  constructor
  · intro workspaceId place hplace
    rw [places_insert] at hplace
    by_cases hsame : workspaceId = record.workspaceId
    · rw [hsame, Function.update_self] at hplace
      obtain rfl := Option.some.inj hplace
      refine ⟨?_, hsame.symm⟩
      rw [hrecord]
      rfl
    · rw [Function.update_of_ne hsame] at hplace
      exact hisolated.known workspaceId place hplace
  · intro other found hmem
    obtain ⟨hplace, hstable, hkept⟩ := hisolated.own other found hmem
    refine ⟨hplace, hstable, ?_⟩
    rw [places_insert, Function.update_of_ne]
    · exact hkept
    · intro hsame
      rw [hsame, hnone] at hkept
      cases hkept

/-- Opening a project keeps the invariant. -/
theorem Isolated.openProjectLocked (disk : Option Outcome) (hisolated : Isolated site s)
    (hstable : sanitizeProjectConfigPath (sanitizeProjectConfigPath project) =
      sanitizeProjectConfigPath project)
    (htaken : ∀ record,
      s.workspaces (workspaceIdOf (sanitizeProjectConfigPath project)) = some record →
        record.project = sanitizeProjectConfigPath project) :
    Isolated site (s.openProjectLocked site project disk).2 := by
  rcases s.openProjectLocked_cases site project disk with
    ⟨existing, hfound, heq⟩ | ⟨_, _, heq⟩ | ⟨record, text, hnone, hrecord, heq⟩
  · rw [heq]
    have hplaces : s.places (workspaceIdOf (sanitizeProjectConfigPath project)) =
        some existing.toWorkspacePlace := by
      unfold Orchestrator.places
      rw [hfound]
      rfl
    obtain ⟨hplace, hid⟩ := hisolated.known _ _ hplaces
    have hproject : existing.project = sanitizeProjectConfigPath project := htaken existing hfound
    apply hisolated.noteOpened
    refine ⟨?_, hstable, ?_⟩
    · rw [← hproject]
      exact hplace
    · rw [hid]
      exact hplaces
  · rw [heq]
    exact hisolated
  · rw [heq]
    have hplace : record.toWorkspacePlace =
        placeOf site (sanitizeProjectConfigPath project) := by
      rw [hrecord]
    have hnew : s.workspaces record.workspaceId = none := by
      rw [hrecord]
      exact hnone
    apply (hisolated.insert hplace hnew).noteOpened
    refine ⟨hplace, hstable, ?_⟩
    rw [places_insert, Function.update_self]

/-- Looking a request up keeps the invariant. -/
theorem Isolated.lookUp {request : BuildRequest} (disk : Option Outcome)
    (hisolated : Isolated site s)
    (hdistinguishes : request.workspaceId = [] →
      sanitizeProjectConfigPath (sanitizeProjectConfigPath request.project) =
        sanitizeProjectConfigPath request.project ∧
      ∀ record, s.workspaces (workspaceIdOf (sanitizeProjectConfigPath request.project)) =
        some record → record.project = sanitizeProjectConfigPath request.project) :
    Isolated site (s.lookUp site request disk).2 := by
  unfold Orchestrator.lookUp
  split
  · next hempty =>
      obtain ⟨hstable, htaken⟩ := hdistinguishes hempty
      exact hisolated.openProjectLocked disk hstable htaken
  · exact hisolated

theorem Isolated.step {s : Orchestrator} {event : Event}
    (hdistinguishes : Distinguishes s event) (hisolated : Isolated site s) :
    Isolated site (s.step site regenerate event) := by
  cases event with
  | openProjectByName project disk =>
      obtain ⟨hstable, htaken⟩ := hdistinguishes project rfl
      exact hisolated.openProjectLocked disk hstable htaken
  | buildPipeline task request disk =>
      have hlook := hisolated.lookUp disk fun hempty =>
        hdistinguishes request.project (if_pos hempty)
      unfold Orchestrator.step
      dsimp only
      split
      · generalize s.lookUp site request disk = found at hlook
        obtain ⟨record | record, s'⟩ := found
        · exact hlook
        · exact hlook.of_same rfl rfl
      · exact hisolated
  | unloadPipeline task request disk =>
      have hlook := hisolated.lookUp disk fun hempty =>
        hdistinguishes request.project (if_pos hempty)
      unfold Orchestrator.step
      dsimp only
      split
      · generalize s.lookUp site request disk = found at hlook
        obtain ⟨record | record, s'⟩ := found
        · exact hlook
        · exact hlook.of_same rfl rfl
      · exact hisolated
  | saveProject task workspaceId =>
      unfold Orchestrator.step
      dsimp only
      split
      · exact hisolated
      · split
        · exact hisolated.of_same rfl rfl
        · exact hisolated
  | advance task outcome =>
      unfold Orchestrator.step
      dsimp only
      split
      · exact hisolated
      · next record stage _ =>
          exact hisolated.of_same (s.places_advance regenerate task record outcome stage)
            (s.opened_advance regenerate task record outcome stage)

theorem isolated_initial (sources : Bytes → Bytes) :
    Isolated site (Orchestrator.initial sources) := by
  constructor
  · intro workspaceId place hplace
    cases hplace
  · intro project record hmem
    cases hmem

/-- Two returned records of different projects lie apart. -/
theorem Isolated.apart {p q : Bytes} {record' : WorkspaceRecord} (hisolated : Isolated site s)
    (hp : (p, record) ∈ s.opened) (hq : (q, record') ∈ s.opened)
    (hne : sanitizeProjectConfigPath p ≠ sanitizeProjectConfigPath q) :
    record.workspaceId ≠ record'.workspaceId := by
  obtain ⟨hplace, _, hkept⟩ := hisolated.own p record hp
  obtain ⟨hplace', _, hkept'⟩ := hisolated.own q record' hq
  intro hid
  rw [hid, hkept'] at hkept
  have hprojects := congrArg WorkspacePlace.project (Option.some.inj hkept)
  rw [hplace, hplace'] at hprojects
  exact hne hprojects.symm

theorem OwnRecord.sourcePath_eq (hown : OwnRecord site s project record) :
    record.sourcePath = projectFile site (sanitizeProjectConfigPath project) := by
  have hsource : record.sourcePath = (placeOf site (sanitizeProjectConfigPath project)).sourcePath :=
    congrArg WorkspacePlace.sourcePath hown.place
  rw [hsource]
  unfold placeOf projectConfigRelPath projectFile
  dsimp only
  rw [hown.stable]

end Isolation

/-- In a run that distinguishes its projects, no two projects share a workspace. -/
theorem projects_never_share (site : Site)
    (regenerate : Bytes → Bytes → Bytes → Option (Bytes × List Bytes))
    (sources : Bytes → Bytes) (events : List Event)
    (hdistinguishes : Orchestrator.Throughout site regenerate Distinguishes
      (Orchestrator.initial sources) events)
    (p q : Bytes) (record record' : WorkspaceRecord)
    (hp : (p, record) ∈ ((Orchestrator.initial sources).run site regenerate events).opened)
    (hq : (q, record') ∈ ((Orchestrator.initial sources).run site regenerate events).opened)
    (hne : sanitizeProjectConfigPath p ≠ sanitizeProjectConfigPath q) :
    record.workspaceId ≠ record'.workspaceId ∧ record.sourcePath ≠ record'.sourcePath ∧
      record.inputPath ≠ record'.inputPath ∧ record.outputDir ≠ record'.outputDir ∧
      record.sourcePath = projectFile site (sanitizeProjectConfigPath p) ∧
      record'.sourcePath = projectFile site (sanitizeProjectConfigPath q) := by
  have hisolated : Isolated site ((Orchestrator.initial sources).run site regenerate events) :=
    Orchestrator.run_keeps site regenerate (fun _ _ => Isolated.step) hdistinguishes
      (isolated_initial sources)
  have hown := hisolated.own p record hp
  have hown' := hisolated.own q record' hq
  have hid := hisolated.apart hp hq hne
  have hplace := hown.place
  have hplace' := hown'.place
  refine ⟨hid, ?_, ?_, ?_, hown.sourcePath_eq, hown'.sourcePath_eq⟩
  · rw [hown.sourcePath_eq, hown'.sourcePath_eq]
    exact fun hfile => hne (projectFile_injective hfile)
  · rw [hplace, hplace'] at hid ⊢
    exact fun hinput => hid (inputPath_tells hinput)
  · rw [hplace, hplace'] at hid ⊢
    exact fun houtput => hid (outputDir_tells houtput)

/-! ## Two projects -/

def exampleSite : Site where
  rootDir := asciiBytes "/studio"
  tempDirectory := asciiBytes "/tmp"

def openTwo (p q : Bytes) : List Event :=
  [.openProjectByName p (some .succeeds), .openProjectByName q (some .succeeds)]

def recordOf (project : Bytes) : WorkspaceRecord where
  toWorkspacePlace := placeOf exampleSite (sanitizeProjectConfigPath project)

theorem distinguishes_two : Orchestrator.Throughout exampleSite (fun _ _ _ => none) Distinguishes
    (Orchestrator.initial fun _ => [])
    (openTwo (asciiBytes "a2/A2.json") (asciiBytes "simulator.json")) := by
  refine ⟨?_, ?_, trivial⟩
  · rintro project hproject
    obtain rfl := Option.some.inj hproject
    exact ⟨by decide, fun record hrecord => nomatch hrecord⟩
  · rintro project hproject
    obtain rfl := Option.some.inj hproject
    refine ⟨by decide, fun record hrecord => ?_⟩
    have hnone : (((Orchestrator.initial fun _ => []).step exampleSite (fun _ _ _ => none)
        (.openProjectByName (asciiBytes "a2/A2.json") (some .succeeds))).workspaces
          (workspaceIdOf (sanitizeProjectConfigPath (asciiBytes "simulator.json")))).isNone = true := by
      decide
    rw [hrecord] at hnone
    cases hnone

theorem projects_never_share_two :
    (recordOf (asciiBytes "a2/A2.json")).workspaceId ≠
        (recordOf (asciiBytes "simulator.json")).workspaceId ∧
      (recordOf (asciiBytes "a2/A2.json")).sourcePath ≠
        (recordOf (asciiBytes "simulator.json")).sourcePath ∧
      (recordOf (asciiBytes "a2/A2.json")).inputPath ≠
        (recordOf (asciiBytes "simulator.json")).inputPath ∧
      (recordOf (asciiBytes "a2/A2.json")).outputDir ≠
        (recordOf (asciiBytes "simulator.json")).outputDir ∧
      (recordOf (asciiBytes "a2/A2.json")).sourcePath =
        projectFile exampleSite (sanitizeProjectConfigPath (asciiBytes "a2/A2.json")) ∧
      (recordOf (asciiBytes "simulator.json")).sourcePath =
        projectFile exampleSite (sanitizeProjectConfigPath (asciiBytes "simulator.json")) :=
  projects_never_share exampleSite (fun _ _ _ => none) (fun _ => [])
    (openTwo (asciiBytes "a2/A2.json") (asciiBytes "simulator.json")) distinguishes_two
    (asciiBytes "a2/A2.json") (asciiBytes "simulator.json")
    (recordOf (asciiBytes "a2/A2.json")) (recordOf (asciiBytes "simulator.json"))
    (by decide) (by decide) (by decide)

/-- `a/b.json` and `a_b.json` get one record. -/
theorem slash_and_underscore_share : ¬ ∀ (site : Site)
    (regenerate : Bytes → Bytes → Bytes → Option (Bytes × List Bytes))
    (sources : Bytes → Bytes) (events : List Event) (p q : Bytes)
    (record record' : WorkspaceRecord),
    (p, record) ∈ ((Orchestrator.initial sources).run site regenerate events).opened →
    (q, record') ∈ ((Orchestrator.initial sources).run site regenerate events).opened →
    sanitizeProjectConfigPath p ≠ sanitizeProjectConfigPath q →
    record.workspaceId ≠ record'.workspaceId ∧ record.sourcePath ≠ record'.sourcePath ∧
      record.inputPath ≠ record'.inputPath ∧ record.outputDir ≠ record'.outputDir ∧
      record.sourcePath = projectFile site (sanitizeProjectConfigPath p) ∧
      record'.sourcePath = projectFile site (sanitizeProjectConfigPath q) := by
  intro hapart
  have hids := (hapart exampleSite (fun _ _ _ => none) (fun _ => [])
    (openTwo (asciiBytes "a/b.json") (asciiBytes "a_b.json"))
    (asciiBytes "a/b.json") (asciiBytes "a_b.json") (recordOf (asciiBytes "a/b.json"))
    (recordOf (asciiBytes "a/b.json")) (by decide) (by decide)
    (by decide)).1
  exact hids rfl

end AudioStudio.Gui
