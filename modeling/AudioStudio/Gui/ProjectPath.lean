import AudioStudio.Core.Paths

/-!
# Names of projects

The sanitisers of `http_server.cpp` and the names that `project_orchestration.cpp`
derives from a project path.
-/

namespace AudioStudio.Gui

open AudioStudio.LittleEndian
open AudioStudio.Paths

/-- Letters, digits, and `_`, `-`, `.`. -/
def isSafeChar (c : UInt8) : Bool :=
  isAlnum c ∨ c = 0x5f ∨ c = 0x2d ∨ c = 0x2e

def jsonSuffix : Bytes := asciiBytes ".json"

def hasJsonSuffix (path : Bytes) : Bool :=
  jsonSuffix.isSuffixOf path

def startsWith (value before : Bytes) : Bool :=
  before.isPrefixOf value

def sanitizeConfigFileName (input : Bytes) : Bytes :=
  if input = [] then asciiBytes "A2.json"
  else
    let out := input.filter isSafeChar
    let out := if out = [] then asciiBytes "A2.json" else out
    if hasJsonSuffix out then out else out ++ jsonSuffix

def defaultProjectConfigPath : Bytes := asciiBytes "a2/A2.json"

def isSafeConfigPathComponent (component : Bytes) : Bool :=
  component ≠ [] ∧ component ≠ dot ∧ component ≠ dotDot ∧ component.all isSafeChar

def backSlash : UInt8 := 0x5c

/-- A path without a given beginning. -/
def dropStart (start path : Bytes) : Bytes :=
  if startsWith path start then path.drop start.length else path

/-- The path with forward slashes, below the configuration directory. -/
def normalizedConfigPath (input : Bytes) : Bytes :=
  let normalized := if input = [] then defaultProjectConfigPath else input
  let normalized := normalized.map fun c => if c = backSlash then slash else c
  let normalized := dropStart (asciiBytes "configs/platform/") normalized
  let normalized := dropStart (asciiBytes "config/") normalized
  normalized.dropWhile (· = slash)

/-- The components of a path when all of them are safe, else the default project. -/
def safeConfigPath (parts : List Bytes) : Bytes :=
  if parts = [] ∨ parts.any (fun part => !isSafeConfigPathComponent part) then
    defaultProjectConfigPath
  else joinComponents parts

def sanitizeProjectConfigPath (input : Bytes) : Bytes :=
  let normalized := normalizedConfigPath input
  if normalized = [] ∨ normalized = asciiBytes "A2.json" then defaultProjectConfigPath
  else if normalized = asciiBytes "simulator.json" then asciiBytes "simulator/simulator.json"
  else if hasJsonSuffix normalized then safeConfigPath (components normalized)
  else safeConfigPath (components (normalized ++ jsonSuffix))

def projectConfigRelPath (input : Bytes) : Bytes :=
  asciiBytes "configs/platform/" ++ sanitizeProjectConfigPath input

/-- An identifier with `_` for every other character, and none at the end. -/
def safeId (value : Bytes) : Bytes :=
  let out := value.map fun c => if isAlnum c then c else 0x5f
  let out := (out.reverse.dropWhile (· = 0x5f)).reverse
  if out = [] then asciiBytes "project" else out

/-- What stands before the last dot of a name. -/
def beforeLastDot (project : Bytes) : Bytes :=
  if project.contains 0x2e then ((project.reverse.dropWhile (· ≠ 0x2e)).drop 1).reverse
  else project

def projectNameFromProjectPath (project : Bytes) : Bytes :=
  if project.contains slash then safeId (project.takeWhile (· ≠ slash))
  else safeId (beforeLastDot project)

/-! ## Sanitised paths -/

theorem slash_notSafe : isSafeChar slash = false := by
  decide

theorem isName_of_safe {component : Bytes} (hsafe : isSafeConfigPathComponent component = true) :
    IsName component := by
  unfold isSafeConfigPathComponent at hsafe
  obtain ⟨_, hdot, hdotDot, _⟩ := of_decide_eq_true hsafe
  exact ⟨hdot, hdotDot⟩

theorem slash_notMem_of_safe {component : Bytes} (hsafe : component.all isSafeChar = true) :
    slash ∉ component := by
  intro hmem
  have hslash := List.all_eq_true.mp hsafe slash hmem
  exact absurd (slash_notSafe.symm.trans hslash) Bool.false_ne_true

theorem components_joinComponents {parts : List Bytes}
    (hparts : ∀ part ∈ parts, part ≠ [] ∧ slash ∉ part) :
    components (joinComponents parts) = parts := by
  induction parts with
  | nil => rfl
  | cons part rest ih =>
      obtain ⟨hne, hslash⟩ := hparts part List.mem_cons_self
      cases rest with
      | nil => exact components_of_no_slash hslash hne
      | cons next rest =>
          rw [joinComponents, List.append_assoc, List.singleton_append, components_append_slash,
            components_of_no_slash hslash hne,
            ih fun other hmem => hparts other (List.mem_cons_of_mem part hmem)]
          rfl

theorem default_components : components defaultProjectConfigPath =
    [asciiBytes "a2", asciiBytes "A2.json"] := by
  decide

/-- Safe components, and at least one. -/
def SafePath (path : Bytes) : Prop :=
  (∀ part ∈ components path, isSafeConfigPathComponent part = true) ∧ components path ≠ []

theorem default_safe : SafePath defaultProjectConfigPath := by
  unfold SafePath
  rw [default_components]
  decide

theorem safeConfigPath_safe {parts : List Bytes}
    (hparts : ∀ part ∈ parts, part ≠ [] ∧ slash ∉ part) : SafePath (safeConfigPath parts) := by
  unfold safeConfigPath
  split
  · exact default_safe
  · next hsafe =>
      obtain ⟨hne, hany⟩ := not_or.mp hsafe
      have hall : ∀ part ∈ parts, isSafeConfigPathComponent part = true := by
        intro part hmem
        by_contra hfails
        exact hany (List.any_eq_true.mpr ⟨part, hmem, by simp [hfails]⟩)
      have hcomponents := components_joinComponents hparts
      exact ⟨hcomponents.symm ▸ hall, hcomponents.symm ▸ hne⟩

/-- A sanitised path has safe components, and at least one. -/
theorem sanitize_safe (input : Bytes) : SafePath (sanitizeProjectConfigPath input) := by
  have hsafe (path : Bytes) : SafePath (safeConfigPath (components path)) :=
    safeConfigPath_safe fun part hmem => (slash_notMem_components hmem).symm
  unfold sanitizeProjectConfigPath
  dsimp only
  split
  · exact default_safe
  · split
    · unfold SafePath
      decide
    · split
      · exact hsafe _
      · exact hsafe _

end AudioStudio.Gui
