import AudioStudio.Gui.Workspaces

/-!
# Files behind HTTP routes

The routes of `HttpServer::handle` that answer from a file or open a project.
-/

namespace AudioStudio.Gui

open AudioStudio.LittleEndian
open AudioStudio.Paths

/-! ## Parsing -/

def hexValue (c : UInt8) : Option UInt8 :=
  if 0x30 ≤ c ∧ c ≤ 0x39 then some (c - 0x30)
  else if 0x61 ≤ c ∧ c ≤ 0x66 then some (c - 0x61 + 10)
  else if 0x41 ≤ c ∧ c ≤ 0x46 then some (c - 0x41 + 10)
  else none

def urlDecode : Bytes → Bytes
  | c :: high :: low :: rest =>
      if c = 0x2b then 0x20 :: urlDecode (high :: low :: rest)
      else if c = 0x25 then
        match hexValue high, hexValue low with
        | some high, some low => (high * 16 + low) :: urlDecode rest
        | _, _ => c :: urlDecode (high :: low :: rest)
      else c :: urlDecode (high :: low :: rest)
  | c :: rest => (if c = 0x2b then 0x20 else c) :: urlDecode rest
  | [] => []

/-- The pairs of a query in their order, those without a key left out. -/
def parseQuery (query : Bytes) : List (Bytes × Bytes) :=
  ((query.splitOn 0x26).map fun item =>
    (item.takeWhile (· ≠ 0x3d), (item.dropWhile (· ≠ 0x3d)).drop 1)).filterMap fun (key, value) =>
      if key = [] then none else some (urlDecode key, urlDecode value)

/-- The value that was assigned last. -/
def queryValue (key query : Bytes) : Bytes :=
  (((parseQuery query).filter fun pair => pair.1 = key).getLast?.map Prod.snd).getD []

def doubleQuote : UInt8 := 0x22

/-- A string up to its closing quote. -/
def readQuoted (out : Bytes) : Bytes → Option Bytes
  | [] => none
  | c :: rest =>
      if c = doubleQuote then some out
      else if c = backSlash then
        match rest with
        | [] => none
        | escaped :: rest => readQuoted (out ++ [escaped]) rest
      else readQuoted (out ++ [c]) rest

def simpleJsonStringField (body field fallback : Bytes) : Bytes :=
  let key := [doubleQuote] ++ field ++ [doubleQuote]
  match findText key body with
  | none => fallback
  | some pos =>
      let behindKey := body.drop (pos + key.length)
      let behindColon := (behindKey.dropWhile (· ≠ 0x3a)).drop 1
      match readQuoted [] ((behindColon.dropWhile (· ≠ doubleQuote)).drop 1) with
      | none | some [] => fallback
      | some out => out

/-! ## Routes -/

structure HttpRequest where
  method : Bytes
  path : Bytes
  query : Bytes
  body : Bytes

/-- What a route answers from: a file below the root, a project, or neither. -/
inductive Answer where
  | file (relPath : Bytes)
  | openProject (project : Bytes)
  | other
  deriving DecidableEq, Repr

def frontendRoot : Bytes := asciiBytes "GUI/frontend"
def guiAssetPrefix : Bytes := asciiBytes "/GUI/frontend/assets/"
def legacyFrontendPrefix : Bytes := asciiBytes "/frontend/"
def guiConfigPrefix : Bytes := asciiBytes "/GUI/frontend/config/"
def legacyConfigPrefix : Bytes := asciiBytes "/frontend/config/"

def isFrontendIndexPath (path : Bytes) : Bool :=
  path = asciiBytes "/" ∨ path = asciiBytes "/index.html" ∨
    path = asciiBytes "/GUI/frontend/" ∨ path = asciiBytes "/GUI/frontend/index.html" ∨
    path = asciiBytes "/frontend/" ∨ path = asciiBytes "/frontend/index.html"

def serveFrontendFile (relPath : Bytes) : Answer :=
  .file (frontendRoot ++ [slash] ++ relPath)

def serveConfigFile (fileName : Bytes) : Answer :=
  .file (asciiBytes "configs/" ++ sanitizeConfigFileName fileName)

/-- The `GET` routes of configurations and projects, in their order. -/
def handleConfigGet (path query : Bytes) : Answer :=
  if startsWith path guiConfigPrefix ∧ hasJsonSuffix path then
    serveConfigFile (path.drop guiConfigPrefix.length)
  else if startsWith path legacyConfigPrefix ∧ hasJsonSuffix path then
    serveConfigFile (path.drop legacyConfigPrefix.length)
  else if path = asciiBytes "/api/projects" then .other
  else if path = asciiBytes "/api/config" then
    .openProject (queryValue (asciiBytes "project") query)
  else if startsWith path (asciiBytes "/config/") ∧ 12 ≤ path.length ∧ hasJsonSuffix path then
    .file (projectConfigRelPath (path.drop 8))
  else if startsWith path (asciiBytes "/configs/platform/") ∧ 23 ≤ path.length ∧
      hasJsonSuffix path then
    .file (projectConfigRelPath (path.drop 18))
  else if startsWith path (asciiBytes "/configs/") ∧ 14 ≤ path.length ∧ hasJsonSuffix path then
    serveConfigFile (path.drop 9)
  else .other

/-- The routes of the page and its assets come first. -/
def handleGet (path query : Bytes) : Answer :=
  if isFrontendIndexPath path then serveFrontendFile (asciiBytes "index.html")
  else if startsWith path (asciiBytes "/assets/") then serveFrontendFile (path.drop 1)
  else if startsWith path guiAssetPrefix then .file (path.drop 1)
  else if startsWith path legacyFrontendPrefix ∧
      startsWith (path.drop legacyFrontendPrefix.length) (asciiBytes "assets/") then
    serveFrontendFile (path.drop legacyFrontendPrefix.length)
  else handleConfigGet path query

/-- Which file `HttpServer::handle` answers from. -/
def handle (request : HttpRequest) : Answer :=
  if request.method = asciiBytes "GET" then handleGet request.path request.query
  else if request.method = asciiBytes "POST" ∧ request.path = asciiBytes "/api/project/open" then
    .openProject
      (simpleJsonStringField request.body (asciiBytes "project") defaultProjectConfigPath)
  else .other

/-- The root directory comes as a C string. -/
structure RootDir where
  path : Bytes
  noNul : 0 ∉ path

/-- The path that `serveFile` opens. -/
def RootDir.opened (root : RootDir) (relPath : Bytes) : Bytes :=
  cString (root.path ++ [slash] ++ relPath)

/-- The directory below the root. -/
def RootDir.below (root : RootDir) (directory : Bytes) : Bytes :=
  root.path ++ [slash] ++ directory

/-- An answer opens no file outside the directories that are served. -/
def Confined (root : RootDir) : Answer → Prop
  | .file relPath =>
      Under (root.below (asciiBytes "GUI/frontend")) (root.opened relPath) ∨
        Under (root.below (asciiBytes "configs")) (root.opened relPath)
  | .openProject project => ∀ tempDirectory,
      Under (join root.path (asciiBytes "configs/platform"))
        (cString (placeOf { rootDir := root.path, tempDirectory }
          (sanitizeProjectConfigPath project)).sourcePath)
  | .other => True

/-- The path of an asset below the frontend directory. -/
def assetPath (path : Bytes) : Option Bytes :=
  if startsWith path (asciiBytes "/assets/") then some (path.drop 1)
  else if startsWith path guiAssetPrefix then some (path.drop (asciiBytes "/GUI/frontend/").length)
  else if startsWith path legacyFrontendPrefix ∧
      startsWith (path.drop legacyFrontendPrefix.length) (asciiBytes "assets/") then
    some (path.drop legacyFrontendPrefix.length)
  else none

/-- Walked from the root, the components never climb above it and end in a directory that
is served. -/
def staysInside (components : List Bytes) : Bool :=
  match walk [] components with
  | none => false
  | some final =>
      [asciiBytes "GUI", asciiBytes "frontend"].isPrefixOf final.reverse ∨
        [asciiBytes "configs"].isPrefixOf final.reverse

/-! ## Paths below the root -/

variable {text : Bytes}

theorem cString_append {before : Bytes} (hnul : 0 ∉ before) :
    cString (before ++ text) = before ++ cString text := by
  unfold cString
  rw [List.takeWhile_append_of_pos]
  intro c hmem
  rw [decide_eq_true_eq]
  rintro rfl
  exact hnul hmem

theorem cString_of_noNul (hnul : 0 ∉ text) : cString text = text := by
  have happend : cString (text ++ []) = text ++ cString [] := cString_append hnul
  have hnil : cString [] = [] := rfl
  rwa [hnil, List.append_nil] at happend

theorem RootDir.opened_eq (root : RootDir) (relPath : Bytes) :
    root.opened relPath = root.path ++ [slash] ++ cString relPath := by
  unfold RootDir.opened
  apply cString_append
  intro hmem
  rcases List.mem_append.mp hmem with hroot | hslash
  · exact root.noNul hroot
  · exact absurd (List.mem_singleton.mp hslash) (by decide)

theorem components_below (path relPath : Bytes) :
    components (path ++ [slash] ++ relPath) = components path ++ components relPath := by
  rw [List.append_assoc, List.singleton_append, components_append_slash]

theorem isAbsolute_below (path relPath relPath' : Bytes) :
    isAbsolute (path ++ [slash] ++ relPath) = isAbsolute (path ++ [slash] ++ relPath') := by
  cases path with
  | nil => rfl
  | cons c rest => rfl

/-- A file and a directory below a root. -/
theorem RootDir.below_opened (root : RootDir) {directory : Bytes} (relPath : Bytes)
    (hnames : ∀ name ∈ components directory, IsName name) :
    Below (components root.path) (root.below directory) (root.opened relPath)
      (components directory) (components (cString relPath)) := by
  rw [root.opened_eq]
  constructor
  · exact components_below root.path directory
  · exact components_below root.path (cString relPath)
  · exact isAbsolute_below _ _ _
  · exact hnames

theorem frontend_components :
    components (asciiBytes "GUI/frontend") = [asciiBytes "GUI", asciiBytes "frontend"] := by
  decide

theorem configs_components : components (asciiBytes "configs") = [asciiBytes "configs"] := by
  decide

theorem frontend_names : ∀ name ∈ components (asciiBytes "GUI/frontend"), IsName name := by
  rw [frontend_components]
  unfold IsName
  decide

theorem configs_names : ∀ name ∈ components (asciiBytes "configs"), IsName name := by
  rw [configs_components]
  unfold IsName
  decide

theorem staysInside_iff {components : List Bytes} : staysInside components = true ↔
    ∃ final, walk [] components = some final ∧
      ([asciiBytes "GUI", asciiBytes "frontend"] <+: final.reverse ∨
        [asciiBytes "configs"] <+: final.reverse) := by
  unfold staysInside
  cases walk [] components with
  | none =>
      constructor
      · intro himpossible
        cases himpossible
      · rintro ⟨final, himpossible, _⟩
        cases himpossible
  | some final => simp

/-- A file is confined below every root just when its path stays inside. -/
theorem confined_file_iff (relPath : Bytes) :
    (∀ root, Confined root (.file relPath)) ↔
      staysInside (components (cString relPath)) = true := by
  rw [staysInside_iff]
  constructor
  · intro hconfined
    obtain ⟨fresh, hname, hne, hslash, hnul, hrest⟩ :=
      exists_fresh_name (components (cString relPath))
    -- a root whose name the path does not know
    have hroot : 0 ∉ slash :: fresh :=
      List.not_mem_cons_of_ne_of_not_mem (by decide) hnul
    have hcomponents : components (slash :: fresh) = [fresh] := by
      have hbelow := components_append_slash [] fresh
      rw [components_of_no_slash hslash hne] at hbelow
      exact hbelow
    rcases hconfined { path := slash :: fresh, noNul := hroot } with hunder | hunder
    · have hbelow := RootDir.below_opened { path := slash :: fresh, noNul := hroot } relPath
        frontend_names
      rw [hcomponents] at hbelow
      obtain ⟨final, hwalk, hends⟩ := hbelow.walk_of_under hname hrest rfl hunder
      rw [frontend_components] at hends
      exact ⟨final, hwalk, .inl hends⟩
    · have hbelow := RootDir.below_opened { path := slash :: fresh, noNul := hroot } relPath
        configs_names
      rw [hcomponents] at hbelow
      obtain ⟨final, hwalk, hends⟩ := hbelow.walk_of_under hname hrest rfl hunder
      rw [configs_components] at hends
      exact ⟨final, hwalk, .inr hends⟩
  · rintro ⟨final, hwalk, hfrontend | hconfigs⟩ root
    · rw [← frontend_components] at hfrontend
      exact .inl ((root.below_opened relPath frontend_names).under hwalk hfrontend)
    · rw [← configs_components] at hconfigs
      exact .inr ((root.below_opened relPath configs_names).under hwalk hconfigs)

/-! ## Sanitised routes -/

theorem staysInside_of_names {names : List Bytes} (hnames : ∀ name ∈ names, IsName name) :
    staysInside (asciiBytes "configs" :: names) = true := by
  have hall : ∀ name ∈ asciiBytes "configs" :: names, IsName name :=
    List.forall_mem_cons.mpr ⟨configs_names _ (by decide), hnames⟩
  rw [staysInside_iff]
  refine ⟨_, walk_names hall [], .inr ?_⟩
  rw [List.append_nil, List.reverse_reverse]
  exact List.prefix_append _ names

theorem noNul_of_safe (hsafe : text.all isSafeChar = true) : 0 ∉ text := by
  intro hmem
  exact absurd (List.all_eq_true.mp hsafe 0 hmem) (by decide)

theorem safe_of_suffix (hsafe : text.all isSafeChar = true) (hsuffix : jsonSuffix <:+ text) :
    isSafeConfigPathComponent text = true := by
  have hlength : 5 ≤ text.length := hsuffix.length_le
  unfold isSafeConfigPathComponent
  rw [decide_eq_true_eq]
  refine ⟨?_, ?_, ?_, hsafe⟩
  · rintro rfl
    exact absurd hlength (by decide)
  · rintro rfl
    exact absurd hlength (by decide)
  · rintro rfl
    exact absurd hlength (by decide)

/-- A sanitised file name is one safe component. -/
theorem sanitizeConfigFileName_safe (input : Bytes) :
    isSafeConfigPathComponent (sanitizeConfigFileName input) = true := by
  have hout (out : Bytes) (hsafe : out.all isSafeChar = true) :
      isSafeConfigPathComponent (if hasJsonSuffix out then out else out ++ jsonSuffix) = true := by
    split
    · next hsuffix => exact safe_of_suffix hsafe (List.isSuffixOf_iff_suffix.mp hsuffix)
    · apply safe_of_suffix
      · rw [List.all_append, hsafe]
        decide
      · exact List.suffix_append out jsonSuffix
  unfold sanitizeConfigFileName
  split
  · decide
  · apply hout
    split
    · decide
    · rw [List.all_filter]
      simp

theorem safe_all {component : Bytes} (hsafe : isSafeConfigPathComponent component = true) :
    component ≠ [] ∧ component.all isSafeChar = true := by
  unfold isSafeConfigPathComponent at hsafe
  obtain ⟨hne, _, _, hall⟩ := of_decide_eq_true hsafe
  exact ⟨hne, hall⟩

variable {path : Bytes}

theorem noNul_of_safePath (hsafe : SafePath path) : 0 ∉ path := by
  intro hmem
  obtain ⟨component, hcomponent, hin⟩ :=
    exists_component_of_mem (by decide : (0 : UInt8) ≠ slash) hmem
  exact noNul_of_safe (safe_all (hsafe.1 component hcomponent)).2 hin

theorem confined_configFile (fileName : Bytes) (root : RootDir) :
    Confined root (serveConfigFile fileName) := by
  have hsafe := sanitizeConfigFileName_safe fileName
  obtain ⟨hne, hall⟩ := safe_all hsafe
  have hpath : asciiBytes "configs/" ++ sanitizeConfigFileName fileName =
      asciiBytes "configs" ++ slash :: sanitizeConfigFileName fileName := rfl
  have hnul : 0 ∉ asciiBytes "configs/" ++ sanitizeConfigFileName fileName := by
    intro hmem
    rcases List.mem_append.mp hmem with hstart | hname
    · exact absurd hstart (by decide)
    · exact noNul_of_safe hall hname
  apply (confined_file_iff _).mpr
  rw [cString_of_noNul hnul, hpath, components_append_slash, configs_components,
    components_of_no_slash (slash_notMem_of_safe hall) hne]
  apply staysInside_of_names
  intro name hmem
  obtain rfl := List.mem_singleton.mp hmem
  exact isName_of_safe hsafe

/-- The components of the path of a project below the root. -/
theorem projectConfig_components (project : Bytes) :
    components (projectConfigRelPath project) =
      asciiBytes "configs" :: asciiBytes "platform" ::
        components (sanitizeProjectConfigPath project) := by
  have hpath : projectConfigRelPath project = asciiBytes "configs" ++
      slash :: (asciiBytes "platform" ++ slash :: sanitizeProjectConfigPath project) := rfl
  have hplatform : components (asciiBytes "platform") = [asciiBytes "platform"] := by
    decide
  rw [hpath, components_append_slash, components_append_slash, configs_components, hplatform]
  rfl

theorem noNul_projectConfig (project : Bytes) : 0 ∉ projectConfigRelPath project := by
  intro hmem
  rcases List.mem_append.mp hmem with hstart | hproject
  · exact absurd hstart (by decide)
  · exact noNul_of_safePath (sanitize_safe project) hproject

theorem projectConfig_names (project : Bytes) : ∀ name ∈ asciiBytes "platform" ::
    components (sanitizeProjectConfigPath project), IsName name := by
  rw [List.forall_mem_cons]
  constructor
  · unfold IsName
    decide
  · exact fun name hmem => isName_of_safe ((sanitize_safe project).1 name hmem)

theorem confined_projectConfig (project : Bytes) (root : RootDir) :
    Confined root (.file (projectConfigRelPath project)) := by
  apply (confined_file_iff _).mpr
  rw [cString_of_noNul (noNul_projectConfig project), projectConfig_components]
  exact staysInside_of_names (projectConfig_names project)

theorem isAbsolute_join (path rest rest' : Bytes) (hrest : isAbsolute rest = isAbsolute rest') :
    isAbsolute (join path rest) = isAbsolute (join path rest') := by
  unfold join
  split
  · exact hrest
  · next hne =>
      cases path with
      | nil => exact absurd rfl hne
      | cons c path =>
          split
          · rfl
          · rfl

theorem confined_openProject (project : Bytes) (root : RootDir) :
    Confined root (.openProject project) := by
  intro tempDirectory
  have hsource : (placeOf { rootDir := root.path, tempDirectory }
      (sanitizeProjectConfigPath project)).sourcePath =
        join root.path (projectConfigRelPath (sanitizeProjectConfigPath project)) := rfl
  have hnul : 0 ∉ join root.path (projectConfigRelPath (sanitizeProjectConfigPath project)) := by
    intro hmem
    rcases mem_join hmem with hroot | hslash | hproject
    · exact root.noNul hroot
    · exact absurd hslash (by decide)
    · exact noNul_projectConfig _ hproject
  rw [hsource, cString_of_noNul hnul]
  have hdirectory : components (asciiBytes "configs/platform") =
      [asciiBytes "configs", asciiBytes "platform"] := by
    decide
  have hbelow : Below (components root.path) (join root.path (asciiBytes "configs/platform"))
      (join root.path (projectConfigRelPath (sanitizeProjectConfigPath project)))
      [asciiBytes "configs", asciiBytes "platform"]
      (components (projectConfigRelPath (sanitizeProjectConfigPath project))) := by
    constructor
    · rw [components_join, hdirectory]
    · exact components_join _ _
    · exact isAbsolute_join _ _ _ rfl
    · unfold IsName
      decide
  have hnames : ∀ name ∈ components (projectConfigRelPath (sanitizeProjectConfigPath project)),
      IsName name := by
    rw [projectConfig_components, List.forall_mem_cons]
    exact ⟨configs_names _ (by decide), projectConfig_names _⟩
  apply hbelow.under (walk_names hnames [])
  rw [List.append_nil, List.reverse_reverse, projectConfig_components]
  exact List.prefix_append [asciiBytes "configs", asciiBytes "platform"] _

/-! ## All routes -/

theorem startsWith_iff {value before : Bytes} : startsWith value before = true ↔
    ∃ rest, value = before ++ rest := by
  unfold startsWith
  rw [List.isPrefixOf_iff_prefix]
  constructor
  · rintro ⟨rest, rfl⟩
    exact ⟨rest, rfl⟩
  · rintro ⟨rest, rfl⟩
    exact List.prefix_append before rest

theorem confined_index (root : RootDir) :
    Confined root (serveFrontendFile (asciiBytes "index.html")) := by
  apply (confined_file_iff _).mpr
  decide

theorem assetPath_index (hindex : isFrontendIndexPath path = true) : assetPath path = none := by
  unfold isFrontendIndexPath at hindex
  rcases of_decide_eq_true hindex with rfl | rfl | rfl | rfl | rfl | rfl
  · decide
  · decide
  · decide
  · decide
  · decide
  · decide

theorem confined_handleConfigGet (path query : Bytes) (root : RootDir) :
    Confined root (handleConfigGet path query) := by
  unfold handleConfigGet
  split
  · exact confined_configFile _ root
  · split
    · exact confined_configFile _ root
    · split
      · trivial
      · split
        · exact confined_openProject _ root
        · split
          · exact confined_projectConfig _ root
          · split
            · exact confined_projectConfig _ root
            · split
              · exact confined_configFile _ root
              · trivial

/-- The answer to a `GET` request that is for no asset is confined. -/
theorem confined_handleGet (query : Bytes) (hnone : assetPath path = none) (root : RootDir) :
    Confined root (handleGet path query) := by
  unfold assetPath at hnone
  unfold handleGet
  by_cases hindex : isFrontendIndexPath path = true
  · rw [if_pos hindex]
    exact confined_index root
  · rw [if_neg hindex]
    by_cases hassets : startsWith path (asciiBytes "/assets/") = true
    · rw [if_pos hassets] at hnone
      cases hnone
    · rw [if_neg hassets] at hnone ⊢
      by_cases hgui : startsWith path guiAssetPrefix = true
      · rw [if_pos hgui] at hnone
        cases hnone
      · rw [if_neg hgui] at hnone ⊢
        split
        · next hlegacy =>
            rw [if_pos hlegacy] at hnone
            cases hnone
        · exact confined_handleConfigGet path query root

/-- An asset is served as it is asked for. -/
theorem handleGet_asset {asset : Bytes} (query : Bytes) (hasset : assetPath path = some asset) :
    handleGet path query = serveFrontendFile asset := by
  have hindex : ¬ isFrontendIndexPath path = true := by
    intro hindex
    rw [assetPath_index hindex] at hasset
    cases hasset
  unfold assetPath at hasset
  unfold handleGet
  rw [if_neg hindex]
  by_cases hassets : startsWith path (asciiBytes "/assets/") = true
  · rw [if_pos hassets] at hasset ⊢
    rw [Option.some.inj hasset]
  · rw [if_neg hassets] at hasset ⊢
    by_cases hgui : startsWith path guiAssetPrefix = true
    · rw [if_pos hgui] at hasset ⊢
      obtain rfl := Option.some.inj hasset
      obtain ⟨rest, rfl⟩ := startsWith_iff.mp hgui
      rfl
    · rw [if_neg hgui] at hasset ⊢
      split
      · next hlegacy =>
          rw [if_pos hlegacy] at hasset
          rw [Option.some.inj hasset]
      · next hlegacy =>
          rw [if_neg hlegacy] at hasset
          cases hasset

/-- Every answer is confined below every root just when an asset that is asked for with
`GET` stays inside the directories that are served. -/
theorem served_files_confined_iff (request : HttpRequest) :
    (∀ root, Confined root (handle request)) ↔
      (request.method = asciiBytes "GET" → ∀ asset, assetPath request.path = some asset →
        staysInside (components (cString (frontendRoot ++ [slash] ++ asset))) = true) := by
  constructor
  · intro hconfined hget asset hasset
    unfold handle at hconfined
    rw [if_pos hget, handleGet_asset request.query hasset] at hconfined
    exact (confined_file_iff _).mp hconfined
  · intro hinside root
    unfold handle
    split
    · next hget =>
        cases hasset : assetPath request.path with
        | none => exact confined_handleGet request.query hasset root
        | some asset =>
            rw [handleGet_asset request.query hasset]
            exact (confined_file_iff _).mpr (hinside hget asset hasset) root
    · split
      · exact confined_openProject _ root
      · trivial

/-- The assets of the page are confined; a path that climbs is not. -/
example : staysInside (components (cString (frontendRoot ++ [slash] ++
      asciiBytes "assets/../assets/app.js"))) = true ∧
    staysInside (components (cString (frontendRoot ++ [slash] ++
      asciiBytes "assets/../../../etc/passwd"))) = false := by
  decide +kernel

/-- A file of the host is served below a root. -/
theorem passwd_not_confined : ¬ ∀ (request : HttpRequest) (root : RootDir),
    Confined root (handle request) := by
  intro hconfined
  have hfile : handle ⟨asciiBytes "GET", asciiBytes "/assets/../../../etc/passwd", [], []⟩ =
      .file (frontendRoot ++ [slash] ++ asciiBytes "assets/../../../etc/passwd") := by
    decide +kernel
  have hinside := hconfined ⟨asciiBytes "GET", asciiBytes "/assets/../../../etc/passwd", [], []⟩
  rw [hfile, confined_file_iff] at hinside
  revert hinside
  decide +kernel

end AudioStudio.Gui
