import AudioStudio.Gui.ProjectPath

/-!
# Sanitising twice

A sanitised path is a relative path below the configuration directory.  It is sanitised to
itself unless a prefix or a short name that was not there before comes up again.
-/

namespace AudioStudio.Gui

open AudioStudio.LittleEndian
open AudioStudio.Paths

/-! ## What is left to do -/

/-- The suffix is added when it is missing. -/
def withJsonSuffix (path : Bytes) : Bytes :=
  if hasJsonSuffix path then path else path ++ jsonSuffix

/-- The components below the platform directory, when they name it. -/
def dropPlatform : List Bytes → List Bytes
  | first :: second :: third :: rest =>
      if first = asciiBytes "configs" ∧ second = asciiBytes "platform" then third :: rest
      else first :: second :: third :: rest
  | parts => parts

/-- The components below the legacy directory, when they name it. -/
def dropLegacy : List Bytes → List Bytes
  | first :: second :: rest =>
      if first = asciiBytes "config" then second :: rest else first :: second :: rest
  | parts => parts

def strip (parts : List Bytes) : List Bytes := dropLegacy (dropPlatform parts)

/-- A path that is sanitised to one with a short name, or with a prefix still before it. -/
def Restarts (path : Bytes) : Prop :=
  path = asciiBytes "A2" ∨ path = asciiBytes "simulator" ∨
    (∀ part ∈ components (withJsonSuffix path), isSafeConfigPathComponent part = true) ∧
      strip (components (withJsonSuffix path)) ≠ components (withJsonSuffix path)

/-- A relative path of safe components that are separated by single slashes, to a JSON file. -/
structure IsConfigPath (path : Bytes) : Prop where
  parts : ∃ parts, parts ≠ [] ∧ path = joinComponents parts ∧
    ∀ part ∈ parts, part ≠ [] ∧ part ≠ dot ∧ part ≠ dotDot ∧ ∀ c ∈ part, isSafeChar c = true
  json : jsonSuffix <:+ path

/-! ## Components -/

section Components

variable {parts : List Bytes}

def Separate (parts : List Bytes) : Prop :=
  ∀ part ∈ parts, part ≠ [] ∧ slash ∉ part

theorem separate_components (path : Bytes) : Separate (components path) :=
  fun _ hmem => (slash_notMem_components hmem).symm

theorem joinComponents_cons {part : Bytes} (hne : parts ≠ []) :
    joinComponents (part :: parts) = part ++ slash :: joinComponents parts := by
  cases parts with
  | nil => exact absurd rfl hne
  | cons next rest => rw [joinComponents, List.append_assoc, List.singleton_append]

theorem joinComponents_concat (front : List Bytes) (last : Bytes) :
    last <:+ joinComponents (front ++ [last]) := by
  induction front with
  | nil => exact List.suffix_rfl
  | cons part front ih =>
      rw [List.cons_append, joinComponents_cons (by simp)]
      exact ih.trans ((List.suffix_cons _ _).trans (List.suffix_append _ _))

/-- Two texts agree up to their first slashes. -/
theorem eq_of_append_slash {name part rest rest' : Bytes} (hname : slash ∉ name)
    (hpart : slash ∉ part) (heq : name ++ slash :: rest = part ++ slash :: rest') : name = part := by
  have htake {text : Bytes} (htext : slash ∉ text) (rest : Bytes) :
      (text ++ slash :: rest).takeWhile (· ≠ slash) = text := by
    rw [List.takeWhile_append_of_pos, List.takeWhile_cons_of_neg, List.append_nil]
    · simp
    · intro c hc
      simpa using fun hslash : c = slash => htext (hslash ▸ hc)
  rw [← htake hname rest, heq, htake hpart rest']

theorem startsWith_join {name : Bytes} (hname : slash ∉ name) (hparts : Separate parts) :
    startsWith (joinComponents parts) (name ++ [slash]) = true ↔
      ∃ rest, rest ≠ [] ∧ parts = name :: rest := by
  rw [startsWith, List.isPrefixOf_iff_prefix]
  constructor
  · rintro ⟨behind, hbehind⟩
    rw [List.append_assoc, List.singleton_append] at hbehind
    match parts, hparts with
    | [], _ => simp [joinComponents] at hbehind
    | [part], hparts =>
        have hslash : slash ∈ part := by
          rw [joinComponents] at hbehind
          rw [← hbehind]
          simp
        exact absurd hslash (hparts part List.mem_cons_self).2
    | part :: next :: rest, hparts =>
        rw [joinComponents_cons (List.cons_ne_nil _ _)] at hbehind
        have hsame := eq_of_append_slash hname (hparts part List.mem_cons_self).2 hbehind
        exact ⟨next :: rest, List.cons_ne_nil _ _, by rw [hsame]⟩
  · rintro ⟨rest, hne, rfl⟩
    rw [joinComponents_cons hne]
    exact ⟨joinComponents rest, by simp⟩

theorem startsWith_platform (hparts : Separate parts) :
    startsWith (joinComponents parts) (asciiBytes "configs/platform/") = true ↔
      ∃ rest, rest ≠ [] ∧ parts = asciiBytes "configs" :: asciiBytes "platform" :: rest := by
  have htext : asciiBytes "configs/platform/" =
      asciiBytes "configs" ++ slash :: (asciiBytes "platform" ++ [slash]) := by decide
  constructor
  · intro hstarts
    have hfirst : startsWith (joinComponents parts) (asciiBytes "configs" ++ [slash]) = true := by
      rw [startsWith, List.isPrefixOf_iff_prefix] at hstarts ⊢
      exact List.IsPrefix.trans ⟨asciiBytes "platform" ++ [slash], by decide⟩ hstarts
    obtain ⟨behind, hne, rfl⟩ := (startsWith_join (by decide) hparts).mp hfirst
    have hbehind : Separate behind := fun part hmem => hparts part (List.mem_cons_of_mem _ hmem)
    rw [startsWith, List.isPrefixOf_iff_prefix, joinComponents_cons hne, htext,
      List.prefix_append_right_inj, List.prefix_cons_inj, ← List.isPrefixOf_iff_prefix] at hstarts
    obtain ⟨rest, hrest, rfl⟩ := (startsWith_join (by decide) hbehind).mp hstarts
    exact ⟨rest, hrest, rfl⟩
  · rintro ⟨rest, hne, rfl⟩
    rw [startsWith, List.isPrefixOf_iff_prefix, joinComponents_cons (List.cons_ne_nil _ _),
      joinComponents_cons hne, htext, List.prefix_append_right_inj, List.prefix_cons_inj]
    exact ⟨joinComponents rest, by simp⟩

theorem dropStart_platform (hparts : Separate parts) :
    dropStart (asciiBytes "configs/platform/") (joinComponents parts) =
      joinComponents (dropPlatform parts) := by
  rw [dropStart]
  split
  · next hstarts =>
      obtain ⟨rest, hne, rfl⟩ := (startsWith_platform hparts).mp hstarts
      rw [joinComponents_cons (List.cons_ne_nil _ _), joinComponents_cons hne]
      cases rest with
      | nil => exact absurd rfl hne
      | cons third rest => rfl
  · next hnot =>
      have hsame : dropPlatform parts = parts := by
        match parts, hparts, hnot with
        | [], _, _ => rfl
        | [first], _, _ => rfl
        | [first, second], _, _ => rfl
        | first :: second :: third :: rest, hparts, hnot =>
            rw [dropPlatform, if_neg]
            rintro ⟨rfl, rfl⟩
            exact hnot ((startsWith_platform hparts).mpr ⟨_, List.cons_ne_nil _ _, rfl⟩)
      rw [hsame]

theorem dropStart_legacy (hparts : Separate parts) :
    dropStart (asciiBytes "config/") (joinComponents parts) =
      joinComponents (dropLegacy parts) := by
  have htext : asciiBytes "config/" = asciiBytes "config" ++ [slash] := by decide
  have hstart := startsWith_join (show slash ∉ asciiBytes "config" by decide) hparts
  rw [dropStart, htext]
  split
  · next hstarts =>
      obtain ⟨rest, hne, rfl⟩ := hstart.mp hstarts
      rw [joinComponents_cons hne]
      cases rest with
      | nil => exact absurd rfl hne
      | cons second rest => rfl
  · next hnot =>
      have hsame : dropLegacy parts = parts := by
        match parts, hstart, hnot with
        | [], _, _ => rfl
        | [first], _, _ => rfl
        | first :: second :: rest, hstart, hnot =>
            rw [dropLegacy, if_neg]
            rintro rfl
            exact hnot (hstart.mpr ⟨_, List.cons_ne_nil _ _, rfl⟩)
      rw [hsame]

theorem dropPlatform_suffix (parts : List Bytes) : dropPlatform parts <:+ parts := by
  match parts with
  | [] => exact List.suffix_rfl
  | [first] => exact List.suffix_rfl
  | [first, second] => exact List.suffix_rfl
  | first :: second :: third :: rest =>
      rw [dropPlatform]
      split
      · exact ⟨[first, second], rfl⟩
      · exact List.suffix_rfl

theorem dropLegacy_suffix (parts : List Bytes) : dropLegacy parts <:+ parts := by
  match parts with
  | [] => exact List.suffix_rfl
  | [first] => exact List.suffix_rfl
  | first :: second :: rest =>
      rw [dropLegacy]
      split
      · exact List.suffix_cons _ _
      · exact List.suffix_rfl

theorem strip_suffix (parts : List Bytes) : strip parts <:+ parts :=
  (dropLegacy_suffix _).trans (dropPlatform_suffix parts)

theorem dropPlatform_ne_nil (hne : parts ≠ []) : dropPlatform parts ≠ [] := by
  match parts with
  | [] => exact hne
  | [first] => exact hne
  | [first, second] => exact hne
  | first :: second :: third :: rest =>
      rw [dropPlatform]
      split
      · exact List.cons_ne_nil _ _
      · exact hne

theorem dropLegacy_ne_nil (hne : parts ≠ []) : dropLegacy parts ≠ [] := by
  match parts with
  | [] => exact hne
  | [first] => exact hne
  | first :: second :: rest =>
      rw [dropLegacy]
      split
      · exact List.cons_ne_nil _ _
      · exact hne

theorem strip_ne_nil (hne : parts ≠ []) : strip parts ≠ [] :=
  dropLegacy_ne_nil (dropPlatform_ne_nil hne)

theorem mem_joinComponents {c : UInt8} (hmem : c ∈ joinComponents parts) :
    c = slash ∨ ∃ part ∈ parts, c ∈ part := by
  induction parts with
  | nil => cases hmem
  | cons part rest ih =>
      cases rest with
      | nil => exact .inr ⟨part, List.mem_cons_self, hmem⟩
      | cons next rest =>
          rw [joinComponents_cons (List.cons_ne_nil _ _), List.mem_append, List.mem_cons] at hmem
          rcases hmem with hfirst | hslash | hlater
          · exact .inr ⟨part, List.mem_cons_self, hfirst⟩
          · exact .inl hslash
          · rcases ih hlater with hslash | ⟨other, hother, hc⟩
            · exact .inl hslash
            · exact .inr ⟨other, List.mem_cons_of_mem _ hother, hc⟩

theorem joinComponents_ne_nil (hparts : Separate parts) (hne : parts ≠ []) :
    joinComponents parts ≠ [] := by
  intro hnil
  have hcomponents := components_joinComponents hparts
  rw [hnil] at hcomponents
  exact hne hcomponents.symm

theorem dropWhile_join (hparts : Separate parts) :
    (joinComponents parts).dropWhile (· = slash) = joinComponents parts := by
  match parts, hparts with
  | [], _ => rfl
  | part :: rest, hparts =>
      obtain ⟨hpart, hslash⟩ := hparts part List.mem_cons_self
      have hbegins : ∃ behind, joinComponents (part :: rest) = part ++ behind := by
        cases rest with
        | nil => exact ⟨[], (List.append_nil part).symm⟩
        | cons next rest => exact ⟨_, joinComponents_cons (List.cons_ne_nil _ _)⟩
      obtain ⟨behind, hbegins⟩ := hbegins
      rw [hbegins]
      cases part with
      | nil => exact absurd rfl hpart
      | cons c part =>
          rw [List.cons_append, List.dropWhile_cons_of_neg]
          simpa using fun hc : c = slash => hslash (hc ▸ List.mem_cons_self)

theorem Separate.of_suffix {rest : List Bytes} (hparts : Separate parts) (hsuffix : rest <:+ parts) :
    Separate rest :=
  fun part hmem => hparts part (hsuffix.subset hmem)

/-- Normalising a path of safe components drops the prefixes from its components. -/
theorem normalizedConfigPath_join (hsafe : ∀ part ∈ parts, isSafeConfigPathComponent part = true)
    (hparts : Separate parts) (hne : parts ≠ []) :
    normalizedConfigPath (joinComponents parts) = joinComponents (strip parts) := by
  have hplain : (joinComponents parts).map (fun c => if c = backSlash then slash else c) =
      joinComponents parts := by
    refine (List.map_congr_left fun c hmem => ?_).trans (List.map_id _)
    rw [if_neg]
    · rfl
    · rintro rfl
      rcases mem_joinComponents hmem with hslash | ⟨part, hpart, hc⟩
      · exact absurd hslash (by decide)
      · have hall := (of_decide_eq_true (hsafe part hpart)).2.2.2
        exact absurd (List.all_eq_true.mp hall _ hc) (by decide)
  have hplatform := hparts.of_suffix (dropPlatform_suffix parts)
  rw [normalizedConfigPath, if_neg (joinComponents_ne_nil hparts hne), hplain,
    dropStart_platform hparts, dropStart_legacy hplatform]
  exact dropWhile_join (hparts.of_suffix (strip_suffix parts))

/-! ## The suffix -/

/-- The last component is a JSON file. -/
def EndsJson (parts : List Bytes) : Prop :=
  ∃ front last, parts = front ++ [last] ∧ jsonSuffix <:+ last

theorem EndsJson.join (hends : EndsJson parts) : jsonSuffix <:+ joinComponents parts := by
  obtain ⟨front, last, rfl, hlast⟩ := hends
  exact hlast.trans (joinComponents_concat front last)

theorem EndsJson.of_suffix {rest : List Bytes} (hends : EndsJson parts) (hsuffix : rest <:+ parts)
    (hne : rest ≠ []) : EndsJson rest := by
  obtain ⟨front, last, rfl, hlast⟩ := hends
  obtain ⟨before, hbefore⟩ := hsuffix
  refine ⟨rest.dropLast, rest.getLast hne, (List.dropLast_append_getLast hne).symm, ?_⟩
  rw [← List.dropLast_append_getLast hne, ← List.append_assoc] at hbefore
  have hsame := (List.append_inj' hbefore rfl).2
  rw [(List.cons.inj hsame).1]
  exact hlast

/-- What stands behind the last slash belongs to the last component. -/
theorem splitFrom_append_tail {current front tail : Bytes} (htail : slash ∉ tail)
    (hne : tail ≠ []) : ∃ before last, splitFrom current (front ++ tail) = before ++ [last ++ tail] := by
  induction front generalizing current with
  | nil =>
      refine ⟨[], current, ?_⟩
      exact splitFrom_of_no_slash htail (by simp [hne])
  | cons c front ih =>
      rw [List.cons_append, splitFrom]
      split
      · split
        · exact ih
        · obtain ⟨before, last, hsplit⟩ := @ih []
          exact ⟨current :: before, last, by rw [hsplit, List.cons_append]⟩
      · exact ih

theorem slash_notMem_jsonSuffix : slash ∉ jsonSuffix := by
  decide

theorem withJsonSuffix_suffix (path : Bytes) : jsonSuffix <:+ withJsonSuffix path := by
  rw [withJsonSuffix]
  split
  · next hsuffix => exact List.isSuffixOf_iff_suffix.mp hsuffix
  · exact List.suffix_append path jsonSuffix

theorem endsJson_components (path : Bytes) : EndsJson (components (withJsonSuffix path)) := by
  obtain ⟨front, hfront⟩ := withJsonSuffix_suffix path
  obtain ⟨before, last, hsplit⟩ := @splitFrom_append_tail [] front jsonSuffix
    slash_notMem_jsonSuffix (by decide)
  rw [← hfront]
  exact ⟨before, last ++ jsonSuffix, hsplit, List.suffix_append last jsonSuffix⟩

theorem EndsJson.ne_nil (hends : EndsJson parts) : parts ≠ [] := by
  obtain ⟨front, last, rfl, -⟩ := hends
  simp

/-- A path to a JSON file with no slash before it has one component only when it has none at all. -/
theorem eq_of_components {path name : Bytes} (hjson : jsonSuffix <:+ path)
    (hhead : path.head? ≠ some slash) (hone : components path = [name]) : path = name := by
  have hnone : slash ∉ path := by
    intro hmem
    obtain ⟨left, right, rfl⟩ := List.append_of_mem hmem
    rw [components_append_slash] at hone
    have hleft : components left ≠ [] := by
      cases left with
      | nil => exact absurd rfl hhead
      | cons c left =>
          have hc : c ≠ slash := fun hslash => hhead (by rw [hslash]; rfl)
          obtain ⟨component, hcomponent, -⟩ := exists_component_of_mem hc
            (List.mem_cons_self (a := c) (l := left))
          exact List.ne_nil_of_mem hcomponent
    have hright : components right ≠ [] := by
      have hsuffix : jsonSuffix <:+ right := by
        rcases List.suffix_or_suffix_of_suffix hjson (List.suffix_append left (slash :: right)) with
          hshort | hlong
        · rcases List.suffix_cons_iff.mp hshort with heq | hshort
          · exact absurd (heq ▸ List.mem_cons_self) slash_notMem_jsonSuffix
          · exact hshort
        · exact absurd (hlong.subset List.mem_cons_self) slash_notMem_jsonSuffix
      obtain ⟨component, hcomponent, -⟩ := exists_component_of_mem (show (0x2e : UInt8) ≠ slash by decide)
        (hsuffix.subset (show (0x2e : UInt8) ∈ jsonSuffix by decide))
      exact List.ne_nil_of_mem hcomponent
    have hlength := congrArg List.length hone
    rw [List.length_append, List.length_singleton] at hlength
    have hleft := List.length_pos_iff.mpr hleft
    have hright := List.length_pos_iff.mpr hright
    omega
  have hne : path ≠ [] := by
    rintro rfl
    cases hone
  rw [components_of_no_slash hnone hne] at hone
  exact (List.cons.inj hone).1

end Components

/-! ## Sanitising a sanitised path -/

section Sanitise

variable {parts : List Bytes}

/-- Components of a JSON file, all of them safe. -/
structure SafeParts (parts : List Bytes) : Prop where
  safe : ∀ part ∈ parts, isSafeConfigPathComponent part = true
  separate : Separate parts
  json : EndsJson parts

theorem SafeParts.strip (hparts : SafeParts parts) : SafeParts (strip parts) where
  safe part hmem := hparts.safe part ((strip_suffix parts).subset hmem)
  separate := hparts.separate.of_suffix (strip_suffix parts)
  json := hparts.json.of_suffix (strip_suffix parts) (strip_ne_nil hparts.json.ne_nil)

theorem safeConfigPath_of_safe (hne : parts ≠ [])
    (hsafe : ∀ part ∈ parts, isSafeConfigPathComponent part = true) :
    safeConfigPath parts = joinComponents parts := by
  rw [safeConfigPath, if_neg]
  rintro (hnil | hany)
  · exact hne hnil
  · obtain ⟨part, hmem, hfails⟩ := List.any_eq_true.mp hany
    rw [hsafe part hmem] at hfails
    cases hfails

theorem safeConfigPath_of_not_safe
    (hnotsafe : ¬∀ part ∈ parts, isSafeConfigPathComponent part = true) :
    safeConfigPath parts = defaultProjectConfigPath := by
  rw [safeConfigPath, if_pos]
  push Not at hnotsafe
  obtain ⟨part, hmem, hfails⟩ := hnotsafe
  exact .inr (List.any_eq_true.mpr ⟨part, hmem, by simp [hfails]⟩)

theorem sanitize_join (hparts : SafeParts parts) :
    sanitizeProjectConfigPath (joinComponents parts) =
      if joinComponents (strip parts) = asciiBytes "A2.json" then defaultProjectConfigPath
      else if joinComponents (strip parts) = asciiBytes "simulator.json" then
        asciiBytes "simulator/simulator.json"
      else joinComponents (strip parts) := by
  have hstrip := hparts.strip
  have hne := hstrip.json.ne_nil
  have hjson : hasJsonSuffix (joinComponents (strip parts)) = true :=
    List.isSuffixOf_iff_suffix.mpr hstrip.json.join
  rw [sanitizeProjectConfigPath,
    normalizedConfigPath_join hparts.safe hparts.separate hparts.json.ne_nil,
    components_joinComponents hstrip.separate, safeConfigPath_of_safe hne hstrip.safe, if_pos hjson]
  simp only [joinComponents_ne_nil hstrip.separate hne, false_or]

/-- What is left of an input is in one of the forms that are handled one after another. -/
theorem sanitize_eq (input : Bytes) :
    sanitizeProjectConfigPath input =
      if normalizedConfigPath input = [] ∨ normalizedConfigPath input = asciiBytes "A2.json" then
        defaultProjectConfigPath
      else if normalizedConfigPath input = asciiBytes "simulator.json" then
        asciiBytes "simulator/simulator.json"
      else safeConfigPath (components (withJsonSuffix (normalizedConfigPath input))) := by
  rw [sanitizeProjectConfigPath, withJsonSuffix]
  split
  · rfl
  split
  · rfl
  split
  · rfl
  · rfl

/-- A path that is sanitised to one short name was that name without its suffix. -/
theorem eq_of_single {path name : Bytes} (hhead : path.head? ≠ some slash)
    (hnot : path ≠ name ++ jsonSuffix)
    (hone : components (withJsonSuffix path) = [name ++ jsonSuffix]) : path = name := by
  have hhead' : (withJsonSuffix path).head? ≠ some slash := by
    rw [withJsonSuffix]
    split
    · exact hhead
    · cases path with
      | nil => decide
      | cons c path => exact hhead
  have hsame := eq_of_components (withJsonSuffix_suffix path) hhead' hone
  rw [withJsonSuffix] at hsame
  split at hsame
  · exact absurd hsame hnot
  · exact List.append_cancel_right hsame

theorem normalizedConfigPath_head (input : Bytes) :
    (normalizedConfigPath input).head? ≠ some slash := by
  rw [normalizedConfigPath]
  intro hhead
  have hfirst := List.head?_dropWhile_not (· = slash)
    (dropStart (asciiBytes "config/") (dropStart (asciiBytes "configs/platform/")
      ((if input = [] then defaultProjectConfigPath else input).map
        fun c => if c = backSlash then slash else c)))
  rw [hhead] at hfirst
  simp at hfirst

/-- Safe components are sanitised to themselves unless a prefix or a short name is left. -/
theorem sanitize_join_eq_iff (hparts : SafeParts parts) :
    sanitizeProjectConfigPath (joinComponents parts) = joinComponents parts ↔
      strip parts = parts ∧ parts ≠ [asciiBytes "A2.json"] ∧
        parts ≠ [asciiBytes "simulator.json"] := by
  have hjoin := components_joinComponents hparts.separate
  have hone (name : Bytes) (hname : components name = [name]) :
      joinComponents parts = name ↔ parts = [name] := by
    constructor
    · intro heq
      rw [← hjoin, heq, hname]
    · rintro rfl
      rfl
  have hA2 := hone (asciiBytes "A2.json") (by decide)
  have hsimulator := hone (asciiBytes "simulator.json") (by decide)
  rw [sanitize_join hparts]
  by_cases hstrip : strip parts = parts
  · rw [hstrip, and_iff_right rfl, Ne, Ne, ← hA2, ← hsimulator]
    split
    · next heq =>
        rw [heq]
        exact iff_of_false (by decide) fun hboth => hboth.1 rfl
    · next hother =>
        split
        · next heq =>
            rw [heq]
            exact iff_of_false (by decide) fun hboth => hboth.2 rfl
        · next hother' => exact iff_of_true rfl ⟨hother, hother'⟩
  · refine iff_of_false (fun heq => hstrip ?_) fun hall => hstrip hall.1
    split at heq
    · rw [← hjoin, ← heq]
      decide
    split at heq
    · rw [← hjoin, ← heq]
      decide
    · rw [← hjoin, ← heq, components_joinComponents hparts.strip.separate]
      rw [← heq, components_joinComponents hparts.strip.separate] at hjoin
      exact congrArg strip hjoin

theorem sanitize_stable_iff (input : Bytes) :
    sanitizeProjectConfigPath (sanitizeProjectConfigPath input) = sanitizeProjectConfigPath input ↔
      ¬Restarts (normalizedConfigPath input) := by
  have hhead := normalizedConfigPath_head input
  rw [sanitize_eq input]
  generalize normalizedConfigPath input = path at hhead ⊢
  split
  · next hdefault =>
      refine iff_of_true (by decide) ?_
      rcases hdefault with rfl | rfl
      · unfold Restarts
        decide
      · unfold Restarts
        decide
  next hdefault =>
  obtain ⟨-, hshort⟩ := not_or.mp hdefault
  split
  · next hsimulator =>
      subst hsimulator
      refine iff_of_true (by decide) ?_
      unfold Restarts
      decide
  next hsimulator =>
  by_cases hsafe : ∀ part ∈ components (withJsonSuffix path), isSafeConfigPathComponent part = true
  · have hparts : SafeParts (components (withJsonSuffix path)) :=
      ⟨hsafe, separate_components _, endsJson_components path⟩
    rw [safeConfigPath_of_safe hparts.json.ne_nil hsafe, sanitize_join_eq_iff hparts]
    constructor
    · rintro ⟨hstrip, hA2, hother⟩ (rfl | rfl | ⟨-, hchanged⟩)
      · exact hA2 (by decide)
      · exact hother (by decide)
      · exact hchanged hstrip
    · intro hnot
      refine ⟨?_, fun hone => ?_, fun hone => ?_⟩
      · by_contra hchanged
        exact hnot (.inr (.inr ⟨hsafe, hchanged⟩))
      · exact hnot (.inl (eq_of_single hhead hshort hone))
      · exact hnot (.inr (.inl (eq_of_single hhead hsimulator hone)))
  · rw [safeConfigPath_of_not_safe hsafe]
    refine iff_of_true (by decide) ?_
    rintro (rfl | rfl | ⟨hall, -⟩)
    · exact hsafe (by decide)
    · exact hsafe (by decide)
    · exact hsafe hall

theorem isConfigPath_join (hparts : SafeParts parts) : IsConfigPath (joinComponents parts) where
  parts := by
    refine ⟨parts, hparts.json.ne_nil, rfl, fun part hmem => ?_⟩
    obtain ⟨hne, hdot, hdotDot, hall⟩ := of_decide_eq_true (hparts.safe part hmem)
    exact ⟨hne, hdot, hdotDot, List.all_eq_true.mp hall⟩
  json := hparts.json.join

theorem isConfigPath_sanitize (input : Bytes) : IsConfigPath (sanitizeProjectConfigPath input) := by
  have hfixed {path : Bytes} (parts : List Bytes) (hpath : path = joinComponents parts)
      (hsafe : ∀ part ∈ parts, isSafeConfigPathComponent part = true)
      (hseparate : parts.all fun part => part ≠ [] ∧ slash ∉ part) (hjson : EndsJson parts) :
      IsConfigPath path := by
    rw [hpath]
    refine isConfigPath_join ⟨hsafe, fun part hmem => ?_, hjson⟩
    exact of_decide_eq_true (List.all_eq_true.mp hseparate part hmem)
  have hdefault : IsConfigPath defaultProjectConfigPath :=
    hfixed [asciiBytes "a2", asciiBytes "A2.json"] (by decide) (by decide) (by decide)
      ⟨[asciiBytes "a2"], asciiBytes "A2.json", rfl, ⟨asciiBytes "A2", by decide⟩⟩
  rw [sanitize_eq input]
  split
  · exact hdefault
  split
  · exact hfixed [asciiBytes "simulator", asciiBytes "simulator.json"] (by decide)
      (by decide) (by decide)
      ⟨[asciiBytes "simulator"], asciiBytes "simulator.json", rfl, ⟨asciiBytes "simulator", by decide⟩⟩
  · by_cases hsafe : ∀ part ∈ components (withJsonSuffix (normalizedConfigPath input)),
        isSafeConfigPathComponent part = true
    · have hjson := endsJson_components (normalizedConfigPath input)
      rw [safeConfigPath_of_safe hjson.ne_nil hsafe]
      exact isConfigPath_join ⟨hsafe, separate_components _, hjson⟩
    · rw [safeConfigPath_of_not_safe hsafe]
      exact hdefault

/-- A sanitised path is safe, and sanitising it again changes nothing exactly when the input
does not start over. -/
theorem sanitized_path_iff (input : Bytes) :
    IsConfigPath (sanitizeProjectConfigPath input) ∧
      (sanitizeProjectConfigPath (sanitizeProjectConfigPath input) =
          sanitizeProjectConfigPath input ↔ ¬Restarts (normalizedConfigPath input)) :=
  ⟨isConfigPath_sanitize input, sanitize_stable_iff input⟩

/-- `A2` is reported as `A2.json`, and that opens the default project. -/
theorem short_name_moves :
    sanitizeProjectConfigPath (asciiBytes "A2") = asciiBytes "A2.json" ∧
      sanitizeProjectConfigPath (asciiBytes "A2.json") = asciiBytes "a2/A2.json" ∧
      sanitizeProjectConfigPath (asciiBytes "config/config/x.json") = asciiBytes "config/x.json" ∧
      sanitizeProjectConfigPath (asciiBytes "config/x.json") = asciiBytes "x.json" := by
  decide

end Sanitise

end AudioStudio.Gui
