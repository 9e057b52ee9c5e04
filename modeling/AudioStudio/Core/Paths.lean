import AudioStudio.Core.Text
import Mathlib.Algebra.Order.BigOperators.Group.List

/-!
# Paths

A path is a byte string; its components stand between slashes.  Lexical normalisation
drops `.` and lets `..` take the component before it.
-/

namespace AudioStudio.Paths

open LittleEndian

def slash : UInt8 := 0x2f
def dot : Bytes := [0x2e]
def dotDot : Bytes := [0x2e, 0x2e]

/-- The components of a text, with what has been read of the current one. -/
def splitFrom (current : Bytes) : Bytes → List Bytes
  | [] => if current = [] then [] else [current]
  | c :: rest =>
      if c = slash then
        if current = [] then splitFrom [] rest else current :: splitFrom [] rest
      else splitFrom (current ++ [c]) rest

def components (path : Bytes) : List Bytes :=
  splitFrom [] path

/-- The components with slashes between them. -/
def joinComponents : List Bytes → Bytes
  | [] => []
  | [component] => component
  | component :: next :: rest => component ++ [slash] ++ joinComponents (next :: rest)

/-- `std::filesystem::path::operator/` for a relative right side. -/
def join (path rest : Bytes) : Bytes :=
  if path = [] then rest
  else if path.getLast? = some slash then path ++ rest
  else path ++ [slash] ++ rest

/-- What a call of the C library sees of a string. -/
def cString (text : Bytes) : Bytes :=
  text.takeWhile (· ≠ 0)

def isAbsolute (path : Bytes) : Bool :=
  path.head? = some slash

/-- One component of a normalisation; the stack has its last component first. -/
def push (absolute : Bool) (stack : List Bytes) (component : Bytes) : List Bytes :=
  if component = dot then stack
  else if component = dotDot then
    match stack with
    | [] => if absolute then [] else [dotDot]
    | last :: below => if last = dotDot then dotDot :: last :: below else below
  else component :: stack

def normalize (path : Bytes) : List Bytes :=
  ((components path).foldl (push (isAbsolute path)) []).reverse

/-- The normal form of a path lies in that of a directory. -/
def Under (directory path : Bytes) : Prop :=
  isAbsolute path = isAbsolute directory ∧ normalize directory <+: normalize path

/-! ## Components -/

theorem splitFrom_append_slash (current left right : Bytes) :
    splitFrom current (left ++ slash :: right) = splitFrom current left ++ splitFrom [] right := by
  induction left generalizing current with
  | nil =>
      have hslash : splitFrom current (slash :: right) =
          if current = [] then splitFrom [] right else current :: splitFrom [] right := if_pos rfl
      have hend : splitFrom current [] = if current = [] then [] else [current] := rfl
      rw [List.nil_append, hslash, hend]
      by_cases hcurrent : current = []
      · rw [if_pos hcurrent, if_pos hcurrent, List.nil_append]
      · rw [if_neg hcurrent, if_neg hcurrent, List.singleton_append]
  | cons c rest ih =>
      rw [List.cons_append, splitFrom, splitFrom]
      by_cases hslash : c = slash
      · by_cases hcurrent : current = []
        · simp [hslash, hcurrent, ih]
        · simp [hslash, hcurrent, ih]
      · simp [hslash, ih]

theorem components_append_slash (left right : Bytes) :
    components (left ++ slash :: right) = components left ++ components right :=
  splitFrom_append_slash [] left right

/-- A text without slashes is one component. -/
theorem splitFrom_of_no_slash {current text : Bytes} (htext : slash ∉ text)
    (hne : current ++ text ≠ []) : splitFrom current text = [current ++ text] := by
  induction text generalizing current with
  | nil =>
      rw [List.append_nil] at hne ⊢
      exact if_neg hne
  | cons c rest ih =>
      rw [splitFrom, if_neg (fun hslash : c = slash => htext (hslash ▸ List.mem_cons_self))]
      rw [ih (fun hmem => htext (List.mem_cons_of_mem c hmem)) (by simp), List.append_assoc]
      rfl

theorem components_of_no_slash {text : Bytes} (htext : slash ∉ text) (hne : text ≠ []) :
    components text = [text] :=
  splitFrom_of_no_slash htext hne

/-- No component holds a slash. -/
theorem slash_notMem_splitFrom {current text component : Bytes} (hcurrent : slash ∉ current)
    (hmem : component ∈ splitFrom current text) : slash ∉ component ∧ component ≠ [] := by
  induction text generalizing current with
  | nil =>
      rw [splitFrom] at hmem
      split at hmem
      · cases hmem
      · next hne =>
          obtain rfl := List.mem_singleton.mp hmem
          exact ⟨hcurrent, hne⟩
  | cons c rest ih =>
      rw [splitFrom] at hmem
      split at hmem
      · split at hmem
        · exact ih (List.not_mem_nil) hmem
        · next hne =>
            rcases List.mem_cons.mp hmem with rfl | hrest
            · exact ⟨hcurrent, hne⟩
            · exact ih (List.not_mem_nil) hrest
      · next hc =>
          refine ih ?_ hmem
          intro hslash
          rcases List.mem_append.mp hslash with hold | hnew
          · exact hcurrent hold
          · exact hc (List.mem_singleton.mp hnew).symm

theorem slash_notMem_components {text component : Bytes} (hmem : component ∈ components text) :
    slash ∉ component ∧ component ≠ [] :=
  slash_notMem_splitFrom List.not_mem_nil hmem

/-- Every other character stands in a component. -/
theorem exists_splitFrom_of_mem {c : UInt8} {current text : Bytes} (hc : c ≠ slash)
    (hmem : c ∈ current ++ text) : ∃ component ∈ splitFrom current text, c ∈ component := by
  induction text generalizing current with
  | nil =>
      rw [List.append_nil] at hmem
      refine ⟨current, ?_, hmem⟩
      rw [splitFrom, if_neg (List.ne_nil_of_mem hmem)]
      exact List.mem_singleton_self current
  | cons next rest ih =>
      rw [splitFrom]
      by_cases hnext : next = slash
      · rw [if_pos hnext]
        rcases List.mem_append.mp hmem with hcurrent | hlater
        · rw [if_neg (List.ne_nil_of_mem hcurrent)]
          exact ⟨current, List.mem_cons_self, hcurrent⟩
        · rcases List.mem_cons.mp hlater with rfl | hrest
          · exact absurd hnext hc
          · obtain ⟨component, hcomponent, hin⟩ := ih (List.mem_append_right [] hrest)
            split
            · exact ⟨component, hcomponent, hin⟩
            · exact ⟨component, List.mem_cons_of_mem current hcomponent, hin⟩
      · rw [if_neg hnext]
        apply ih
        rw [List.append_assoc]
        exact hmem

theorem exists_component_of_mem {c : UInt8} {text : Bytes} (hc : c ≠ slash) (hmem : c ∈ text) :
    ∃ component ∈ components text, c ∈ component :=
  exists_splitFrom_of_mem hc hmem

theorem mem_join {c : UInt8} {path rest : Bytes} (hmem : c ∈ join path rest) :
    c ∈ path ∨ c = slash ∨ c ∈ rest := by
  unfold join at hmem
  split at hmem
  · exact .inr (.inr hmem)
  · split at hmem
    · rcases List.mem_append.mp hmem with hpath | hrest
      · exact .inl hpath
      · exact .inr (.inr hrest)
    · rcases List.mem_append.mp hmem with hfront | hrest
      · rcases List.mem_append.mp hfront with hpath | hslash
        · exact .inl hpath
        · exact .inr (.inl (List.mem_singleton.mp hslash))
      · exact .inr (.inr hrest)

theorem components_join (path rest : Bytes) :
    components (join path rest) = components path ++ components rest := by
  unfold join
  split
  · next hempty =>
      rw [hempty]
      rfl
  · split
    · next hlast =>
        obtain ⟨front, rfl⟩ := List.getLast?_eq_some_iff.mp hlast
        rw [List.append_assoc, List.singleton_append, components_append_slash,
          components_append_slash]
        have hnil : components [] = [] := rfl
        rw [hnil, List.append_nil]
    · rw [List.append_assoc, List.singleton_append, components_append_slash]

/-- What is joined to a path can be told from the path. -/
theorem join_eq (path : Bytes) : ∃ front, ∀ rest, join path rest = front ++ rest := by
  by_cases hempty : path = []
  · exact ⟨[], fun rest => if_pos hempty⟩
  · by_cases hlast : path.getLast? = some slash
    · exact ⟨path, fun rest => (if_neg hempty).trans (if_pos hlast)⟩
    · exact ⟨path ++ [slash], fun rest => (if_neg hempty).trans (if_neg hlast)⟩

theorem join_injective {path rest rest' : Bytes} (hjoin : join path rest = join path rest') :
    rest = rest' := by
  obtain ⟨front, hfront⟩ := join_eq path
  rw [hfront, hfront] at hjoin
  exact List.append_cancel_left hjoin

/-! ## Normal forms -/

/-- A component that is a name. -/
def IsName (component : Bytes) : Prop :=
  component ≠ dot ∧ component ≠ dotDot

theorem push_name {component : Bytes} (hname : IsName component) (absolute : Bool)
    (stack : List Bytes) : push absolute stack component = component :: stack := by
  unfold push
  rw [if_neg hname.1, if_neg hname.2]

theorem push_dot (absolute : Bool) (stack : List Bytes) : push absolute stack dot = stack :=
  if_pos rfl

theorem push_dotDot {last : Bytes} (hlast : last ≠ dotDot) (absolute : Bool)
    (below : List Bytes) : push absolute (last :: below) dotDot = below := by
  unfold push
  rw [if_neg (by decide : dotDot ≠ dot), if_pos rfl]
  exact if_neg hlast

theorem foldl_push_names {names : List Bytes} (hnames : ∀ name ∈ names, IsName name)
    (absolute : Bool) (stack : List Bytes) :
    names.foldl (push absolute) stack = names.reverse ++ stack := by
  induction names generalizing stack with
  | nil => rfl
  | cons name rest ih =>
      rw [List.foldl_cons, push_name (hnames name List.mem_cons_self),
        ih fun other hmem => hnames other (List.mem_cons_of_mem name hmem)]
      simp

/-! ## Walks below a directory -/

/-- A walk that never climbs above its start; the stack has its last component first. -/
def walk (stack : List Bytes) : List Bytes → Option (List Bytes)
  | [] => some stack
  | component :: rest =>
      if component = dot then walk stack rest
      else if component = dotDot then
        match stack with
        | [] => none
        | _ :: below => walk below rest
      else walk (component :: stack) rest

theorem walk_cons (stack : List Bytes) (component : Bytes) (rest : List Bytes) :
    walk stack (component :: rest) =
      if component = dot then walk stack rest
      else if component = dotDot then
        match stack with
        | [] => none
        | _ :: below => walk below rest
      else walk (component :: stack) rest := by
  cases stack with
  | nil => rfl
  | cons last below => rfl

/-- A walk below a directory leads to the same place below every directory. -/
theorem foldl_push_of_walk {absolute : Bool} {base stack final components : List Bytes}
    (hnames : ∀ name ∈ stack, IsName name) (hwalk : walk stack components = some final) :
    components.foldl (push absolute) (stack ++ base) = final ++ base := by
  induction components generalizing stack with
  | nil =>
      obtain rfl := Option.some.inj hwalk
      rfl
  | cons component rest ih =>
      rw [walk_cons] at hwalk
      rw [List.foldl_cons]
      by_cases hdot : component = dot
      · rw [if_pos hdot] at hwalk
        rw [hdot, push_dot]
        exact ih hnames hwalk
      · rw [if_neg hdot] at hwalk
        by_cases hdotDot : component = dotDot
        · rw [if_pos hdotDot] at hwalk
          cases stack with
          | nil => cases hwalk
          | cons last below =>
              have hlast := (hnames last List.mem_cons_self).2
              rw [hdotDot, List.cons_append, push_dotDot hlast]
              exact ih (fun name hmem => hnames name (List.mem_cons_of_mem last hmem)) hwalk
        · rw [if_neg hdotDot] at hwalk
          rw [push_name ⟨hdot, hdotDot⟩]
          exact ih (List.forall_mem_cons.mpr ⟨⟨hdot, hdotDot⟩, hnames⟩) hwalk

theorem foldl_push_of_walk_nil {absolute : Bool} {base final components : List Bytes}
    (hwalk : walk [] components = some final) :
    components.foldl (push absolute) base = final ++ base := by
  have hstart : ∀ name ∈ ([] : List Bytes), IsName name := List.forall_mem_nil _
  exact foldl_push_of_walk hstart hwalk

/-- What a normalisation from the root keeps was there before. -/
theorem mem_foldl_push {stack components : List Bytes} {component : Bytes}
    (hmem : component ∈ components.foldl (push true) stack) :
    component ∈ stack ∨ component ∈ components := by
  induction components generalizing stack with
  | nil => exact .inl hmem
  | cons next rest ih =>
      rcases ih hmem with hstack | hrest
      · unfold push at hstack
        split at hstack
        · exact .inl hstack
        · split at hstack
          · cases stack with
            | nil => cases hstack
            | cons last below =>
                dsimp only at hstack
                split at hstack
                · next hnext _ =>
                    rcases List.mem_cons.mp hstack with rfl | hold
                    · exact .inr (hnext ▸ List.mem_cons_self)
                    · exact .inl hold
                · exact .inl (List.mem_cons_of_mem last hstack)
          · rcases List.mem_cons.mp hstack with rfl | hold
            · exact .inr List.mem_cons_self
            · exact .inl hold
      · exact .inr (List.mem_cons_of_mem next hrest)

/-- A walk that climbs above a directory of its own name loses that name. -/
theorem notMem_of_walk_eq_none {fresh : Bytes} {stack components : List Bytes}
    (hfresh : IsName fresh) (hnames : ∀ name ∈ stack, IsName name) (hstack : fresh ∉ stack)
    (hcomponents : fresh ∉ components) (hwalk : walk stack components = none) :
    fresh ∉ components.foldl (push true) (stack ++ [fresh]) := by
  induction components generalizing stack with
  | nil => cases hwalk
  | cons component rest ih =>
      obtain ⟨hother, hrest⟩ := not_or.mp (List.mem_cons.not.mp hcomponents)
      rw [walk_cons] at hwalk
      rw [List.foldl_cons]
      by_cases hdot : component = dot
      · rw [if_pos hdot] at hwalk
        rw [hdot, push_dot]
        exact ih hnames hstack hrest hwalk
      · rw [if_neg hdot] at hwalk
        by_cases hdotDot : component = dotDot
        · rw [if_pos hdotDot] at hwalk
          cases stack with
          | nil =>
              rw [hdotDot, List.nil_append, push_dotDot hfresh.2]
              intro hmem
              rcases mem_foldl_push hmem with hnil | hlater
              · cases hnil
              · exact hrest hlater
          | cons last below =>
              have hlast := (hnames last List.mem_cons_self).2
              rw [hdotDot, List.cons_append, push_dotDot hlast]
              exact ih (fun name hmem => hnames name (List.mem_cons_of_mem last hmem))
                (fun hmem => hstack (List.mem_cons_of_mem last hmem)) hrest hwalk
        · rw [if_neg hdotDot] at hwalk
          rw [push_name ⟨hdot, hdotDot⟩]
          exact ih (List.forall_mem_cons.mpr ⟨⟨hdot, hdotDot⟩, hnames⟩)
            (List.not_mem_cons_of_ne_of_not_mem hother hstack) hrest hwalk

theorem length_le_sum {component : Bytes} {components : List Bytes}
    (hmem : component ∈ components) : component.length ≤ (components.map List.length).sum :=
  List.le_sum_of_mem (List.mem_map.mpr ⟨component, hmem, rfl⟩)

/-- Some name is no component of a path. -/
theorem exists_fresh_name (components : List Bytes) :
    ∃ fresh, IsName fresh ∧ fresh ≠ [] ∧ slash ∉ fresh ∧ 0 ∉ fresh ∧ fresh ∉ components := by
  refine ⟨List.replicate ((components.map List.length).sum + 3) 0x78, ?_, ?_, ?_, ?_, ?_⟩
  · constructor
    · intro hdot
      have hlength := congrArg List.length hdot
      rw [List.length_replicate] at hlength
      exact absurd hlength (by simp [dot])
    · intro hdotDot
      have hlength := congrArg List.length hdotDot
      rw [List.length_replicate] at hlength
      exact absurd hlength (by simp [dotDot])
  · intro hnil
    have hlength := congrArg List.length hnil
    rw [List.length_replicate] at hlength
    exact absurd hlength (by simp)
  · intro hmem
    exact absurd (List.eq_of_mem_replicate hmem) (by decide)
  · intro hmem
    exact absurd (List.eq_of_mem_replicate hmem) (by decide)
  · intro hmem
    have hle := length_le_sum hmem
    rw [List.length_replicate] at hle
    omega

theorem walk_names {names : List Bytes} (hnames : ∀ name ∈ names, IsName name)
    (stack : List Bytes) : walk stack names = some (names.reverse ++ stack) := by
  induction names generalizing stack with
  | nil => rfl
  | cons name rest ih =>
      obtain ⟨hname, hrest⟩ := List.forall_mem_cons.mp hnames
      rw [walk_cons, if_neg hname.1, if_neg hname.2, ih hrest]
      simp

/-- Where a directory and a path below the same root stand. -/
structure Below (root : List Bytes) (directory path : Bytes) (names rest : List Bytes) : Prop where
  directory_eq : components directory = root ++ names
  path_eq : components path = root ++ rest
  absolute : isAbsolute path = isAbsolute directory
  names : ∀ name ∈ names, IsName name

/-- A walk that ends in a directory is under it, whatever the root is. -/
theorem Below.under {root names rest final : List Bytes} {directory path : Bytes}
    (hbelow : Below root directory path names rest) (hwalk : walk [] rest = some final)
    (hends : names <+: final.reverse) : Under directory path := by
  refine ⟨hbelow.absolute, ?_⟩
  unfold normalize
  rw [hbelow.directory_eq, hbelow.path_eq, List.foldl_append, List.foldl_append, hbelow.absolute,
    foldl_push_names hbelow.names, foldl_push_of_walk_nil hwalk]
  rw [List.reverse_append, List.reverse_append, List.reverse_reverse]
  exact (List.prefix_append_right_inj _).mpr hends

/-- Under a root whose name no component has, nothing else is. -/
theorem Below.walk_of_under {fresh : Bytes} {names rest : List Bytes} {directory path : Bytes}
    (hbelow : Below [fresh] directory path names rest) (hfresh : IsName fresh)
    (hrest : fresh ∉ rest) (habsolute : isAbsolute directory = true)
    (hunder : Under directory path) :
    ∃ final, walk [] rest = some final ∧ names <+: final.reverse := by
  have hprefix := hunder.2
  unfold normalize at hprefix
  rw [hbelow.directory_eq, hbelow.path_eq, List.foldl_append, List.foldl_append, hbelow.absolute,
    habsolute, foldl_push_names hbelow.names] at hprefix
  have hbase : [fresh].foldl (push true) [] = [fresh] := push_name hfresh true []
  rw [hbase] at hprefix
  cases hwalk : walk [] rest with
  | none =>
      have hlost := notMem_of_walk_eq_none hfresh (List.forall_mem_nil _) List.not_mem_nil
        hrest hwalk
      have hkept := hprefix.subset (List.mem_reverse.mpr (List.mem_append_right _
        (List.mem_singleton_self fresh)))
      exact absurd (List.mem_reverse.mp hkept) hlost
  | some final =>
      rw [foldl_push_of_walk_nil hwalk, List.reverse_append, List.reverse_append, List.reverse_reverse] at hprefix
      exact ⟨final, rfl, (List.prefix_append_right_inj _).mp hprefix⟩

end AudioStudio.Paths
