import Mathlib.Data.List.Nodup
import Mathlib.Data.List.Perm.Subperm
import Mathlib.Logic.Relation

/-!
# Bounded walks

A search of a graph from one node.  It goes on behind the nodes that are passive and collects
the labels of those that are not, each once, up to a capacity and a depth.
-/

namespace AudioStudio.Walk

variable {ν ι : Type}

section Search

variable [DecidableEq ι]

def add (capacity : Nat) (labels : List ι) (label : ι) : Option (List ι) :=
  if label ∈ labels then some labels
  else if capacity ≤ labels.length then none
  else some (labels ++ [label])

def collect (next : ν → List ν) (passive : ν → Bool) (label : ν → ι) (capacity : Nat) :
    (depth : Nat) → ν → List ι → Option (List ι)
  | 0, _, _ => none
  | depth + 1, node, labels =>
      (next node).foldlM (m := Option) (fun labels other =>
        if passive other then collect next passive label capacity depth other labels
        else add capacity labels (label other)) labels

end Search

/-! ## Paths -/

/-- One step to a passive node. -/
def Passes (edge : ν → ν → Prop) (passive : ν → Bool) (node other : ν) : Prop :=
  edge node other ∧ passive other = true

/-- The other node ends a path whose inner nodes are passive. -/
def Reaches (edge : ν → ν → Prop) (passive : ν → Bool) (node other : ν) : Prop :=
  ∃ last, Relation.ReflTransGen (Passes edge passive) node last ∧ edge last other

/-- A passive node that lies on a cycle of passive nodes is reached through passive nodes. -/
def Cycles (edge : ν → ν → Prop) (passive : ν → Bool) (node : ν) : Prop :=
  ∃ turn, Relation.ReflTransGen (Passes edge passive) node turn ∧
    Relation.TransGen (Passes edge passive) turn turn

/-- A label of an active node that is reached. -/
def Labels (edge : ν → ν → Prop) (passive : ν → Bool) (label : ν → ι) (node : ν) (found : ι) :
    Prop :=
  ∃ other, Reaches edge passive node other ∧ passive other = false ∧ label other = found

/-- A path of so many passive nodes. -/
inductive Descends (edge : ν → ν → Prop) (passive : ν → Bool) : Nat → ν → Prop where
  | stop (node : ν) : Descends edge passive 0 node
  | pass {depth : Nat} {node other : ν} (hpasses : Passes edge passive node other)
      (hrest : Descends edge passive depth other) : Descends edge passive (depth + 1) node

/-- The graph of a list of successors. -/
def Edge (next : ν → List ν) (node other : ν) : Prop :=
  other ∈ next node

section Paths

variable {edge : ν → ν → Prop} {passive : ν → Bool} {label : ν → ι} {node other : ν}

theorem reaches_edge (hedge : edge node other) : Reaches edge passive node other :=
  ⟨node, .refl, hedge⟩

theorem Passes.reaches {last : ν} (hpasses : Passes edge passive node other)
    (hreaches : Reaches edge passive other last) : Reaches edge passive node last := by
  obtain ⟨middle, hpath, hlast⟩ := hreaches
  exact ⟨middle, hpath.head hpasses, hlast⟩

theorem Passes.labels {found : ι} (hpasses : Passes edge passive node other)
    (hlabels : Labels edge passive label other found) : Labels edge passive label node found := by
  obtain ⟨last, hreaches, hactive, hlabel⟩ := hlabels
  exact ⟨last, hpasses.reaches hreaches, hactive, hlabel⟩

/-- A path of passive nodes that does not fit the nodes that there are comes round. -/
theorem Descends.cycles_of_seen {nodes seen : List ν} {root : ν} {depth : Nat}
    (hclosed : ∀ node other, Passes edge passive node other → other ∈ nodes)
    (hdescends : Descends edge passive depth node)
    (hpath : Relation.ReflTransGen (Passes edge passive) root node)
    (hnodup : seen.Nodup) (hnodes : seen ⊆ nodes)
    (hseen : ∀ turn ∈ seen, Relation.ReflTransGen (Passes edge passive) root turn ∧
      Relation.ReflTransGen (Passes edge passive) turn node)
    (hlong : nodes.length < seen.length + depth) : Cycles edge passive root := by
  induction hdescends generalizing seen with
  | stop node =>
      have hfits := (hnodup.subperm hnodes).length_le
      omega
  | @pass depth node other hpasses _ ih =>
      by_cases hturn : other ∈ seen
      · obtain ⟨hroot, hback⟩ := hseen other hturn
        exact ⟨other, hroot, Relation.TransGen.tail' hback hpasses⟩
      · have hother := hpath.tail hpasses
        refine ih hother (List.nodup_cons.mpr ⟨hturn, hnodup⟩)
          (List.cons_subset.mpr ⟨hclosed node other hpasses, hnodes⟩) ?_ ?_
        · refine List.forall_mem_cons.mpr ⟨⟨hother, .refl⟩, fun turn hmem => ?_⟩
          obtain ⟨hroot, hback⟩ := hseen turn hmem
          exact ⟨hroot, hback.tail hpasses⟩
        · rw [List.length_cons]
          omega

theorem Descends.cycles {nodes : List ν} {depth : Nat}
    (hclosed : ∀ node other, Passes edge passive node other → other ∈ nodes)
    (hdescends : Descends edge passive depth node) (hlong : nodes.length < depth) :
    Cycles edge passive node :=
  hdescends.cycles_of_seen hclosed .refl List.nodup_nil (List.nil_subset _) nofun
    (by rw [List.length_nil]; omega)

end Paths

/-! ## What is collected -/

section Collected

variable [DecidableEq ι] {next : ν → List ν} {passive : ν → Bool} {label : ν → ι}
  {capacity depth : Nat} {node : ν} {labels labels' : List ι}

theorem add_eq_some {found : ι} (hadd : add capacity labels found = some labels') :
    (labels.Nodup → labels'.Nodup) ∧
      ∀ other, other ∈ labels' ↔ other ∈ labels ∨ other = found := by
  unfold add at hadd
  split at hadd
  · next hmem =>
      cases hadd
      refine ⟨id, fun other => ⟨.inl, ?_⟩⟩
      rintro (hother | rfl)
      · exact hother
      · exact hmem
  · next hmem =>
      split at hadd
      · cases hadd
      · cases hadd
        refine ⟨fun hnodup => ?_, fun other => ?_⟩
        · rw [List.nodup_append]
          refine ⟨hnodup, List.nodup_singleton found, ?_⟩
          rintro _ hleft _ hright rfl
          exact hmem (List.mem_singleton.mp hright ▸ hleft)
        · rw [List.mem_append, List.mem_singleton]

/-- A collection adds the labels of all nodes that are reached, and no others. -/
theorem collect_eq_some (hcollect : collect next passive label capacity depth node labels =
      some labels') :
    (labels.Nodup → labels'.Nodup) ∧
      ∀ found, found ∈ labels' ↔ found ∈ labels ∨ Labels (Edge next) passive label node found := by
  induction depth generalizing node labels labels' with
  | zero => cases hcollect
  | succ depth ih =>
      rw [collect] at hcollect
      have hfold : ∀ (others : List ν) (labels : List ι), others ⊆ next node →
          others.foldlM (m := Option) (fun labels other =>
            if passive other then collect next passive label capacity depth other labels
            else add capacity labels (label other)) labels = some labels' →
          (labels.Nodup → labels'.Nodup) ∧ ∀ found, found ∈ labels' ↔ found ∈ labels ∨
            ∃ other ∈ others, if passive other then Labels (Edge next) passive label other found
              else label other = found := by
        intro others
        induction others with
        | nil =>
            rintro labels _ ⟨⟩
            refine ⟨id, fun found => ⟨.inl, ?_⟩⟩
            rintro (hfound | ⟨_, hnone, _⟩)
            · exact hfound
            · exact absurd hnone List.not_mem_nil
        | cons other others ihOthers =>
            intro labels hsubset hsteps
            rw [List.foldlM_cons] at hsteps
            obtain ⟨middle, hfirst, hsteps⟩ := Option.bind_eq_some_iff.mp hsteps
            obtain ⟨hnodup, hmem⟩ :=
              ihOthers middle (List.subset_of_cons_subset hsubset) hsteps
            have hhead : (labels.Nodup → middle.Nodup) ∧ ∀ found, found ∈ middle ↔
                found ∈ labels ∨ if passive other then Labels (Edge next) passive label other found
                  else label other = found := by
              cases hpassive : passive other with
              | true =>
                  rw [hpassive, if_pos rfl] at hfirst
                  exact ih hfirst
              | false =>
                  rw [hpassive, if_neg (by decide)] at hfirst
                  obtain ⟨hnodup', hmem'⟩ := add_eq_some hfirst
                  refine ⟨hnodup', fun found => ?_⟩
                  rw [hmem', if_neg (by decide)]
                  exact or_congr_right eq_comm
            refine ⟨fun h => hnodup (hhead.1 h), fun found => ?_⟩
            rw [hmem, hhead.2, List.exists_mem_cons_iff, or_assoc]
      obtain ⟨hnodup, hmem⟩ := hfold (next node) labels (List.Subset.refl _) hcollect
      refine ⟨hnodup, fun found => ?_⟩
      rw [hmem]
      refine or_congr_right ⟨?_, ?_⟩
      · rintro ⟨other, hnext, hfound⟩
        cases hpassive : passive other with
        | true =>
            rw [hpassive, if_pos rfl] at hfound
            exact Passes.labels ⟨hnext, hpassive⟩ hfound
        | false =>
            rw [hpassive, if_neg (by decide)] at hfound
            exact ⟨other, reaches_edge hnext, hpassive, hfound⟩
      · rintro ⟨last, ⟨middle, hpath, hlast⟩, hactive, hlabel⟩
        obtain rfl | ⟨other, hpasses, hrest⟩ := Relation.ReflTransGen.cases_head hpath
        · refine ⟨last, hlast, ?_⟩
          rw [hactive, if_neg (by decide)]
          exact hlabel
        · refine ⟨other, hpasses.1, ?_⟩
          rw [hpasses.2, if_pos rfl]
          exact ⟨last, ⟨middle, hrest, hlast⟩, hactive, hlabel⟩

/-- A collection fails when it finds more labels than it can hold, or has passed as many
nodes as it may. -/
theorem collect_eq_none (hnodup : labels.Nodup)
    (hcollect : collect next passive label capacity depth node labels = none) :
    Descends (Edge next) passive depth node ∨
      ∃ found : List ι, found.Nodup ∧ capacity < found.length ∧
        ∀ one ∈ found, one ∈ labels ∨ Labels (Edge next) passive label node one := by
  induction depth generalizing node labels with
  | zero => exact .inl (.stop node)
  | succ depth ih =>
      rw [collect] at hcollect
      have hfold : ∀ (others : List ν) (labels : List ι), others ⊆ next node → labels.Nodup →
          others.foldlM (m := Option) (fun labels other =>
            if passive other then collect next passive label capacity depth other labels
            else add capacity labels (label other)) labels = none →
          Descends (Edge next) passive (depth + 1) node ∨
            ∃ found : List ι, found.Nodup ∧ capacity < found.length ∧
              ∀ one ∈ found, one ∈ labels ∨ Labels (Edge next) passive label node one := by
        intro others
        induction others with
        | nil => exact fun _ _ _ hsteps => nomatch hsteps
        | cons other others ihOthers =>
            intro labels hsubset hnodup hsteps
            have hnext : other ∈ next node := hsubset List.mem_cons_self
            rw [List.foldlM_cons] at hsteps
            cases hfirst : (if passive other then
                collect next passive label capacity depth other labels
              else add capacity labels (label other)) with
            | none =>
                cases hpassive : passive other with
                | true =>
                    rw [hpassive, if_pos rfl] at hfirst
                    obtain hdescends | ⟨found, hdistinct, hlong, hfound⟩ := ih hnodup hfirst
                    · exact .inl (.pass ⟨hnext, hpassive⟩ hdescends)
                    · refine .inr ⟨found, hdistinct, hlong, fun one hone => ?_⟩
                      exact (hfound one hone).imp_right (Passes.labels ⟨hnext, hpassive⟩)
                | false =>
                    rw [hpassive, if_neg (by decide), add] at hfirst
                    split at hfirst
                    · cases hfirst
                    · next hfresh =>
                        split at hfirst
                        · next hfull =>
                            refine .inr ⟨label other :: labels,
                              List.nodup_cons.mpr ⟨hfresh, hnodup⟩, Nat.lt_succ_of_le hfull, ?_⟩
                            refine List.forall_mem_cons.mpr ⟨.inr ?_, fun _ => .inl⟩
                            exact ⟨other, reaches_edge hnext, hpassive, rfl⟩
                        · cases hfirst
            | some middle =>
                rw [hfirst] at hsteps
                have hadded : (labels.Nodup → middle.Nodup) ∧ ∀ one, one ∈ middle →
                    one ∈ labels ∨ Labels (Edge next) passive label node one := by
                  cases hpassive : passive other with
                  | true =>
                      rw [hpassive, if_pos rfl] at hfirst
                      obtain ⟨hnodup', hmem⟩ := collect_eq_some hfirst
                      refine ⟨hnodup', fun one hone => ?_⟩
                      exact ((hmem one).mp hone).imp_right (Passes.labels ⟨hnext, hpassive⟩)
                  | false =>
                      rw [hpassive, if_neg (by decide)] at hfirst
                      obtain ⟨hnodup', hmem⟩ := add_eq_some hfirst
                      refine ⟨hnodup', fun one hone => ?_⟩
                      refine ((hmem one).mp hone).imp_right ?_
                      rintro rfl
                      exact ⟨other, reaches_edge hnext, hpassive, rfl⟩
                obtain hdescends | ⟨found, hdistinct, hlong, hfound⟩ :=
                  ihOthers middle (List.subset_of_cons_subset hsubset) (hadded.1 hnodup) hsteps
                · exact .inl hdescends
                · refine .inr ⟨found, hdistinct, hlong, fun one hone => ?_⟩
                  obtain hold | hnew := hfound one hone
                  · exact hadded.2 one hold
                  · exact .inr hnew
      exact hfold (next node) labels (List.Subset.refl _) hnodup hcollect

end Collected

/-! ## The graph turned round -/

/-- Where every edge of one graph is an edge back in another one, a path between two nodes
is a path back. -/
theorem Reaches.turn {edge back : ν → ν → Prop} {passive : ν → Bool} {node other : ν}
    (hback : ∀ node other, edge node other → back other node)
    (hreaches : Reaches edge passive node other) : Reaches back passive other node := by
  obtain ⟨last, hpath, hlast⟩ := hreaches
  induction hpath generalizing other with
  | refl => exact reaches_edge (hback node other hlast)
  | @tail middle last hpath hpasses ih =>
      have hrest := ih hpasses.1
      exact Passes.reaches ⟨hback last other hlast, hpasses.2⟩ hrest

end AudioStudio.Walk
