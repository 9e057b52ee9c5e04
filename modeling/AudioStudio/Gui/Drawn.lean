import AudioStudio.Gui.Regenerate

/-!
# The drawn graph

When a regenerated project is the graph of its snapshot.  The ids of pipelines, nodes and
instances are derived by fallbacks, and what is derived for two of them can coincide.
-/

namespace AudioStudio.Gui

open AudioStudio.LittleEndian

/-! ## Views -/

/-- A group as its pipeline sees it. -/
structure GroupView where
  pipeId : Bytes
  nodes : List SnapshotNode
  deriving DecidableEq, Repr

def groupView (drawing : Drawing) (item : SnapshotGroup × Nat) : GroupView :=
  ⟨groupPipeId drawing.originals item.1 item.2, includedNodes drawing item.1 item.2⟩

def groupViews (drawing : Drawing) : List GroupView :=
  drawing.groups.zipIdx.map (groupView drawing)

/-- The connections of the pipeline, by their two ends and ports. -/
def viewConnections (drawing : Drawing) (view : GroupView) :
    List (SnapshotConnection × SnapshotNode × SnapshotNode) :=
  drawing.connections.filterMap fun conn =>
    (connectedNodes drawing view.nodes conn).map fun ends => (conn, ends)

def viewPipeline (drawing : Drawing) (view : GroupView) : RegeneratedPipeline where
  pipeId := view.pipeId
  nodes := view.nodes.map (regeneratedNode view.pipeId)
  edges := (viewConnections drawing view).map fun (conn, source, sink) =>
    ⟨edgeEnd view.pipeId source conn.fromPort, edgeEnd view.pipeId sink conn.toPort⟩

def viewInstances (drawing : Drawing) (view : GroupView) : List RegeneratedInstance :=
  view.nodes.map (nodeInstance drawing view.pipeId)

theorem regenerateGroup_ok {drawing : Drawing} {before after : RegeneratedProject}
    {item : SnapshotGroup × Nat} (hround : regenerateGroup drawing before item = .ok after) :
    after = {
      pipelines := before.pipelines ++ [viewPipeline drawing (groupView drawing item)]
      instances := (viewInstances drawing (groupView drawing item)).foldl addModuleInstance
        before.instances } := by
  unfold regenerateGroup at hround
  obtain ⟨_, _, hround⟩ := bind_eq_ok hround
  cases hround
  have hedges : drawing.connections.filterMap (regeneratedEdge drawing
      (groupPipeId drawing.originals item.1 item.2) (includedNodes drawing item.1 item.2)) =
        (viewPipeline drawing (groupView drawing item)).edges := by
    unfold viewPipeline viewConnections
    rw [List.map_filterMap]
    apply List.filterMap_congr
    intro conn _
    unfold regeneratedEdge
    rw [Option.map_map]
    rfl
  rw [hedges]
  rfl

/-- What the loop over the groups leaves. -/
theorem regenerate_loop {drawing : Drawing} {items : List (SnapshotGroup × Nat)}
    {before after : RegeneratedProject}
    (hloop : items.foldlM (regenerateGroup drawing) before = .ok after) :
    after = {
      pipelines := before.pipelines ++ (items.map (groupView drawing)).map (viewPipeline drawing)
      instances := ((items.map (groupView drawing)).flatMap (viewInstances drawing)).foldl
        addModuleInstance before.instances } := by
  induction items generalizing before with
  | nil =>
      cases hloop
      rw [List.map_nil, List.map_nil, List.append_nil]
      rfl
  | cons item items ih =>
      rw [List.foldlM_cons] at hloop
      obtain ⟨middle, hfirst, hrest⟩ := bind_eq_ok hloop
      rw [ih hrest, regenerateGroup_ok hfirst, List.map_cons, List.map_cons, List.flatMap_cons,
        List.foldl_append, List.append_assoc]
      rfl

theorem regenerate_ok {drawing : Drawing} {regenerated : RegeneratedProject}
    (hregenerate : regenerateProjectFromSnapshot drawing = .ok regenerated) :
    regenerated.pipelines = (groupViews drawing).map (viewPipeline drawing) ∧
      regenerated.instances = ((groupViews drawing).flatMap (viewInstances drawing)).foldl
        addModuleInstance [] := by
  unfold regenerateProjectFromSnapshot at hregenerate
  split at hregenerate
  · cases hregenerate
  · have hloop := regenerate_loop hregenerate
    rw [hloop]
    exact ⟨rfl, rfl⟩

/-! ## Instances -/

section Instances

variable {instances added : List RegeneratedInstance}

end Instances

/-! ## Well drawn -/

section Regenerated

variable {drawing : Drawing} {regenerated : RegeneratedProject}

theorem regenerated_pipeIds
    (hpipelines : regenerated.pipelines = (groupViews drawing).map (viewPipeline drawing)) :
    regenerated.pipelines.map RegeneratedPipeline.pipeId =
      (groupViews drawing).map GroupView.pipeId := by
  rw [hpipelines, List.map_map]
  rfl

end Regenerated

end AudioStudio.Gui
