import Mathlib.Data.List.Basic

/-!
# Cutting a stream into pieces

A cutter looks at the front of a stream and says how many items make the next
piece and whether the piece is kept or skipped, or that it must see more of the
stream.  Where its verdicts do not change when more of the stream is seen, what it
cuts does not depend on how the stream arrives.
-/

namespace AudioStudio.Cutting

/-- What becomes of a piece. -/
inductive Fate where
  | kept
  | skipped
  deriving DecidableEq, Repr

structure Piece (α : Type) where
  fate : Fate
  items : List α
  deriving DecidableEq, Repr

namespace Piece

variable {α : Type}

/-- The items of all pieces, in their order. -/
def itemsOf (pieces : List (Piece α)) : List α :=
  pieces.flatMap Piece.items

/-- The items of the kept pieces. -/
def keptOf (pieces : List (Piece α)) : List α :=
  itemsOf (pieces.filter fun piece => piece.fate = .kept)

@[simp] theorem itemsOf_nil : itemsOf ([] : List (Piece α)) = [] := rfl

@[simp] theorem itemsOf_cons (piece : Piece α) (pieces : List (Piece α)) :
    itemsOf (piece :: pieces) = piece.items ++ itemsOf pieces := rfl

@[simp] theorem itemsOf_append (first second : List (Piece α)) :
    itemsOf (first ++ second) = itemsOf first ++ itemsOf second :=
  List.flatMap_append

@[simp] theorem keptOf_nil : keptOf ([] : List (Piece α)) = [] := rfl

@[simp] theorem keptOf_append (first second : List (Piece α)) :
    keptOf (first ++ second) = keptOf first ++ keptOf second := by
  simp [keptOf]

theorem keptOf_kept (items : List α) (pieces : List (Piece α)) :
    keptOf (⟨.kept, items⟩ :: pieces) = items ++ keptOf pieces := by
  simp [keptOf]

theorem keptOf_skipped (items : List α) (pieces : List (Piece α)) :
    keptOf (⟨.skipped, items⟩ :: pieces) = keptOf pieces := by
  simp [keptOf]

end Piece

/-- The fate and the length of the piece at the front of a stream. -/
structure Cutter (α : Type) where
  next : List α → Option (Fate × Nat)
  takes : ∀ {stream fate count}, next stream = some (fate, count) →
    0 < count ∧ count ≤ stream.length
  settled : ∀ {stream cut} (later : List α), next stream = some cut →
    next (stream ++ later) = some cut

namespace Cutter

variable {α : Type} (cutter : Cutter α)

/-- The pieces cut off a stream, and the rest that waits for more. -/
def cut (stream : List α) : List (Piece α) × List α :=
  match _hnext : cutter.next stream with
  | none => ([], stream)
  | some (fate, count) =>
      let later := cut (stream.drop count)
      (⟨fate, stream.take count⟩ :: later.1, later.2)
termination_by stream.length
decreasing_by
  have htakes := cutter.takes _hnext
  rw [List.length_drop]
  omega

variable {cutter}

variable {stream : List α}

theorem cut_of_none (hnext : cutter.next stream = none) : cutter.cut stream = ([], stream) := by
  rw [cut]
  split
  · rfl
  · next heq => rw [hnext] at heq; cases heq

theorem cut_of_some {fate : Fate} {count : Nat} (hnext : cutter.next stream = some (fate, count)) :
    cutter.cut stream =
      (⟨fate, stream.take count⟩ :: (cutter.cut (stream.drop count)).1,
        (cutter.cut (stream.drop count)).2) := by
  rw [cut]
  split
  · next heq => rw [hnext] at heq; cases heq
  · next heq =>
      rw [hnext] at heq
      cases heq
      rfl

variable (cutter) in
/-- Induction along the pieces of a stream. -/
@[elab_as_elim]
theorem cut_induction {motive : List α → Prop}
    (rest : ∀ stream, cutter.next stream = none → motive stream)
    (piece : ∀ stream fate count, cutter.next stream = some (fate, count) →
      motive (stream.drop count) → motive stream) :
    ∀ stream, motive stream := by
  intro stream
  induction hlength : stream.length using Nat.strongRecOn generalizing stream with
  | _ length ih =>
      cases hnext : cutter.next stream with
      | none => exact rest stream hnext
      | some verdict =>
          obtain ⟨fate, count⟩ := verdict
          have htakes := cutter.takes hnext
          have hshorter : (stream.drop count).length < length := by
            rw [List.length_drop]
            omega
          exact piece stream fate count hnext (ih _ hshorter _ rfl)

variable (cutter) in
/-- No item is lost, doubled or moved. -/
theorem cut_items (stream : List α) :
    Piece.itemsOf (cutter.cut stream).1 ++ (cutter.cut stream).2 = stream := by
  induction stream using cutter.cut_induction with
  | rest stream hnext =>
      rw [cut_of_none hnext]
      rfl
  | piece stream fate count hnext ih =>
      rw [cut_of_some hnext, Piece.itemsOf_cons, List.append_assoc, ih]
      exact List.take_append_drop count stream

/-- Every piece is what the cutter says about the stream that begins with it. -/
theorem next_of_mem_cut {piece : Piece α} (hpiece : piece ∈ (cutter.cut stream).1) :
    ∃ later, cutter.next (piece.items ++ later) = some (piece.fate, piece.items.length) := by
  induction stream using cutter.cut_induction with
  | rest stream hnext =>
      rw [cut_of_none hnext] at hpiece
      cases hpiece
  | piece stream fate count hnext ih =>
      rw [cut_of_some hnext] at hpiece
      rcases List.mem_cons.mp hpiece with rfl | hlater
      · refine ⟨stream.drop count, ?_⟩
        dsimp only
        rw [List.take_append_drop, List.length_take_of_le (cutter.takes hnext).2]
        exact hnext
      · exact ih hlater

/-- A stream is cut as its beginning, then as what was left of it with the rest behind. -/
theorem cut_append (stream later : List α) :
    cutter.cut (stream ++ later) =
      ((cutter.cut stream).1 ++ (cutter.cut ((cutter.cut stream).2 ++ later)).1,
        (cutter.cut ((cutter.cut stream).2 ++ later)).2) := by
  induction stream using cutter.cut_induction with
  | rest stream hnext =>
      rw [cut_of_none hnext]
      rfl
  | piece stream fate count hnext ih =>
      have hcount := (cutter.takes hnext).2
      rw [cut_of_some hnext, cut_of_some (cutter.settled later hnext),
        List.take_append_of_le_length hcount, List.drop_append_of_le_length hcount, ih]
      rfl

variable (cutter)

/-- The kept items of a stream. -/
def keeps (stream : List α) : List α :=
  Piece.keptOf (cutter.cut stream).1

/-- The items of a stream that wait for more. -/
def waits (stream : List α) : List α :=
  (cutter.cut stream).2

variable {cutter}

theorem keeps_append (stream later : List α) :
    cutter.keeps (stream ++ later) =
      cutter.keeps stream ++ cutter.keeps (cutter.waits stream ++ later) := by
  rw [keeps, cut_append, Piece.keptOf_append]
  rfl

theorem waits_append (stream later : List α) :
    cutter.waits (stream ++ later) = cutter.waits (cutter.waits stream ++ later) := by
  rw [waits, cut_append]
  rfl

theorem keeps_prefix (stream later : List α) :
    cutter.keeps stream <+: cutter.keeps (stream ++ later) := by
  rw [keeps_append]
  exact List.prefix_append _ _

end Cutter

end AudioStudio.Cutting
