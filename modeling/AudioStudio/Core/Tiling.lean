import Mathlib.Algebra.BigOperators.Group.Finset.Piecewise
import Mathlib.Algebra.GroupWithZero.Nat
import Mathlib.Algebra.Order.BigOperators.Group.Finset
import Mathlib.Data.List.Count
import Mathlib.Order.Interval.Finset.Nat

/-!
# Pieces that tile a range

A piece is a start and a length.  Pieces tile a range when each of its positions lies in
exactly one of them, which can be told from their ends and from the sum of their lengths.
-/

namespace AudioStudio.Tiling

structure Piece where
  start : Nat
  length : Nat
  deriving DecidableEq, Repr

namespace Piece

def covers (position : Nat) (piece : Piece) : Bool :=
  piece.start ≤ position && position < piece.start + piece.length

/-- No position lies in both pieces. -/
def Apart (first second : Piece) : Prop :=
  ∀ position, ¬(first.covers position = true ∧ second.covers position = true)

end Piece

variable {pieces : List Piece} {size : Nat}

end AudioStudio.Tiling
