import Mathlib.Data.Nat.ModEq
import Mathlib.Data.List.Basic

/-!
# Ring buffers

The queue that a wrapping range of cells holds, oldest first.
-/

namespace AudioStudio.Ring

variable {α : Type} (fallback : α)

/-- The `count` cells from `head` on, around the end of the buffer. -/
def contents (cells : List α) (head count : Nat) : List α :=
  (List.range count).map fun offset => cells.getD ((head + offset) % cells.length) fallback

variable {fallback} {cells : List α} {head count : Nat}

/-- Two offsets less than a round apart never meet. -/
theorem offset_ne {offset size : Nat} (hoffset : offset < count) (hcount : count < size) :
    (head + count) % size ≠ (head + offset) % size := by
  intro heq
  have hcongr : offset ≡ count [MOD size] := Nat.ModEq.add_left_cancel' head heq.symm
  rw [Nat.ModEq, Nat.mod_eq_of_lt hcount, Nat.mod_eq_of_lt (hoffset.trans hcount)] at hcongr
  omega

/-- A store behind the last cell appends to the queue. -/
theorem contents_push (hcount : count < cells.length) (item : α) :
    contents fallback (cells.set ((head + count) % cells.length) item) head (count + 1) =
      contents fallback cells head count ++ [item] := by
  have hinside : (head + count) % cells.length < cells.length :=
    Nat.mod_lt _ (Nat.zero_lt_of_lt hcount)
  rw [contents, contents, List.range_succ, List.map_append, List.length_set]
  congr 1
  · apply List.map_congr_left
    intro offset hoffset
    have hne : (head + count) % cells.length ≠ (head + offset) % cells.length :=
      offset_ne (List.mem_range.mp hoffset) hcount
    rw [List.getD_eq_getElem?_getD, List.getElem?_set_ne hne, ← List.getD_eq_getElem?_getD]
  · rw [List.map_singleton, List.getD_eq_getElem?_getD, List.getElem?_set_self hinside]
    rfl

/-- Moving the head on takes the first item off the queue. -/
theorem contents_pop (hhead : head < cells.length) :
    contents fallback cells head (count + 1) =
      cells.getD head fallback ::
        contents fallback cells ((head + 1) % cells.length) count := by
  rw [contents, contents, List.range_succ_eq_map, List.map_cons, List.map_map, Nat.add_zero,
    Nat.mod_eq_of_lt hhead]
  congr 1
  apply List.map_congr_left
  intro offset _
  rw [Function.comp_apply, Nat.succ_eq_add_one, Nat.mod_add_mod, Nat.add_assoc, Nat.add_comm 1]

end AudioStudio.Ring
