import Mathlib.Data.List.Forall2

/-!
# Loops that may fail

What a loop over a list preserves whose body may fail, and what its success tells of every
item.
-/

namespace AudioStudio

variable {σ α β ε : Type}

/-- What every round preserves holds after the loop. -/
theorem foldlM_preserves {invariant : σ → Prop} {round : σ → α → Except ε σ} {items : List α}
    (hround : ∀ state, ∀ item ∈ items, ∀ state', invariant state →
      round state item = .ok state' → invariant state')
    {state state' : σ} (hloop : items.foldlM round state = .ok state') (hstart : invariant state) :
    invariant state' := by
  induction items generalizing state with
  | nil =>
      cases hloop
      exact hstart
  | cons item items ih =>
      rw [List.foldlM_cons] at hloop
      cases hfirst : round state item with
      | error fault =>
          rw [hfirst] at hloop
          cases hloop
      | ok middle =>
          rw [hfirst] at hloop
          apply ih (fun state later hmem => hround state later (List.mem_cons_of_mem _ hmem)) hloop
          exact hround state item List.mem_cons_self middle hstart hfirst

/-- An `Except` computation that succeeds has succeeded in its first part. -/
theorem bind_eq_ok {first : Except ε α} {rest : α → Except ε β} {result : β}
    (hbind : first >>= rest = .ok result) : ∃ value, first = .ok value ∧ rest value = .ok result := by
  cases first with
  | error fault => cases hbind
  | ok value => exact ⟨value, rfl, hbind⟩

/-- A loop whose rounds each add a row has added one row for every item, in their order. -/
theorem foldlM_rows {γ : Type} {holds : α → γ → Prop} {adds : σ → List γ → σ → Prop}
    {round : σ → α → Except ε σ} {items : List α} (hnil : ∀ state, adds state [] state)
    (hcons : ∀ {state middle state' row rows}, adds state [row] middle → adds middle rows state' →
      adds state (row :: rows) state')
    (hround : ∀ state, ∀ item ∈ items, ∀ state', round state item = .ok state' →
      ∃ row, holds item row ∧ adds state [row] state')
    {state state' : σ} (hloop : items.foldlM round state = .ok state') :
    ∃ rows, List.Forall₂ holds items rows ∧ adds state rows state' := by
  induction items generalizing state with
  | nil =>
      cases hloop
      exact ⟨[], .nil, hnil _⟩
  | cons item items ih =>
      rw [List.foldlM_cons] at hloop
      obtain ⟨middle, hfirst, hloop⟩ := bind_eq_ok hloop
      obtain ⟨row, hrow, hadded⟩ := hround state item List.mem_cons_self middle hfirst
      obtain ⟨rows, hrows, hrest⟩ :=
        ih (fun state later hmem => hround state later (List.mem_cons_of_mem _ hmem)) hloop
      exact ⟨row :: rows, .cons hrow hrows, hcons hadded hrest⟩

/-- A list whose items all succeed has succeeded item by item. -/
theorem forall₂_of_mapM {f : α → Except ε β} {items : List α} {values : List β}
    (hmap : items.mapM f = .ok values) :
    List.Forall₂ (fun item value => f item = .ok value) items values := by
  induction items generalizing values with
  | nil =>
      cases hmap
      exact .nil
  | cons item items ih =>
      rw [List.mapM_cons] at hmap
      obtain ⟨value, hvalue, hrest⟩ := bind_eq_ok hmap
      obtain ⟨later, hlater, hdone⟩ := bind_eq_ok hrest
      cases hdone
      exact .cons hvalue (ih hlater)

theorem exists_of_mem_mapM {f : α → Except ε β} {items : List α} {values : List β}
    (hmap : items.mapM f = .ok values) {value : β} (hmem : value ∈ values) :
    ∃ item ∈ items, f item = .ok value := by
  have hall := forall₂_of_mapM hmap
  clear hmap
  induction hall with
  | nil => cases hmem
  | @cons item first items values hitem hrest ih =>
      rcases List.mem_cons.mp hmem with rfl | hlater
      · exact ⟨item, List.mem_cons_self, hitem⟩
      · obtain ⟨other, hother, hvalue⟩ := ih hlater
        exact ⟨other, List.mem_cons_of_mem _ hother, hvalue⟩

/-- What the rows of two related lists have in common is a matter of the first list, if it is
so for each row. -/
theorem forall₂_iff_forall_mem {relation common : α → β → Prop} {alone : α → Prop}
    {items : List α} {values : List β} (hall : List.Forall₂ relation items values)
    (hrow : ∀ item value, relation item value → (common item value ↔ alone item)) :
    List.Forall₂ common items values ↔ ∀ item ∈ items, alone item := by
  induction hall with
  | nil => exact ⟨fun _ item hmem => absurd hmem List.not_mem_nil, fun _ => .nil⟩
  | cons hfirst _ ih => rw [List.forall₂_cons, List.forall_mem_cons, hrow _ _ hfirst, ih]

end AudioStudio
