import Mathlib.Data.List.Nodup
import Mathlib.Data.Nat.ModEq

/-!
# Arcs

Runs of numbers that are counted modulo a bound, as ids are that are handed out in blocks: when
the numbers of one run differ, and when two runs have none in common.
-/

namespace AudioStudio.Arcs

/-- The numbers from a start on, around the bound. -/
def arc (modulus start length : Nat) : List Nat :=
  (List.range length).map fun step => (start + step) % modulus

/-- How far the second start is ahead of the first one. -/
def ahead (modulus start start' : Nat) : Nat :=
  (start' + (modulus - start % modulus)) % modulus

variable {modulus start start' length length' : Nat}

theorem mem_arc {number : Nat} :
    number ∈ arc modulus start length ↔ ∃ step < length, (start + step) % modulus = number := by
  simp only [arc, List.mem_map, List.mem_range]

theorem ahead_lt (hmodulus : 0 < modulus) : ahead modulus start start' < modulus :=
  Nat.mod_lt _ hmodulus

/-- The second start is the first one and the way to it. -/
theorem ahead_modEq (hmodulus : 0 < modulus) :
    start + ahead modulus start start' ≡ start' [MOD modulus] := by
  have hstart : start % modulus < modulus := Nat.mod_lt _ hmodulus
  have hwhole : start' + (modulus - start % modulus) + start % modulus = start' + modulus := by
    omega
  calc
    start + ahead modulus start start'
      ≡ start % modulus + (start' + (modulus - start % modulus)) [MOD modulus] :=
        (Nat.mod_modEq start modulus).symm.add (Nat.mod_modEq _ modulus)
    _ = start' + modulus := by omega
    _ ≡ start' [MOD modulus] := Nat.add_modEq_right

/-- A run has no number twice as long as it does not go around. -/
theorem nodup_arc_iff (hmodulus : 0 < modulus) :
    (arc modulus start length).Nodup ↔ length ≤ modulus := by
  rw [arc, List.nodup_map_iff_inj_on List.nodup_range]
  constructor
  · intro hinjective
    by_contra hlong
    have hsame := hinjective modulus (List.mem_range.mpr (by omega)) 0
      (List.mem_range.mpr (by omega)) (by rw [Nat.add_mod_right, Nat.add_zero])
    omega
  · intro hshort step hstep other hother hsame
    have hequal : step ≡ other [MOD modulus] := Nat.ModEq.add_left_cancel' start hsame
    rw [List.mem_range] at hstep hother
    exact Nat.ModEq.eq_of_lt_of_lt hequal (by omega) (by omega)

/-- Two runs are apart when the first ends before the second, and that before the first. -/
theorem disjoint_arc_iff (hmodulus : 0 < modulus) (hlength : 0 < length) (hlength' : 0 < length') :
    (arc modulus start length).Disjoint (arc modulus start' length') ↔
      length ≤ ahead modulus start start' ∧ length' + ahead modulus start start' ≤ modulus := by
  have hahead := @ahead_modEq modulus start start' hmodulus
  have hlt := @ahead_lt modulus start start' hmodulus
  generalize ahead modulus start start' = distance at hahead hlt
  constructor
  · intro hdisjoint
    constructor
    · -- else the second start lies in the first run
      by_contra hlong
      refine hdisjoint (mem_arc.mpr ⟨distance, by omega, hahead⟩) (mem_arc.mpr ⟨0, hlength', ?_⟩)
      rw [Nat.add_zero]
    · -- else the first start lies in the second run
      by_contra hlong
      refine hdisjoint (mem_arc.mpr ⟨0, hlength, rfl⟩)
        (mem_arc.mpr ⟨modulus - distance, by omega, ?_⟩)
      have haround : start + 0 + modulus = start + distance + (modulus - distance) := by omega
      have hback := hahead.add_right (modulus - distance)
      rw [← haround] at hback
      exact hback.symm.trans Nat.add_modEq_right
  · rintro ⟨hfirst, hsecond⟩ number hmem hmem'
    obtain ⟨step, hstep, rfl⟩ := mem_arc.mp hmem
    obtain ⟨step', hstep', hsame⟩ := mem_arc.mp hmem'
    have hboth : start + (distance + step') ≡ start + step [MOD modulus] := by
      rw [← Nat.add_assoc]
      exact (hahead.add_right step').trans hsame
    have hequal := Nat.ModEq.eq_of_lt_of_lt (Nat.ModEq.add_left_cancel' start hboth) (by omega)
      (by omega)
    omega

end AudioStudio.Arcs
