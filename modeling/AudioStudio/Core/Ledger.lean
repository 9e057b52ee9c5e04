import Mathlib.Data.List.Perm.Basic

/-!
# Ledgers

What a program has acquired and released.  A release of something that is not held is
recorded as stray; everything else that was acquired has been released or is held.
-/

namespace AudioStudio

structure Ledger (ρ : Type) where
  acquired : List ρ
  released : List ρ
  held : List ρ
  stray : List ρ
  balanced : acquired.Perm (released ++ held)

namespace Ledger

variable {ρ : Type}

/-- The ledger of a program that holds some resources when it starts. -/
def holding (held : List ρ) : Ledger ρ where
  acquired := held
  released := []
  held := held
  stray := []
  balanced := List.Perm.refl _

def acquire (ledger : Ledger ρ) (resource : ρ) : Ledger ρ where
  acquired := ledger.acquired ++ [resource]
  released := ledger.released
  held := resource :: ledger.held
  stray := ledger.stray
  balanced := by
    refine (List.perm_append_singleton resource ledger.acquired).trans ?_
    refine (ledger.balanced.cons resource).trans ?_
    exact List.perm_middle.symm

def release [DecidableEq ρ] (ledger : Ledger ρ) (resource : ρ) : Ledger ρ :=
  if hheld : resource ∈ ledger.held then
    { acquired := ledger.acquired
      released := ledger.released ++ [resource]
      held := ledger.held.erase resource
      stray := ledger.stray
      balanced := by
        rw [List.append_assoc]
        refine ledger.balanced.trans ?_
        exact (List.perm_cons_erase hheld).append_left ledger.released }
  else
    { ledger with stray := ledger.stray ++ [resource] }

@[simp] theorem acquire_acquired (ledger : Ledger ρ) (resource : ρ) :
    (ledger.acquire resource).acquired = ledger.acquired ++ [resource] := rfl

@[simp] theorem acquire_released (ledger : Ledger ρ) (resource : ρ) :
    (ledger.acquire resource).released = ledger.released := rfl

@[simp] theorem acquire_held (ledger : Ledger ρ) (resource : ρ) :
    (ledger.acquire resource).held = resource :: ledger.held := rfl

@[simp] theorem acquire_stray (ledger : Ledger ρ) (resource : ρ) :
    (ledger.acquire resource).stray = ledger.stray := rfl

/-! ## Holding the same -/

/-- The second ledger has the stray releases of the first and holds what `held` lists. -/
structure Holds (ledger ledger' : Ledger ρ) (held : List ρ) : Prop where
  held : ledger'.held.Perm held
  stray : ledger'.stray = ledger.stray

variable {ledger ledger' ledger'' : Ledger ρ} {held held' : List ρ} {resource : ρ}

theorem Holds.refl (ledger : Ledger ρ) : Holds ledger ledger ledger.held where
  held := List.Perm.refl _
  stray := rfl

theorem Holds.perm (hholds : Holds ledger ledger' held) (hperm : held.Perm held') :
    Holds ledger ledger' held' where
  held := hholds.held.trans hperm
  stray := hholds.stray

theorem Holds.trans (hfirst : Holds ledger ledger' held') (hsecond : Holds ledger' ledger'' held) :
    Holds ledger ledger'' held where
  held := hsecond.held
  stray := hsecond.stray.trans hfirst.stray

theorem Holds.acquire (hholds : Holds ledger ledger' held) :
    Holds ledger (ledger'.acquire resource) (resource :: held) where
  held := hholds.held.cons resource
  stray := hholds.stray

theorem Holds.release [DecidableEq ρ] (hholds : Holds ledger ledger' (resource :: held)) :
    Holds ledger (ledger'.release resource) held := by
  have hmem : resource ∈ ledger'.held := hholds.held.mem_iff.mpr List.mem_cons_self
  rw [Ledger.release, dif_pos hmem]
  constructor
  · have herased := hholds.held.erase resource
    rwa [List.erase_cons_head] at herased
  · exact hholds.stray

/-- A program that ends with nothing held has released all that it acquired. -/
theorem released_perm (hheld : ledger.held = []) : ledger.released.Perm ledger.acquired := by
  have hbalanced := ledger.balanced
  rw [hheld, List.append_nil] at hbalanced
  exact hbalanced.symm

end Ledger

end AudioStudio
