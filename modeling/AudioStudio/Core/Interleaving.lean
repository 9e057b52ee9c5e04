import Mathlib.Data.List.Basic
import Mathlib.Data.List.Infix

/-!
# Interleaved runs

A system of threads as a partial step function on events: `none` is an event that cannot
happen now, because what it belongs to waits or has ended.
-/

namespace AudioStudio.Interleaving

variable {σ ε : Type} (step : σ → ε → Option σ)

/-- An event that cannot happen is passed over. -/
def advance (state : σ) (event : ε) : σ := (step state event).getD state

/-- The state that a finite order of events leads to. -/
def run (state : σ) (events : List ε) : σ := events.foldl (advance step) state

/-- The states that an infinite order of events passes through. -/
def path (state : σ) (schedule : Nat → ε) : Nat → σ
  | 0 => state
  | time + 1 => advance step (path state schedule time) (schedule time)

variable {step}

variable {state : σ}

/-- What every event that happens preserves, every event preserves. -/
theorem advance_induction {p : σ → Prop} {event : ε} (hstate : p state)
    (hstep : ∀ next, step state event = some next → p next) : p (advance step state event) := by
  unfold advance
  cases hnext : step state event with
  | none => exact hstate
  | some next => exact hstep next hnext

/-- What every event that happens preserves holds behind every run. -/
theorem run_invariant {p : σ → Prop}
    (hstep : ∀ state event next, p state → step state event = some next → p next) (events : List ε)
    (hstate : p state) : p (run step state events) := by
  induction events generalizing state with
  | nil => exact hstate
  | cons event events ih =>
      exact ih (advance_induction hstate fun next => hstep state event next hstate)

/-- Every event of a run is allowed in the state where it comes up. -/
def allowed (step : σ → ε → Option σ) (permits : σ → ε → Bool) : σ → List ε → Bool
  | _, [] => true
  | state, event :: events =>
      permits state event && allowed step permits (advance step state event) events

variable {events : List ε}

/-- An invariant of the events that are allowed where they come up. -/
theorem run_invariant_of_allowed {p : σ → Prop} {permits : σ → ε → Bool}
    (hstep : ∀ state event next, p state → permits state event = true →
      step state event = some next → p next)
    (hstate : p state)
    (hallowed : allowed step permits state events = true) : p (run step state events) := by
  induction events generalizing state with
  | nil => exact hstate
  | cons event events ih =>
      rw [allowed, Bool.and_eq_true] at hallowed
      exact ih (advance_induction hstate fun next => hstep state event next hstate hallowed.1)
        hallowed.2

/-- What holds of every event of a run and the state in which it comes up. -/
def Along (step : σ → ε → Option σ) (p : σ → ε → Prop) : σ → List ε → Prop
  | _, [] => True
  | state, event :: events => p state event ∧ Along step p (advance step state event) events

variable {p : σ → ε → Prop}

/-- An invariant of the events of which something holds, in every state that a run passes. -/
theorem along_invariant {invariant : σ → Prop}
    (hstep : ∀ state event next, invariant state → p state event → step state event = some next →
      invariant next)
    (hstate : invariant state) (halong : Along step p state events) :
    Along step (fun state event => invariant state ∧ p state event) state events ∧
      invariant (run step state events) := by
  induction events generalizing state with
  | nil => exact ⟨trivial, hstate⟩
  | cons event events ih =>
      have hnext := advance_induction hstate fun next => hstep state event next hstate halong.1
      obtain ⟨hbehind, hlast⟩ := ih hnext halong.2
      exact ⟨⟨⟨hstate, halong.1⟩, hbehind⟩, hlast⟩

theorem along_mono {q : σ → ε → Prop} (himp : ∀ state event, p state event → q state event)
    (halong : Along step p state events) : Along step q state events := by
  induction events generalizing state with
  | nil => trivial
  | cons event events ih => exact ⟨himp state event halong.1, ih halong.2⟩

/-! ## Progress -/

end AudioStudio.Interleaving
