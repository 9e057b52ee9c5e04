import AudioStudio.Core.Proc

/-!
# Postconditions of programs

An effect says which reply and which next state a command can have.  A program
ensures a postcondition when every run that the effect allows ends in it; such a
program meets no fault and no end of a bound.
-/

namespace AudioStudio

/-- The replies and next states that are possible for a command in a state. -/
abbrev Effect {Cmd : Type} (Reply : Cmd → Type) (σ : Type) :=
  (cmd : Cmd) → σ → Reply cmd → σ → Prop

/-- The effect of an environment that answers by a handler. -/
def Handler.effect {Cmd : Type} {Reply : Cmd → Type} {σ : Type}
    (handler : Handler Reply σ) : Effect Reply σ :=
  fun cmd state reply state' => handler cmd state = some (reply, state')

namespace Proc

variable {Cmd : Type} {Reply : Cmd → Type} {α β σ : Type}

def Ensures (effect : Effect Reply σ) : Proc Reply α → σ → (α → σ → Prop) → Prop
  | .done value, state, post => post value state
  | .call cmd next, state, post =>
      ∀ reply state', effect cmd state reply state' → (next reply).Ensures effect state' post
  | .fault, _, _ => False
  | .spent, _, _ => False

variable {effect : Effect Reply σ}

variable {value : α} {state : σ} {post : α → σ → Prop}

@[simp] theorem ensures_done :
    (Proc.done value : Proc Reply α).Ensures effect state post ↔ post value state :=
  Iff.rfl

variable {program : Proc Reply α} {post' : α → σ → Prop}

theorem Ensures.mono (hensures : program.Ensures effect state post)
    (himplies : ∀ value state', post value state' → post' value state') :
    program.Ensures effect state post' := by
  induction program generalizing state with
  | done value => exact himplies value state hensures
  | call cmd next ih =>
      exact fun reply state' heffect => ih reply (hensures reply state' heffect)
  | fault => exact hensures
  | spent => exact hensures

variable {rest : α → Proc Reply β}

theorem ensures_bind {post : β → σ → Prop} :
    (program >>= rest).Ensures effect state post ↔
      program.Ensures effect state fun value state' =>
        (rest value).Ensures effect state' post := by
  induction program generalizing state with
  | done value => exact Iff.rfl
  | call cmd next ih =>
      exact forall_congr' fun reply => forall_congr' fun state' => imp_congr_right fun _ => ih reply
  | fault => exact Iff.rfl
  | spent => exact Iff.rfl

variable {middle : α → σ → Prop}

/-- The rule of consequence for the first part of a program. -/
theorem Ensures.bind {post : β → σ → Prop} (hfirst : program.Ensures effect state middle)
    (hrest : ∀ value state', middle value state' → (rest value).Ensures effect state' post) :
    (program >>= rest).Ensures effect state post :=
  ensures_bind.mpr (hfirst.mono hrest)

variable {cmd : Cmd}

theorem ensures_request_bind {rest : Reply cmd → Proc Reply β} {post : β → σ → Prop} :
    (request cmd >>= rest).Ensures effect state post ↔
      ∀ reply state', effect cmd state reply state' →
        (rest reply).Ensures effect state' post :=
  Iff.rfl

/-- An environment with fewer answers leads to no new ends. -/
theorem Ensures.restrict {effect' : Effect Reply σ}
    (hensures : program.Ensures effect state post)
    (hkeeps : ∀ cmd state reply state', effect' cmd state reply state' →
      effect cmd state reply state') : program.Ensures effect' state post := by
  induction program generalizing state with
  | done value => exact hensures
  | call cmd next ih =>
      exact fun reply state' heffect =>
        ih reply (hensures reply state' (hkeeps cmd state reply state' heffect))
  | fault => exact hensures
  | spent => exact hensures

variable {state' : σ}

/-- A run against a handler ends in the postcondition. -/
theorem Ensures.of_run {handler : Handler Reply σ}
    (hensures : program.Ensures handler.effect state post)
    (hrun : program.run handler state = (.done value, state')) : post value state' := by
  induction program generalizing state with
  | done result =>
      cases hrun
      exact hensures
  | call cmd next ih =>
      cases hreply : handler cmd state with
      | none =>
          rw [run_call_of_none handler hreply] at hrun
          cases hrun
      | some answer =>
          obtain ⟨reply, middle⟩ := answer
          rw [run_call_of_some handler hreply] at hrun
          exact ih reply (hensures reply middle hreply) hrun
  | fault => exact hensures.elim
  | spent => exact hensures.elim

/-! ## Runs that end -/

/-- The run against a handler ends, and in the postcondition. -/
def Meets (handler : Handler Reply σ) (program : Proc Reply α) (state : σ)
    (post : α → σ → Prop) : Prop :=
  ∃ value state', program.run handler state = (.done value, state') ∧ post value state'

variable {handler : Handler Reply σ}

theorem meets_done (hpost : post value state) :
    (Proc.done value : Proc Reply α).Meets handler state post :=
  ⟨value, state, rfl, hpost⟩

theorem Meets.mono (hmeets : program.Meets handler state post)
    (himplies : ∀ value state', post value state' → post' value state') :
    program.Meets handler state post' := by
  obtain ⟨value, state', hrun, hpost⟩ := hmeets
  exact ⟨value, state', hrun, himplies value state' hpost⟩

theorem Meets.of_run (hmeets : program.Meets handler state post)
    (hrun : program.run handler state = (.done value, state')) : post value state' := by
  obtain ⟨value', state'', hrun', hpost⟩ := hmeets
  rw [hrun] at hrun'
  cases hrun'
  exact hpost

theorem Meets.bind {post : β → σ → Prop} (hfirst : program.Meets handler state middle)
    (hrest : ∀ value state', middle value state' → (rest value).Meets handler state' post) :
    (program >>= rest).Meets handler state post := by
  obtain ⟨value, state', hrun, hmiddle⟩ := hfirst
  obtain ⟨result, state'', hrun', hpost⟩ := hrest value state' hmiddle
  exact ⟨result, state'', (run_bind_done handler hrun rest).trans hrun', hpost⟩

theorem meets_request_bind {rest : Reply cmd → Proc Reply β} {reply : Reply cmd}
    {post : β → σ → Prop} (hreply : handler cmd state = some (reply, state'))
    (hrest : (rest reply).Meets handler state' post) :
    (request cmd >>= rest).Meets handler state post := by
  obtain ⟨result, state'', hrun, hpost⟩ := hrest
  exact ⟨result, state'', (run_request_bind handler hreply rest).trans hrun, hpost⟩

/-! ## Runs that may go on -/

/-- No run that the effect allows meets a fault, and one that ends does so in the
postcondition.  It may also wait or reach the end of a bound. -/
def Safe (effect : Effect Reply σ) : Proc Reply α → σ → (α → σ → Prop) → Prop
  | .done value, state, post => post value state
  | .call cmd next, state, post =>
      ∀ reply state', effect cmd state reply state' → (next reply).Safe effect state' post
  | .fault, _, _ => False
  | .spent, _, _ => True

@[simp] theorem safe_done :
    (Proc.done value : Proc Reply α).Safe effect state post ↔ post value state :=
  Iff.rfl

@[simp] theorem safe_spent : (Proc.spent : Proc Reply α).Safe effect state post :=
  trivial

theorem Safe.mono (hsafe : program.Safe effect state post)
    (himplies : ∀ value state', post value state' → post' value state') :
    program.Safe effect state post' := by
  induction program generalizing state with
  | done value => exact himplies value state hsafe
  | call cmd next ih =>
      exact fun reply state' heffect => ih reply (hsafe reply state' heffect)
  | fault => exact hsafe
  | spent => trivial

theorem Safe.bind {post : β → σ → Prop} (hfirst : program.Safe effect state middle)
    (hrest : ∀ value state', middle value state' → (rest value).Safe effect state' post) :
    (program >>= rest).Safe effect state post := by
  induction program generalizing state with
  | done value => exact hrest value state hfirst
  | call cmd next ih =>
      exact fun reply state' heffect => ih reply (hfirst reply state' heffect)
  | fault => exact hfirst
  | spent => trivial

theorem safe_request_bind {rest : Reply cmd → Proc Reply β} {post : β → σ → Prop} :
    (request cmd >>= rest).Safe effect state post ↔
      ∀ reply state', effect cmd state reply state' → (rest reply).Safe effect state' post :=
  Iff.rfl

/-- An environment that keeps to the effect drives a safe program into no fault. -/
theorem Safe.run_ne_fault {handler : Handler Reply σ}
    (hsafe : program.Safe effect state post)
    (hkeeps : ∀ cmd state reply state', handler cmd state = some (reply, state') →
      effect cmd state reply state') : (program.run handler state).1 ≠ .fault := by
  induction program generalizing state with
  | done value => exact nofun
  | call cmd next ih =>
      cases hreply : handler cmd state with
      | none =>
          rw [run_call_of_none handler hreply]
          exact nofun
      | some answer =>
          obtain ⟨reply, state'⟩ := answer
          rw [run_call_of_some handler hreply]
          exact ih reply (hsafe reply state' (hkeeps cmd state reply state' hreply))
  | fault => exact hsafe.elim
  | spent => exact nofun

end Proc

end AudioStudio
