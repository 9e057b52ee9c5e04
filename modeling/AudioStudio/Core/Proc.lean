import Mathlib.Data.List.Infix

/-!
# Programs and their environment

A program issues commands and continues with the environment's replies.  The
environment is supplied later: as a handler with a state of its own, which may
also leave a command unanswered.  `fault` is a memory access outside its buffer
and `spent` the end of a bound that was put on a loop.
-/

namespace AudioStudio

inductive Proc {Cmd : Type} (Reply : Cmd → Type) (α : Type) where
  | done (value : α)
  | call (cmd : Cmd) (next : Reply cmd → Proc Reply α)
  | fault
  | spent

namespace Proc

variable {Cmd : Type} {Reply : Cmd → Type} {α β γ σ : Type}

/-- Issue one command and return its reply. -/
def request (cmd : Cmd) : Proc Reply (Reply cmd) :=
  .call cmd .done

def bind : Proc Reply α → (α → Proc Reply β) → Proc Reply β
  | .done value, rest => rest value
  | .call cmd next, rest => .call cmd fun reply => (next reply).bind rest
  | .fault, _ => .fault
  | .spent, _ => .spent

instance : Monad (Proc Reply) where
  pure := .done
  bind := .bind

@[simp] theorem pure_eq (value : α) : (pure value : Proc Reply α) = .done value := rfl

@[simp] theorem done_bind (value : α) (rest : α → Proc Reply β) :
    (Proc.done value >>= rest) = rest value := rfl

@[simp] theorem call_bind (cmd : Cmd) (next : Reply cmd → Proc Reply α)
    (rest : α → Proc Reply β) :
    (Proc.call cmd next >>= rest) = .call cmd fun reply => next reply >>= rest := rfl

@[simp] theorem fault_bind (rest : α → Proc Reply β) :
    ((.fault : Proc Reply α) >>= rest) = .fault := rfl

@[simp] theorem spent_bind (rest : α → Proc Reply β) :
    ((.spent : Proc Reply α) >>= rest) = .spent := rfl

theorem bind_assoc (program : Proc Reply α) (middle : α → Proc Reply β)
    (rest : β → Proc Reply γ) :
    (program >>= middle >>= rest) = program >>= fun value => middle value >>= rest := by
  induction program with
  | done value => rfl
  | call cmd next ih => exact congrArg (Proc.call cmd) (funext ih)
  | fault => rfl
  | spent => rfl

end Proc

/-! ## Running against a handler -/

/-- An environment with state: it answers a command, or leaves it pending. -/
abbrev Handler {Cmd : Type} (Reply : Cmd → Type) (σ : Type) :=
  (cmd : Cmd) → σ → Option (Reply cmd × σ)

inductive Outcome (α : Type) where
  | done (value : α)
  | waiting
  | fault
  | spent
  deriving DecidableEq, Repr

namespace Proc

variable {Cmd : Type} {Reply : Cmd → Type} {α β σ : Type}

def run (handler : Handler Reply σ) : Proc Reply α → σ → Outcome α × σ
  | .done value, state => (.done value, state)
  | .call cmd next, state =>
      match handler cmd state with
      | none => (.waiting, state)
      | some (reply, state) => (next reply).run handler state
  | .fault, state => (.fault, state)
  | .spent, state => (.spent, state)

variable (handler : Handler Reply σ)

@[simp] theorem run_done (value : α) (state : σ) :
    (Proc.done value).run handler state = (.done value, state) := rfl

@[simp] theorem run_fault (state : σ) :
    (.fault : Proc Reply α).run handler state = (.fault, state) := rfl

@[simp] theorem run_spent (state : σ) :
    (.spent : Proc Reply α).run handler state = (.spent, state) := rfl

variable {cmd : Cmd} {state state' : σ}

theorem run_call_of_some {reply : Reply cmd} (hreply : handler cmd state = some (reply, state'))
    (next : Reply cmd → Proc Reply α) :
    (Proc.call cmd next).run handler state = (next reply).run handler state' := by
  simp [run, hreply]

theorem run_call_of_none (hreply : handler cmd state = none) (next : Reply cmd → Proc Reply α) :
    (Proc.call cmd next).run handler state = (.waiting, state) := by
  simp [run, hreply]

/-- What an outcome of the first part means for the whole program. -/
def resume (rest : α → Proc Reply β) : Outcome α × σ → Outcome β × σ
  | (.done value, state) => (rest value).run handler state
  | (.waiting, state) => (.waiting, state)
  | (.fault, state) => (.fault, state)
  | (.spent, state) => (.spent, state)

theorem run_bind (program : Proc Reply α) (rest : α → Proc Reply β) (state : σ) :
    (program >>= rest).run handler state =
      resume handler rest (program.run handler state) := by
  induction program generalizing state with
  | done value => rfl
  | call cmd next ih =>
      rw [call_bind]
      cases hreply : handler cmd state with
      | none =>
          rw [run_call_of_none handler hreply, run_call_of_none handler hreply]
          rfl
      | some answer =>
          obtain ⟨reply, state'⟩ := answer
          rw [run_call_of_some handler hreply, run_call_of_some handler hreply]
          exact ih reply state'
  | fault => rfl
  | spent => rfl

theorem run_bind_done {program : Proc Reply α} {value : α}
    (hrun : program.run handler state = (.done value, state')) (rest : α → Proc Reply β) :
    (program >>= rest).run handler state = (rest value).run handler state' := by
  rw [run_bind, hrun, resume]

theorem run_request_bind {reply : Reply cmd} (hreply : handler cmd state = some (reply, state'))
    (rest : Reply cmd → Proc Reply β) :
    (request cmd >>= rest).run handler state = (rest reply).run handler state' :=
  run_call_of_some handler hreply _

/-! ## More input -/

/-- The order in which an environment grows, and a way to hand it more input that
changes no answer it has already given. -/
structure Extension (handler : Handler Reply σ) (extend : σ → σ) (grows : σ → σ → Prop) :
    Prop where
  refl : ∀ state, grows state state
  trans : ∀ first second third, grows first second → grows second third → grows first third
  step : ∀ cmd state reply state', handler cmd state = some (reply, state') →
    grows state state'
  more : ∀ state, grows state (extend state)
  stable : ∀ cmd state reply state', handler cmd state = some (reply, state') →
    handler cmd (extend state) = some (reply, extend state')

variable {handler} {extend : σ → σ} {grows : σ → σ → Prop}

theorem run_grows (hext : Extension handler extend grows) (program : Proc Reply α)
    (state : σ) : grows state (program.run handler state).2 := by
  induction program generalizing state with
  | done value => exact hext.refl state
  | call cmd next ih =>
      cases hreply : handler cmd state with
      | none =>
          rw [run_call_of_none handler hreply]
          exact hext.refl state
      | some answer =>
          obtain ⟨reply, state'⟩ := answer
          rw [run_call_of_some handler hreply]
          exact hext.trans _ _ _ (hext.step _ _ _ _ hreply) (ih reply state')
  | fault => exact hext.refl state
  | spent => exact hext.refl state

/-- Input that arrives later changes nothing for a program that is not waiting. -/
theorem run_extend (hext : Extension handler extend grows) (program : Proc Reply α)
    (state : σ) (hwaiting : (program.run handler state).1 ≠ .waiting) :
    program.run handler (extend state) =
      ((program.run handler state).1, extend (program.run handler state).2) := by
  induction program generalizing state with
  | done value => rfl
  | call cmd next ih =>
      cases hreply : handler cmd state with
      | none =>
          rw [run_call_of_none handler hreply] at hwaiting
          exact absurd rfl hwaiting
      | some answer =>
          obtain ⟨reply, state'⟩ := answer
          rw [run_call_of_some handler hreply] at hwaiting ⊢
          rw [run_call_of_some handler (hext.stable _ _ _ _ hreply)]
          exact ih reply state' hwaiting
  | fault => rfl
  | spent => rfl

/-- With more input a waiting program only goes on from where it stopped. -/
theorem run_extend_grows (hext : Extension handler extend grows) (program : Proc Reply α)
    (state : σ) :
    grows (program.run handler state).2 (program.run handler (extend state)).2 := by
  induction program generalizing state with
  | done value => exact hext.more state
  | call cmd next ih =>
      cases hreply : handler cmd state with
      | none =>
          rw [run_call_of_none handler hreply]
          exact hext.trans _ _ _ (hext.more state) (run_grows hext _ _)
      | some answer =>
          obtain ⟨reply, state'⟩ := answer
          rw [run_call_of_some handler hreply,
            run_call_of_some handler (hext.stable _ _ _ _ hreply)]
          exact ih reply state'
  | fault => exact hext.more state
  | spent => exact hext.more state

end Proc

/-! ## Sessions -/

section Session

variable {Cmd : Type} {Reply : Cmd → Type} {σ S β : Type}

/-- Calls made one after another on one object: the results of those that
returned, and the environment after them.  The next call starts only when the
one before it has returned. -/
def runCalls (handler : Handler Reply σ) :
    List (S → Proc Reply (β × S)) → S → σ → List β × σ
  | [], _, state => ([], state)
  | call :: calls, object, state =>
      match (call object).run handler state with
      | (.done (result, object), state) =>
          let later := runCalls handler calls object state
          (result :: later.1, later.2)
      | (_, state) => ([], state)

variable {handler : Handler Reply σ} {extend : σ → σ} {grows : σ → σ → Prop}

theorem runCalls_grows (hext : Proc.Extension handler extend grows)
    (calls : List (S → Proc Reply (β × S))) (object : S) (state : σ) :
    grows state (runCalls handler calls object state).2 := by
  induction calls generalizing object state with
  | nil => exact hext.refl state
  | cons call calls ih =>
      have hcall := Proc.run_grows hext (call object) state
      unfold runCalls
      split
      · next hrun =>
          rw [hrun] at hcall
          exact hext.trans _ _ _ hcall (ih _ _)
      · next hrun =>
          rw [hrun] at hcall
          exact hcall

/-- More input adds results at the end and continues the environment. -/
theorem runCalls_extend (hext : Proc.Extension handler extend grows)
    (calls : List (S → Proc Reply (β × S))) (object : S) (state : σ) :
    (runCalls handler calls object state).1 <+:
        (runCalls handler calls object (extend state)).1 ∧
      grows (runCalls handler calls object state).2
        (runCalls handler calls object (extend state)).2 := by
  induction calls generalizing object state with
  | nil => exact ⟨List.prefix_rfl, hext.more state⟩
  | cons call calls ih =>
      have hstay := Proc.run_extend hext (call object) state
      have hgo := Proc.run_extend_grows hext (call object) state
      have hlater : grows (Proc.run handler (call object) (extend state)).2
          (runCalls handler (call :: calls) object (extend state)).2 := by
        unfold runCalls
        split
        · next hrun =>
            rw [hrun]
            exact runCalls_grows hext _ _ _
        · next hrun =>
            rw [hrun]
            exact hext.refl _
      cases hrun : (call object).run handler state with
      | mk outcome state' =>
          rw [hrun] at hstay hgo
          cases outcome with
          | done value =>
              obtain ⟨result, object'⟩ := value
              have hboth := ih object' state'
              simp only [runCalls, hrun, hstay (by simp)]
              exact ⟨(List.prefix_cons_inj _).mpr hboth.1, hboth.2⟩
          | waiting =>
              refine ⟨?_, ?_⟩
              · simp [runCalls, hrun]
              · simp only [runCalls, hrun] at hlater ⊢
                exact hext.trans _ _ _ hgo hlater
          | fault =>
              simp only [runCalls, hrun, hstay (by simp)]
              exact ⟨List.prefix_rfl, hext.more state'⟩
          | spent =>
              simp only [runCalls, hrun, hstay (by simp)]
              exact ⟨List.prefix_rfl, hext.more state'⟩

end Session

end AudioStudio
