import AudioStudio.Core.Yields

/-!
# What programs issue

A program issues only commands of a kind when no run of it, whatever the replies, issues
another one.
-/

namespace AudioStudio

variable {Cmd : Type} {Reply : Cmd → Type} {α β σ : Type}

/-- An environment with a log of the commands that it has answered. -/
def Handler.logging (handler : Handler Reply σ) : Handler Reply (σ × List Cmd) :=
  fun cmd state =>
    (handler cmd state.1).map fun answer => (answer.1, answer.2, state.2 ++ [cmd])

namespace Proc

def Issues (allowed : Cmd → Prop) : Proc Reply α → Prop
  | .done _ => True
  | .call cmd next => allowed cmd ∧ ∀ reply, (next reply).Issues allowed
  | .fault => True
  | .spent => True

variable {allowed : Cmd → Prop}

theorem issues_pure (value : α) : (pure value : Proc Reply α).Issues allowed :=
  trivial

theorem issues_request {cmd : Cmd} (hcmd : allowed cmd) :
    (request cmd : Proc Reply (Reply cmd)).Issues allowed :=
  ⟨hcmd, fun _ => trivial⟩

variable {program : Proc Reply α}

theorem Issues.bind {rest : α → Proc Reply β} (hprogram : program.Issues allowed)
    (hrest : ∀ value, (rest value).Issues allowed) : (program >>= rest).Issues allowed := by
  induction program with
  | done value => exact hrest value
  | call cmd next ih => exact ⟨hprogram.1, fun reply => ih reply (hprogram.2 reply)⟩
  | fault => trivial
  | spent => trivial

/-- The rest of a program may depend on what the first part can return. -/
theorem Issues.bind_yields {rest : α → Proc Reply β} {middle : α → Prop}
    (hprogram : program.Issues allowed) (hyields : program.Yields middle)
    (hrest : ∀ value, middle value → (rest value).Issues allowed) :
    (program >>= rest).Issues allowed := by
  induction program with
  | done value => exact hrest value hyields
  | call cmd next ih =>
      exact ⟨hprogram.1, fun reply => ih reply (hprogram.2 reply) (hyields reply)⟩
  | fault => trivial
  | spent => trivial

/-- All that a run logs is allowed. -/
theorem Issues.of_run {handler : Handler Reply σ} (hissues : program.Issues allowed)
    {state state' : σ} {log log' : List Cmd} {outcome : Outcome α}
    (hrun : program.run handler.logging (state, log) = (outcome, state', log'))
    (hlog : ∀ cmd ∈ log, allowed cmd) : ∀ cmd ∈ log', allowed cmd := by
  induction program generalizing state log with
  | done value =>
      cases hrun
      exact hlog
  | call cmd next ih =>
      cases hreply : handler cmd state with
      | none =>
          have hpending : handler.logging cmd (state, log) = none := by
            rw [Handler.logging, hreply]
            rfl
          rw [run_call_of_none _ hpending] at hrun
          cases hrun
          exact hlog
      | some answer =>
          have hanswer : handler.logging cmd (state, log) =
              some (answer.1, answer.2, log ++ [cmd]) := by
            rw [Handler.logging, hreply]
            rfl
          rw [run_call_of_some _ hanswer] at hrun
          refine ih answer.1 (hissues.2 answer.1) hrun ?_
          rw [List.forall_mem_append, List.forall_mem_singleton]
          exact ⟨hlog, hissues.1⟩
  | fault =>
      cases hrun
      exact hlog
  | spent =>
      cases hrun
      exact hlog

/-- Two environments that answer all that is allowed alike run the program alike. -/
theorem Issues.run_congr {handler handler' : Handler Reply σ} (hissues : program.Issues allowed)
    (hagree : ∀ cmd state, allowed cmd → handler cmd state = handler' cmd state) (state : σ) :
    program.run handler state = program.run handler' state := by
  induction program generalizing state with
  | done value => rfl
  | call cmd next ih =>
      have hsame := hagree cmd state hissues.1
      cases hreply : handler cmd state with
      | none =>
          rw [run_call_of_none _ hreply, run_call_of_none _ (hsame.symm.trans hreply)]
      | some answer =>
          rw [run_call_of_some _ hreply, run_call_of_some _ (hsame.symm.trans hreply)]
          exact ih answer.1 (hissues.2 answer.1) answer.2
  | fault => rfl
  | spent => rfl

end Proc

end AudioStudio
