import AudioStudio.Core.Proc

/-!
# What programs can return

A program yields a postcondition when every value that it can return satisfies it, whatever
its environment replies; it need not return at all.
-/

namespace AudioStudio.Proc

variable {Cmd : Type} {Reply : Cmd → Type} {α β σ : Type}

def Yields (post : α → Prop) : Proc Reply α → Prop
  | .done value => post value
  | .call _ next => ∀ reply, (next reply).Yields post
  | .fault => True
  | .spent => True

variable {program : Proc Reply α}

theorem Yields.mono {post post' : α → Prop} (hyields : program.Yields post)
    (himplies : ∀ value, post value → post' value) : program.Yields post' := by
  induction program with
  | done value => exact himplies value hyields
  | call cmd next ih => exact fun reply => ih reply (hyields reply)
  | fault => exact hyields
  | spent => exact hyields

/-- The rule of consequence for the first part of a program. -/
theorem Yields.bind {rest : α → Proc Reply β} {middle : α → Prop} {post : β → Prop}
    (hfirst : program.Yields middle) (hrest : ∀ value, middle value → (rest value).Yields post) :
    (program >>= rest).Yields post := by
  induction program with
  | done value => exact hrest value hfirst
  | call cmd next ih => exact fun reply => ih reply (hfirst reply)
  | fault => exact hfirst
  | spent => exact hfirst

theorem Yields.of_run {handler : Handler Reply σ} {state state' : σ} {value : α} {post : α → Prop}
    (hyields : program.Yields post) (hrun : program.run handler state = (.done value, state')) :
    post value := by
  induction program generalizing state with
  | done result =>
      cases hrun
      exact hyields
  | call cmd next ih =>
      cases hreply : handler cmd state with
      | none =>
          rw [run_call_of_none handler hreply] at hrun
          cases hrun
      | some answer =>
          rw [run_call_of_some handler hreply] at hrun
          exact ih answer.1 (hyields answer.1) hrun
  | fault => cases hrun
  | spent => cases hrun

end AudioStudio.Proc
