import AudioStudio.Core.Proc

/-!
# Exchanges of a program

What a program returns after an exchange of commands and replies with its environment: every
list of exchanges is a pattern of replies that the environment may give.
-/

namespace AudioStudio

/-- A command and the reply to it. -/
abbrev Exchange {Cmd : Type} (Reply : Cmd → Type) := (cmd : Cmd) × Reply cmd

namespace Proc

variable {Cmd : Type} {Reply : Cmd → Type} {α β : Type}

/-- The program returns a value after exactly these exchanges. -/
def Returns : Proc Reply α → List (Exchange Reply) → α → Prop
  | .done value, exchanges, result => exchanges = [] ∧ value = result
  | .call cmd next, exchanges, result =>
      ∃ reply rest, exchanges = ⟨cmd, reply⟩ :: rest ∧ (next reply).Returns rest result
  | .fault, _, _ => False
  | .spent, _, _ => False

variable {exchanges : List (Exchange Reply)}

variable {program : Proc Reply α}

theorem returns_bind {rest : α → Proc Reply β} {result : β} :
    (program >>= rest).Returns exchanges result ↔
      ∃ value earlier later, exchanges = earlier ++ later ∧
        program.Returns earlier value ∧ (rest value).Returns later result := by
  induction program generalizing exchanges with
  | done value =>
      constructor
      · exact fun hrest => ⟨value, [], exchanges, rfl, ⟨rfl, rfl⟩, hrest⟩
      · rintro ⟨_, _, later, rfl, ⟨rfl, rfl⟩, hrest⟩
        exact hrest
  | call cmd next ih =>
      constructor
      · rintro ⟨reply, _, rfl, hnext⟩
        obtain ⟨value, earlier, later, rfl, hprogram, hrest⟩ := (ih reply).mp hnext
        exact ⟨value, ⟨cmd, reply⟩ :: earlier, later, rfl, ⟨reply, earlier, rfl, hprogram⟩, hrest⟩
      · rintro ⟨value, _, later, rfl, ⟨reply, earlier, rfl, hprogram⟩, hrest⟩
        exact ⟨reply, earlier ++ later, rfl,
          (ih reply).mpr ⟨value, earlier, later, rfl, hprogram, hrest⟩⟩
  | fault => exact iff_of_false id fun ⟨_, _, _, _, hfault, _⟩ => hfault
  | spent => exact iff_of_false id fun ⟨_, _, _, _, hspent, _⟩ => hspent

end Proc

/-! ## Programs that throw -/

section Throws

variable {Cmd : Type} {Reply : Cmd → Type} {ε α β : Type} {exchanges : List (Exchange Reply)}

open Proc

theorem returns_bind_ok {program : ExceptT ε (Proc Reply) α} {rest : α → ExceptT ε (Proc Reply) β}
    {result : β} (hreturns : (program >>= rest).run.Returns exchanges (.ok result)) :
    ∃ value earlier later, exchanges = earlier ++ later ∧
      program.run.Returns earlier (.ok value) ∧ (rest value).run.Returns later (.ok result) := by
  rw [ExceptT.run_bind] at hreturns
  obtain ⟨outcome, earlier, later, rfl, hprogram, hrest⟩ := returns_bind.mp hreturns
  cases outcome with
  | error fault => cases hrest.2
  | ok value => exact ⟨value, earlier, later, rfl, hprogram, hrest⟩

/-- What a program throws was thrown by one of its parts. -/
theorem returns_bind_error {program : ExceptT ε (Proc Reply) α}
    {rest : α → ExceptT ε (Proc Reply) β} {fault : ε}
    (hreturns : (program >>= rest).run.Returns exchanges (.error fault)) :
    (∃ earlier later, exchanges = earlier ++ later ∧
      program.run.Returns earlier (.error fault)) ∨
    ∃ value earlier later, exchanges = earlier ++ later ∧
      program.run.Returns earlier (.ok value) ∧ (rest value).run.Returns later (.error fault) := by
  rw [ExceptT.run_bind] at hreturns
  obtain ⟨outcome, earlier, later, rfl, hprogram, hrest⟩ := returns_bind.mp hreturns
  cases outcome with
  | error thrown =>
      cases hrest.2
      exact .inl ⟨earlier, later, rfl, hprogram⟩
  | ok value => exact .inr ⟨value, earlier, later, rfl, hprogram, hrest⟩

end Throws

end AudioStudio
