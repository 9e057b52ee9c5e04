import AudioStudio.Audio.RegistryInvariant

/-!
# Races for an id

Creations and removes of one id in any order of steps: who gets the id, and who closes what.
-/

namespace AudioStudio.Audio

open AudioStudio.Common
open AudioStudio.Rpc (StreamDirection AudioServiceConfig validateStream)
open LittleEndian

namespace CallOutcome

/-- A creation that found the id free, or taken before or behind the creation of its device. -/
def creates (id : Bytes) : CallOutcome → Bool
  | .created other _ => other = id
  | _ => false

def loses (id : Bytes) : CallOutcome → Bool
  | .taken other | .lost other _ => other = id
  | _ => false

def removes (id : Bytes) : CallOutcome → Bool
  | .removed other _ => other = id
  | _ => false

end CallOutcome

namespace AudioService

variable {config : AudioServiceConfig} {service next : AudioService} {index session : Nat}
  {call : CallState} {id : Bytes}

/-! ## One step -/

/-- What the records of a step say about an id. -/
inductive Reports (id : Bytes) (before after : Bool) : List Record → Prop where
  | nothing {records : List Record} (hsame : after = before)
      (hnone : ∀ record ∈ records, record.outcome.creates id = false ∧
        record.outcome.loses id = false ∧ record.outcome.removes id = false) :
      Reports id before after records
  | created {record : Record} (hcreates : record.outcome.creates id = true)
      (hfree : before = false) (htaken : after = true) : Reports id before after [record]
  | lost {record : Record} (hloses : record.outcome.loses id = true)
      (hcreates : record.outcome.creates id = false) (hremoves : record.outcome.removes id = false)
      (htaken : before = true) (hsame : after = before) : Reports id before after [record]
  | removed {record : Record} (hremoves : record.outcome.removes id = true) :
      Reports id before after [record]

/-- The records of a run without a remove of the id: nobody has created it and nobody has lost it,
or exactly one creation has succeeded. -/
def Contended (id : Bytes) (taken : Bool) (records : List Record) : Prop :=
  (∀ record ∈ records, record.outcome.removes id = false) →
    if taken then records.countP (·.outcome.creates id) = 1
    else ∀ record ∈ records, record.outcome.creates id = false ∧ record.outcome.loses id = false

theorem Contended.append {before after : Bool} {records later : List Record}
    (hcontended : Contended id before records) (hreports : Reports id before after later) :
    Contended id after (records ++ later) := by
  intro hkept
  rw [List.forall_mem_append] at hkept
  have hearlier := hcontended hkept.1
  cases hreports with
  | nothing hsame hnone =>
      subst hsame
      have hcount : later.countP (·.outcome.creates id) = 0 :=
        List.countP_eq_zero.mpr fun record hmem => by simp [(hnone record hmem).1]
      split_ifs at hearlier ⊢ with htaken
      · rw [List.countP_append, hcount, hearlier]
      · rw [List.forall_mem_append]
        exact ⟨hearlier, fun record hmem => ⟨(hnone record hmem).1, (hnone record hmem).2.1⟩⟩
  | created hcreates hfree htaken =>
      subst hfree htaken
      rw [if_neg Bool.false_ne_true] at hearlier
      have hcount : records.countP (·.outcome.creates id) = 0 :=
        List.countP_eq_zero.mpr fun record hmem => by simp [(hearlier record hmem).1]
      rw [if_pos rfl, List.countP_append, hcount, List.countP_singleton, if_pos hcreates]
  | lost hloses hcreates hremoves htaken hsame =>
      subst htaken hsame
      rw [if_pos rfl] at hearlier ⊢
      rw [List.countP_append, hearlier, List.countP_singleton, if_neg (by simp [hcreates])]
  | removed hremoves =>
      have hnot := hkept.2 _ List.mem_cons_self
      rw [hremoves] at hnot
      cases hnot

end AudioService

end AudioStudio.Audio
