import AudioStudio.Core.Tiling
import AudioStudio.Core.Yields
import AudioStudio.DataLink.Bounds
import AudioStudio.DataLink.Side

/-!
# Reassembled packets

What a receive call returns, next to the DATA frames that it accepted: the programs are
recorded with these frames and are the ones of both link ends when the record is dropped.
-/

namespace AudioStudio.DataLink

open AudioStudio.Common
open AudioStudio.Tiling
open LittleEndian
open Wire

/-! ## Recorded receivers -/

namespace DataLinkManager

end DataLinkManager

namespace Side

end Side

/-! ## What is accepted -/

/-- What the receivers check of the fragments that they copy into a buffer. -/
structure Taken (buffer : Bytes) (first : DataLinkFrame) (accepted : List DataLinkFrame) : Prop where
  head : accepted.head? = some first
  inside : ∀ frame ∈ accepted,
    frame.fragmentOffset.toNat + frame.payload.length ≤ buffer.length
  same : ∀ frame ∈ accepted, frame.flags &&& flagData ≠ 0 ∧
    frame.linkSequence = first.linkSequence ∧ frame.transportSize = first.transportSize
  index : ∀ (index : Nat) (frame : DataLinkFrame), accepted[index]? = some frame → index ≠ 0 →
    frame.fragmentIndex = index.toUInt16

/-- The packet of a receive call that accepted these frames. -/
def Returned (payload : Bytes) (accepted : List DataLinkFrame) : Prop :=
  ∃ buffer first, Taken buffer first accepted ∧ first.transportSize.toNat ≤ buffer.length ∧
    accepted.length = first.fragmentCount.toNat - 1 + 1 ∧
    payload = (assemble buffer accepted).take first.transportSize.toNat

section Assembly

variable {buffer payload : Bytes} {first : DataLinkFrame} {accepted : List DataLinkFrame}

theorem Taken.snoc (htaken : Taken buffer first accepted) {frame : DataLinkFrame}
    (hdata : frame.flags &&& flagData ≠ 0) (hlink : frame.linkSequence = first.linkSequence)
    (hsize : frame.transportSize = first.transportSize)
    (hindex : frame.fragmentIndex = accepted.length.toUInt16)
    (hinside : frame.fragmentOffset.toNat + frame.payload.length ≤ buffer.length) :
    Taken buffer first (accepted ++ [frame]) where
  head := by
    rw [List.head?_append, htaken.head]
    rfl
  inside := by
    intro other hmem
    obtain hmem | hmem := List.mem_append.mp hmem
    · exact htaken.inside other hmem
    · obtain rfl := List.mem_singleton.mp hmem
      exact hinside
  same := by
    intro other hmem
    obtain hmem | hmem := List.mem_append.mp hmem
    · exact htaken.same other hmem
    · obtain rfl := List.mem_singleton.mp hmem
      exact ⟨hdata, hlink, hsize⟩
  index := by
    intro position other hother hposition
    rw [List.getElem?_append] at hother
    split at hother
    · exact htaken.index position other hother hposition
    · have hlength := (List.getElem?_eq_some_iff.mp hother).1
      rw [List.length_singleton] at hlength
      obtain rfl := List.mem_singleton.mp (List.mem_of_getElem? hother)
      rw [hindex, show position = accepted.length by omega]

end Assembly

/-! ## What the programs return -/

section Programs

variable {buffer payload : Bytes} {first : DataLinkFrame} {accepted : List DataLinkFrame}

end Programs

/-! ## Both ends -/

/-- The packet and the frames of a recorded call that succeeded. -/
def delivered {ε γ σ : Type} :
    Outcome ((Except ε Bytes × List DataLinkFrame) × γ) × σ → Option (Bytes × List DataLinkFrame)
  | (.done ((.ok payload, accepted), _), _) => some (payload, accepted)
  | _ => none

/-- An endpoint of either side that waits for a packet. -/
def Side.waiting : (side : Side) → side.Endpoint
  | .firmware => { acDatalinkInit 256 with ops := some ⟨true, true⟩, isOpen := true }
  | .host => ({ caps := {} } : DataLinkManager)

end AudioStudio.DataLink
