import AudioStudio.Audio.AlsaWrites

/-!
# Reads of the ALSA capture device

A read asks for more than its buffer holds exactly when it is tried again after fewer frames
were available than requested.  What it returns is what the last `snd_pcm_readi` delivered,
unless the wait ended in an error that was recovered from.
-/

namespace AudioStudio.Audio

open AudioStudio.Common
open LittleEndian
open AlsaAudioCaptureDevice (readInto availableFrames requestedFrames framesToRead finishRead
  readAvailable readFrame)

/-! ## Runs of a read -/

def isRead : PcmExchange → Bool
  | ⟨.readi _ _, _⟩ => true
  | _ => false

/-- A read asks for no more than its buffer holds. -/
def AsksWithin (frameBytes : Nat) : PcmExchange → Prop
  | ⟨.readi room frames, _⟩ => frames * frameBytes ≤ room
  | _ => True

/-- The data is what one read of the run delivered, a frame at least. -/
def Delivered (frameBytes : Nat) (exchanges : List PcmExchange) (data : Bytes) : Prop :=
  frameBytes ≤ data.length ∧ ∃ room asked, ∃ frames : Int64, 0 < frames ∧
    (⟨.readi room asked, (frames, data)⟩ : PcmExchange) ∈ exchanges

section Reads

variable {strerror : ErrorTexts} {frame data : Bytes} {timeoutMs : UInt32} {requested : Nat}
  {device device' : AlsaAudioCaptureDevice} {exchanges : List PcmExchange}

/-- No exchange is a read or a wait. -/
def Preparing (exchanges : List PcmExchange) : Prop :=
  ∀ exchange ∈ exchanges, (∃ available, exchange = ⟨.availUpdate, available⟩) ∨
    ∃ error rc, exchange = ⟨.recover error, rc⟩

variable {available : Int64}

variable {buffer : Bytes} {frames : Nat}

theorem Preparing.quiet (hpreparing : Preparing exchanges) (frameBytes : Nat) :
    (∀ exchange ∈ exchanges, AsksWithin frameBytes exchange) ∧ exchanges.countP isRead = 0 := by
  constructor
  · intro exchange hmem
    rcases hpreparing exchange hmem with ⟨_, rfl⟩ | ⟨_, _, rfl⟩
    · trivial
    · trivial
  · refine List.countP_eq_zero.mpr fun exchange hmem => ?_
    rcases hpreparing exchange hmem with ⟨_, rfl⟩ | ⟨_, _, rfl⟩
    · exact Bool.false_ne_true
    · exact Bool.false_ne_true

theorem Preparing.waits (hpreparing : Preparing exchanges) :
    ∀ exchange ∈ exchanges, WaitSucceeds exchange := by
  intro exchange hmem
  rcases hpreparing exchange hmem with ⟨_, rfl⟩ | ⟨_, _, rfl⟩
  · trivial
  · trivial

end Reads

end AudioStudio.Audio
