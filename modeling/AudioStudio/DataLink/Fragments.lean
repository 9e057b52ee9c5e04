import AudioStudio.Core.StopAndWait
import AudioStudio.Wire.DataLinkFrame
import AudioStudio.Wire.TransportFrame

/-!
# The fragments of a packet

Both senders cut a packet into the same frames.  Both receivers are instances of
one format, which differ in the frames they accept and in what they refuse aloud.
-/

namespace AudioStudio.DataLink

open LittleEndian
open StopAndWait
open Wire

/-! ## Cutting -/

/-- The frame of fragment `index` out of `count`. -/
def fragment (payload : Bytes) (linkSequence : UInt32) (capacity count index : Nat) :
    DataLinkFrame where
  flags := if index + 1 = count then flagData ||| flagEnd else flagData
  linkSequence := linkSequence
  transportSize := payload.length.toUInt32
  fragmentOffset := (index * capacity).toUInt32
  fragmentIndex := index.toUInt16
  fragmentCount := count.toUInt16
  payload := (payload.drop (index * capacity)).take capacity

def fragmentsFrom (payload : Bytes) (linkSequence : UInt32) (capacity count index rest : Nat) :
    List DataLinkFrame :=
  (List.range' index rest).map (fragment payload linkSequence capacity count)

def fragmentCount (payload : Bytes) (capacity : Nat) : Nat :=
  max 1 ((payload.length + capacity - 1) / capacity)

def fragments (payload : Bytes) (linkSequence : UInt32) (capacity : Nat) : List DataLinkFrame :=
  fragmentsFrom payload linkSequence capacity (fragmentCount payload capacity) 0
    (fragmentCount payload capacity)

theorem fragmentsFrom_succ (payload : Bytes) (linkSequence : UInt32)
    (capacity count index rest : Nat) :
    fragmentsFrom payload linkSequence capacity count index (rest + 1) =
      fragment payload linkSequence capacity count index ::
        fragmentsFrom payload linkSequence capacity count (index + 1) rest := by
  rw [fragmentsFrom, List.range'_succ]
  rfl

theorem fragments_ne_nil (payload : Bytes) (linkSequence : UInt32) (capacity : Nat) :
    fragments payload linkSequence capacity ≠ [] := by
  refine List.ne_nil_of_length_pos ?_
  rw [fragments, fragmentsFrom, List.length_map, List.length_range', fragmentCount]
  omega

/-- The rest of a packet and the capacity bound a fragment's payload the same way. -/
theorem take_min_drop (payload : Bytes) (capacity offset : Nat) :
    (payload.drop offset).take (min capacity (payload.length - offset)) =
      (payload.drop offset).take capacity := by
  rw [List.take_eq_take_iff, List.length_drop]
  omega

/-- The frames of a session's packets: a refused packet has none and uses up no link
sequence number. -/
def sessionFrames (accepts : Bytes → Bool) (capacity : Nat) :
    UInt32 → List Bytes → List (List DataLinkFrame)
  | _, [] => []
  | next, payload :: payloads =>
      if accepts payload then
        fragments payload next capacity :: sessionFrames accepts capacity (next + 1) payloads
      else [] :: sessionFrames accepts capacity next payloads

/-! ## Two receivers, one format -/

def answersFragment (reply frame : DataLinkFrame) : Bool :=
  decide (reply.linkSequence = frame.linkSequence) &&
    decide (reply.fragmentIndex = frame.fragmentIndex) && decide (reply.flags &&& flagAck ≠ 0)

def isNext (first : DataLinkFrame) (expected : Nat) (frame : DataLinkFrame) : Bool :=
  decide (frame.flags &&& flagData ≠ 0) && decide (frame.linkSequence = first.linkSequence) &&
    decide (frame.fragmentIndex = expected.toUInt16)

theorem isNext_iff {first frame : DataLinkFrame} {expected : Nat} :
    isNext first expected frame = true ↔
      frame.flags &&& flagData ≠ 0 ∧ frame.linkSequence = first.linkSequence ∧
        frame.fragmentIndex = expected.toUInt16 := by
  simp only [isNext, Bool.and_eq_true, decide_eq_true_eq, and_assoc]

/-- What `DataLinkManager::receivePacket` accepts. -/
def hostFormat : Format DataLinkFrame where
  opens frame :=
    if frame.flags &&& flagData = 0 ∨ frame.fragmentOffset ≠ 0 ∨
        frame.payload.length > frame.transportSize.toNat then none
    else some (frame.fragmentCount.toNat - 1)
  continues first expected frame :=
    isNext first expected frame && decide (frame.transportSize = first.transportSize) &&
      decide (frame.fragmentOffset.toNat + frame.payload.length ≤ first.transportSize.toNat)
  ack := DataLinkFrameCodec.makeAck
  refusal first expected frame :=
    if isNext first expected frame then [] else [DataLinkFrameCodec.makeNak frame]
  answers := answersFragment

/-- What `ac_datalink_receive_packet` accepts into a buffer of `capacity` bytes. -/
def acFormat (capacity : Nat) : Format DataLinkFrame where
  opens frame :=
    if frame.flags &&& flagData = 0 ∨ frame.fragmentOffset ≠ 0 ∨ frame.fragmentCount = 0 ∨
        frame.transportSize.toNat > capacity ∨ frame.transportSize.toNat > acDatalinkMaxPacketSize ∨
        frame.payload.length > frame.transportSize.toNat then none
    else some (frame.fragmentCount.toNat - 1)
  continues first expected frame :=
    isNext first expected frame && decide (frame.transportSize = first.transportSize) &&
      decide (frame.fragmentOffset.toNat + frame.payload.length ≤ capacity)
  ack := DataLinkFrameCodec.makeAck
  refusal _ _ frame := [DataLinkFrameCodec.makeNak frame]
  answers := answersFragment

/-- Copying fragments into a buffer, each at its offset. -/
def assemble (buffer : Bytes) (frames : List DataLinkFrame) : Bytes :=
  frames.foldl (fun buffer frame => poke buffer frame.fragmentOffset.toNat frame.payload) buffer

@[simp] theorem assemble_snoc (buffer : Bytes) (frames : List DataLinkFrame)
    (frame : DataLinkFrame) :
    assemble buffer (frames ++ [frame]) =
      poke (assemble buffer frames) frame.fragmentOffset.toNat frame.payload := by
  rw [assemble, List.foldl_append]
  rfl

/-- A receive call that succeeds returns what it put together from a whole packet. -/
inductive Delivers {ε : Type} (content : DataLinkFrame → List DataLinkFrame → Bytes) :
    Except ε Bytes → Option (List DataLinkFrame) → Prop where
  | packet {first : DataLinkFrame} {frames : List DataLinkFrame} :
      frames.head? = some first → Delivers content (.ok (content first frames)) (some frames)
  | failed (error : ε) : Delivers content (.error error) none

end AudioStudio.DataLink
