import Mathlib.Data.List.TakeWhile
import AudioStudio.Controller.DmaSizes

/-!
# What an OPEN request depends on

The name in an OPEN request is read as a C string behind the direction, and the payload need not
hold its end.  The bytes that follow the payload in its buffer then decide how long the name is.
-/

namespace AudioStudio.Controller

open LittleEndian
open Wire

/-! ## The bytes that are read -/

/-- How many bytes of `text` the function `ac_audio_open` reads: none behind a bad direction, the
first one for the check of an empty name, and with a slot to fill the whole C string. -/
def acAudioOpenReads (audio : AcAudioController) (direction : UInt32) (text : Bytes) : Nat :=
  let streamName := text.takeWhile (· ≠ 0)
  if !acAudioValidDirection direction then 0
  else if streamName = [] ∨ (audio.find (!·.allocated)).isNone then 1
  else streamName.length + 1

/-- Whatever follows the payload, the request leads to the same world, answers and return value,
and no byte behind the payload is read. -/
structure OpenConfined (driver : DriverOps) (answers : Answers) (world : World)
    (request : AcTransportFrame) : Prop where
  outcome : ∀ behind behind',
    (acAudioControlTransportHandler request).run
        (World.handle driver { answers with behind := behind }).logging (world, []) =
      (acAudioControlTransportHandler request).run
        (World.handle driver { answers with behind := behind' }).logging (world, [])
  reads : 4 ≤ request.payload.length → ∀ behind,
    4 + acAudioOpenReads world.audio (word32 request.payload 0) (request.payload.drop 4 ++ behind) ≤
      request.payload.length

section Open

variable {driver : DriverOps} {answers : Answers} {world : World} {request : AcTransportFrame}
  {direction : UInt32} {payload behind behind' : Bytes}

/-! ### Names that end in the payload -/

theorem length_takeWhile_lt (hend : 0 ∈ payload) :
    (payload.takeWhile (· ≠ 0)).length < payload.length := by
  induction payload with
  | nil => cases hend
  | cons byte payload ih =>
      by_cases hzero : byte = 0
      · simp [hzero]
      · have htail : 0 ∈ payload := (List.mem_cons.mp hend).resolve_left (Ne.symm hzero)
        simpa [List.takeWhile_cons, hzero] using ih htail

theorem takeWhile_append_of_mem (hend : 0 ∈ payload) :
    (payload ++ behind).takeWhile (· ≠ 0) = payload.takeWhile (· ≠ 0) := by
  rw [List.takeWhile_append, if_neg (length_takeWhile_lt hend).ne]

theorem takeWhile_of_notMem (hend : 0 ∉ payload) : payload.takeWhile (· ≠ 0) = payload := by
  rw [List.takeWhile_eq_self_iff]
  intro byte hbyte
  have hne : byte ≠ 0 := fun hzero => hend (hzero ▸ hbyte)
  simpa using hne

/-- The first byte alone decides whether a name is empty. -/
theorem takeWhile_append_eq_nil (hlong : payload ≠ []) :
    (payload ++ behind).takeWhile (· ≠ 0) = [] ↔ payload.takeWhile (· ≠ 0) = [] := by
  cases payload with
  | nil => exact absurd rfl hlong
  | cons byte payload =>
      by_cases hzero : byte = 0 <;> simp [hzero]

/-! ### The commands of an OPEN -/

/-- Only the command for the bytes behind the payload is answered with them. -/
theorem handle_behind {cmd : ControllerCmd} (hcmd : cmd ≠ .bytesBehind) (world : World) :
    World.handle driver { answers with behind := behind } cmd world =
      World.handle driver answers cmd world := by
  cases cmd <;> first | rfl | exact absurd rfl hcmd

theorem logging_behind {cmd : ControllerCmd} (hcmd : cmd ≠ .bytesBehind)
    (state : World × List ControllerCmd) :
    (World.handle driver { answers with behind := behind }).logging cmd state =
      (World.handle driver answers).logging cmd state := by
  rw [Handler.logging, Handler.logging, handle_behind hcmd]

theorem acAudioFreeDma_issues (index : SlotIndex) :
    (acAudioFreeDma index).Issues (· ≠ .bytesBehind) := by
  unfold acAudioFreeDma
  refine (Proc.issues_request nofun).bind fun audio => ?_
  refine Proc.Issues.bind ?_ fun _ => Proc.issues_request nofun
  cases (audio.streams index).dmaRaw with
  | none => exact Proc.issues_pure ()
  | some raw => exact Proc.issues_request nofun

theorem acAudioOpen_issues (direction : UInt32) (streamName : Bytes) :
    (acAudioOpen direction streamName).Issues (· ≠ .bytesBehind) := by
  unfold acAudioOpen
  split
  · exact Proc.issues_pure _
  · refine (Proc.issues_request nofun).bind fun audio => ?_
    split
    · exact Proc.issues_pure _
    · next index _ =>
        refine Proc.Issues.bind ?_ fun _ => ?_
        · exact (acAudioFreeDma_issues index).bind fun _ => Proc.issues_request nofun
        · exact (Proc.issues_request nofun).bind fun _ => Proc.issues_pure _

theorem acTransportSendResponse_issues (extraFlags : UInt32) (payload : Bytes) :
    (acTransportSendResponse request extraFlags payload).Issues (· ≠ .bytesBehind) := by
  unfold acTransportSendResponse
  dsimp only
  split
  · exact Proc.issues_pure _
  · exact Proc.issues_request nofun

/-- The answer to an OPEN that `ac_audio_open` has ended. -/
def answerOpen (request : AcTransportFrame) (result : Int × UInt32) : ControllerProc Int :=
  if result.1 ≠ 0 then acTransportSendError request "audio open failed"
  else acTransportSendResponse request 0 (le32 result.2)

theorem answerOpen_issues (result : Int × UInt32) :
    (answerOpen request result).Issues (· ≠ .bytesBehind) := by
  unfold answerOpen
  split
  · exact acTransportSendResponse_issues _ _
  · exact acTransportSendResponse_issues _ _

theorem acAudioHandleOpen_eq (hlong : 4 ≤ request.payload.length) :
    acAudioHandleOpen request = command .bytesBehind >>= fun behind : Bytes =>
      acAudioOpen (word32 request.payload 0)
        ((request.payload.drop 4 ++ behind).takeWhile (· ≠ 0)) >>= answerOpen request := by
  unfold acAudioHandleOpen
  rw [if_neg (not_lt.mpr hlong)]
  rfl

/-- The run of an OPEN, from the bytes behind its payload. -/
theorem handleOpen_run (hlong : 4 ≤ request.payload.length) :
    (acAudioHandleOpen request).run
        (World.handle driver { answers with behind := behind }).logging (world, []) =
      (acAudioOpen (word32 request.payload 0)
          ((request.payload.drop 4 ++ behind).takeWhile (· ≠ 0)) >>= answerOpen request).run
        (World.handle driver answers).logging (world, [.bytesBehind]) := by
  have hreply : World.handle driver { answers with behind := behind } .bytesBehind world =
      some (behind, world) := rfl
  rw [acAudioHandleOpen_eq hlong, run_command_logging hreply]
  refine Proc.Issues.run_congr ?_ (fun cmd state hcmd => logging_behind hcmd state) _
  exact (acAudioOpen_issues _ _).bind answerOpen_issues

/-! ### What the request depends on -/

/-- Two runs with the same name go on alike. -/
theorem handleOpen_congr (hlong : 4 ≤ request.payload.length)
    (hname : (acAudioOpen (word32 request.payload 0)
        ((request.payload.drop 4 ++ behind).takeWhile (· ≠ 0))).run
          (World.handle driver answers).logging (world, [.bytesBehind]) =
      (acAudioOpen (word32 request.payload 0)
        ((request.payload.drop 4 ++ behind').takeWhile (· ≠ 0))).run
          (World.handle driver answers).logging (world, [.bytesBehind])) :
    (acAudioHandleOpen request).run
        (World.handle driver { answers with behind := behind }).logging (world, []) =
      (acAudioHandleOpen request).run
        (World.handle driver { answers with behind := behind' }).logging (world, []) := by
  rw [handleOpen_run hlong, handleOpen_run hlong, Proc.run_bind, Proc.run_bind, hname]

/-- Without a slot to fill only the first byte of the name counts. -/
theorem acAudioOpen_full {streamName streamName' : Bytes}
    (hfull : world.audio.find (!·.allocated) = none)
    (hempty : streamName = [] ↔ streamName' = []) {log : List ControllerCmd} :
    (acAudioOpen direction streamName).run (World.handle driver answers).logging (world, log) =
      (acAudioOpen direction streamName').run (World.handle driver answers).logging
        (world, log) := by
  unfold acAudioOpen
  by_cases hrefused : !acAudioValidDirection direction ∨ streamName = []
  · rw [if_pos hrefused, if_pos (hrefused.imp_right hempty.mp)]
  · rw [if_neg hrefused, if_neg fun hother => hrefused (hother.imp_right hempty.mpr),
      run_streams_logging, run_streams_logging, hfull]

/-- What OPEN can be made to depend on: a payload that is long enough, has a direction and no
terminator, and finds a slot or has no name at all. -/
def OpenExposed (world : World) (payload : Bytes) : Prop :=
  4 ≤ payload.length ∧ acAudioValidDirection (word32 payload 0) = true ∧ 0 ∉ payload.drop 4 ∧
    (payload.length = 4 ∨ (world.audio.find (!·.allocated)).isSome)

/-- A request that is exposed reads behind its payload. -/
theorem OpenExposed.reads (hexposed : OpenExposed world payload) :
    payload.length < 4 + acAudioOpenReads world.audio (word32 payload 0) (payload.drop 4 ++ []) := by
  obtain ⟨hlong, hvalid, hend, hslot⟩ := hexposed
  rw [List.append_nil]
  simp only [acAudioOpenReads]
  rw [takeWhile_of_notMem hend, hvalid, if_neg (by decide)]
  split
  · next hshort =>
      obtain hempty | hfull := hshort
      · have hlength := congrArg List.length hempty
        rw [List.length_drop, List.length_nil] at hlength
        omega
      · obtain hfour | hfree := hslot
        · omega
        · rw [Option.isNone_iff_eq_none] at hfull
          simp [hfull] at hfree
  · rw [List.length_drop]
    omega

/-- A name with its end in the payload is read up to that end. -/
theorem acAudioOpenReads_of_mem (world : World) (direction : UInt32) (behind : Bytes)
    (hend : 0 ∈ payload) :
    acAudioOpenReads world.audio direction (payload ++ behind) ≤ payload.length := by
  have hlength := length_takeWhile_lt hend
  simp only [acAudioOpenReads]
  rw [takeWhile_append_of_mem hend]
  split
  · exact Nat.zero_le _
  · split
    · exact Nat.one_le_iff_ne_zero.mpr (List.length_pos_of_mem hend).ne'
    · exact hlength

theorem handler_open (hopen : request.commandId = acTransportAudioOpen) :
    acAudioControlTransportHandler request = acAudioHandleOpen request := by
  unfold acAudioControlTransportHandler
  exact if_pos hopen

/-- A payload without a direction is answered before anything is read. -/
theorem openConfined_of_short (hopen : request.commandId = acTransportAudioOpen)
    (hshort : request.payload.length < 4) : OpenConfined driver answers world request where
  outcome := by
    intro behind behind'
    rw [handler_open hopen, acAudioHandleOpen, if_pos hshort]
    refine Proc.Issues.run_congr (acTransportSendResponse_issues _ _) ?_ _
    intro cmd state hcmd
    exact (logging_behind hcmd state).trans (logging_behind hcmd state).symm
  reads := fun hlong => absurd hshort (not_lt.mpr hlong)

theorem openConfined_of_invalid (hopen : request.commandId = acTransportAudioOpen)
    (hlong : 4 ≤ request.payload.length)
    (hinvalid : acAudioValidDirection (word32 request.payload 0) = false) :
    OpenConfined driver answers world request where
  outcome := by
    intro behind behind'
    rw [handler_open hopen]
    apply handleOpen_congr hlong
    unfold acAudioOpen
    rw [hinvalid, if_pos (.inl rfl), if_pos (.inl rfl)]
  reads := by
    intro _ behind
    simp only [acAudioOpenReads]
    rw [hinvalid, if_pos (by decide)]
    exact hlong

theorem openConfined_of_end (hopen : request.commandId = acTransportAudioOpen)
    (hlong : 4 ≤ request.payload.length) (hend : 0 ∈ request.payload.drop 4) :
    OpenConfined driver answers world request where
  outcome := by
    intro behind behind'
    rw [handler_open hopen]
    apply handleOpen_congr hlong
    rw [takeWhile_append_of_mem hend, takeWhile_append_of_mem hend]
  reads := by
    intro _ behind
    have hreads := acAudioOpenReads_of_mem world (word32 request.payload 0) behind hend
    rw [List.length_drop] at hreads
    omega

/-- No slot is free, and the first byte of the name is in the payload. -/
theorem openConfined_of_full (hopen : request.commandId = acTransportAudioOpen)
    (hlong : 4 < request.payload.length)
    (hfull : world.audio.find (!·.allocated) = none) :
    OpenConfined driver answers world request := by
  have hname : request.payload.drop 4 ≠ [] := by
    rw [Ne, List.drop_eq_nil_iff]
    omega
  constructor
  · intro behind behind'
    rw [handler_open hopen]
    apply handleOpen_congr hlong.le
    apply acAudioOpen_full hfull
    rw [takeWhile_append_eq_nil hname, takeWhile_append_eq_nil hname]
  · intro _ behind
    simp only [acAudioOpenReads]
    rw [hfull]
    split
    · omega
    · rw [if_pos (.inr rfl)]
      exact hlong

theorem open_confined_iff (driver : DriverOps) (answers : Answers) (world : World)
    (request : AcTransportFrame) (hopen : request.commandId = acTransportAudioOpen) :
    OpenConfined driver answers world request ↔ ¬OpenExposed world request.payload := by
  constructor
  · intro hconfined hexposed
    have hinside := hconfined.reads hexposed.1 []
    have hreads := hexposed.reads
    omega
  · intro hhidden
    by_cases hlong : 4 ≤ request.payload.length
    · cases hvalid : acAudioValidDirection (word32 request.payload 0) with
      | false => exact openConfined_of_invalid hopen hlong hvalid
      | true =>
          by_cases hend : 0 ∈ request.payload.drop 4
          · exact openConfined_of_end hopen hlong hend
          · have hslot : ¬(request.payload.length = 4 ∨
                (world.audio.find (!·.allocated)).isSome) :=
              fun hslot => hhidden ⟨hlong, hvalid, hend, hslot⟩
            obtain ⟨hname, hfull⟩ := not_or.mp hslot
            rw [Option.not_isSome_iff_eq_none] at hfull
            exact openConfined_of_full hopen (by omega) hfull
    · exact openConfined_of_short hopen (not_le.mp hlong)

end Open

/-! ## Two names -/

/-- A request to open a playback stream. -/
def playbackRequest (streamName : Bytes) : AcTransportFrame :=
  { channelId := 3, commandId := acTransportAudioOpen, payload := le32 1 ++ streamName }

/-- The world before the first request. -/
def idleWorld : World where
  audio := acAudioInit
  channels := []
  heap := []
  sofStreams := fun _ => none

theorem open_confined_terminated :
    OpenConfined ⟨true, true⟩ {} idleWorld (playbackRequest [80, 0]) := by
  refine (open_confined_iff _ _ _ _ rfl).mpr fun hexposed => hexposed.2.2.1 ?_
  decide

/-- Without its terminator the name goes on behind the payload. -/
theorem open_name_leaks :
    ¬OpenConfined ⟨true, true⟩ {} idleWorld (playbackRequest [80]) := by
  intro hconfined
  have hsame := hconfined.outcome [] [81]
  have hnames := congrArg (fun result => (result.2.1.slot leadingSlot).streamName) hsame
  revert hnames
  decide +kernel

end AudioStudio.Controller
