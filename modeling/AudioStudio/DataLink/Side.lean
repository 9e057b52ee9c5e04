import AudioStudio.DataLink.Packets

/-!
# Both ends of a link

Either implementation can run at either end.  A side's calls form a session on
one link object, and every session is a stop-and-wait session over the fragments
of its packets.
-/

namespace AudioStudio.DataLink

open AudioStudio.Common
open LittleEndian
open StopAndWait
open Wire
open DataLinkFrameCodec

inductive Side where
  | firmware
  | host
  deriving DecidableEq, Repr

structure SendCall where
  payload : Bytes
  timeoutMs : UInt32
  deriving DecidableEq, Repr

/-- Only the firmware receives into the caller's buffer. -/
structure ReceiveCall where
  buffer : Bytes
  timeoutMs : UInt32
  deriving DecidableEq, Repr

namespace Side

def Error : Side → Type
  | .firmware => AcError
  | .host => Status

def Endpoint : Side → Type
  | .firmware => AcDatalinkController
  | .host => DataLinkManager

def sendPacket (bound : Nat) (call : SendCall) :
    (side : Side) → side.Endpoint → LinkProc side.Error (Except side.Error Unit × side.Endpoint)
  | .firmware => acDatalinkSendPacket bound call.payload call.timeoutMs
  | .host => DataLinkManager.sendPacket bound call.payload call.timeoutMs

def acReceive (bound : Nat) (call : ReceiveCall) (datalink : AcDatalinkController) :
    LinkProc AcError (Except AcError Bytes × AcDatalinkController) := do
  let (received, datalink) ← acDatalinkReceivePacket bound call.buffer call.timeoutMs datalink
  pure (received.packet, datalink)

def receivePacket (bound : Nat) (call : ReceiveCall) :
    (side : Side) → side.Endpoint → LinkProc side.Error (Except side.Error Bytes × side.Endpoint)
  | .firmware => acReceive bound call
  | .host => DataLinkManager.receivePacket bound call.timeoutMs

/-- Between two calls: no received bytes are kept, and the next packet gets the link
sequence number `next`. -/
def Ready (mtu attempts : Nat) (next : UInt32) : (side : Side) → side.Endpoint → Prop
  | .firmware, datalink =>
      AcDatalinkController.Idle mtu next datalink ∧ attempts = acDatalinkMaxRetries + 1
  | .host, manager => ∃ caps config, DataLinkManager.Idle caps config next manager ∧
      caps.maxPayloadSize = mtu ∧ config.maxRetries + 1 = attempts

theorem ready_acDatalinkInit {mtu : Nat} (hmtu : 0 < mtu) (hsmall : mtu ≤ acDatalinkMaxFrameSize) :
    Ready mtu (acDatalinkMaxRetries + 1) 1 .firmware (acDatalinkInit mtu) := by
  refine ⟨⟨rfl, rfl, ?_, List.length_replicate, rfl, rfl⟩, rfl⟩
  simp [acDatalinkEffectiveMtu, acDatalinkInit, hmtu.ne', Nat.not_lt.mpr hsmall]

theorem ready_dataLinkManager (caps : DataLinkDeviceCaps) (config : DataLinkManagerConfig) :
    Ready caps.maxPayloadSize (config.maxRetries + 1) 1 .host { caps, config } :=
  ⟨caps, config, ⟨rfl, rfl, rfl, rfl⟩, rfl, rfl⟩

/-- The packets a side sends at all. -/
def accepts (mtu : Nat) : Side → Bytes → Bool
  | .firmware => acAccepts mtu
  | .host => DataLinkManager.accepts mtu

def format (capacity : Nat) : Side → Format DataLinkFrame
  | .firmware => acFormat capacity
  | .host => hostFormat

theorem format_link (side : Side) (capacity : Nat) : LinkFormat (side.format capacity) := by
  cases side with
  | firmware => exact acFormat_link capacity
  | host => exact hostFormat_link

def content (buffer : Bytes) : Side → DataLinkFrame → List DataLinkFrame → Bytes
  | .firmware => acContent buffer
  | .host => DataLinkManager.content

theorem content_eq (side : Side) (buffer : Bytes) {payload : Bytes} {capacity : Nat}
    (hcapacity : 0 < capacity) (hpayload : payload.length < 2 ^ 32) {linkSequence : UInt32}
    {first : DataLinkFrame}
    (hhead : (fragments payload linkSequence capacity).head? = some first) :
    side.content buffer first (fragments payload linkSequence capacity) = payload := by
  cases side with
  | firmware => exact acContent_fragments hcapacity hpayload hhead
  | host => exact content_fragments hcapacity hpayload hhead

/-- The DATA frames a side can take in: the firmware has room for frames of
`AC_DATALINK_MAX_FRAME_SIZE` bytes. -/
def Takes (side : Side) (frame : DataLinkFrame) : Prop :=
  frame.payload.length < 2 ^ 32 ∧ (side = .firmware → AcData frame)

/-- An acknowledgement, positive or negative. -/
def IsReply (reply : DataLinkFrame) : Prop :=
  ∃ frame, reply = makeAck frame ∨ reply = makeNak frame

theorem IsReply.payload {reply : DataLinkFrame} (hreply : IsReply reply) : reply.payload = [] := by
  obtain ⟨frame, rfl | rfl⟩ := hreply <;> rfl

theorem IsReply.fits {reply : DataLinkFrame} (hreply : IsReply reply) : acFits reply := by
  rw [acFits, encode_length, hreply.payload]
  decide

/-! ## Calls -/

section Calls

variable {side : Side} {bound mtu attempts : Nat} {next : UInt32} {endpoint : side.Endpoint}

theorem sendPacket_tracks {format : Format DataLinkFrame}
    (hformat : format.answers = answersFragment) (call : SendCall)
    (hready : side.Ready mtu attempts next endpoint) :
    Tracks encode IsReply (Patient encode IsReply bound) (side.sendPacket bound call endpoint)
      (StopAndWait.sendPacket format attempts
        (if side.accepts mtu call.payload then
          fragments call.payload next (mtu - dataLinkHeaderSize) else []))
      fun result delivered => delivered = result.1.isOk ∧
        side.Ready mtu attempts (if side.accepts mtu call.payload then next + 1 else next)
          result.2 := by
  cases side with
  | firmware =>
      obtain ⟨hidle, rfl⟩ := hready
      split
      · next haccepts =>
          refine (acDatalinkSendPacket_accepted (fun _ => IsReply.fits) hformat haccepts
            hidle).mono ?_
          exact fun result delivered hresult => ⟨hresult.1, hresult.2, rfl⟩
      · next hrefused =>
          refine (acDatalinkSendPacket_refused (Bool.eq_false_iff.mpr hrefused) hidle).mono ?_
          exact fun result delivered hresult => ⟨hresult.1, hresult.2, rfl⟩
  | host =>
      obtain ⟨caps, config, hidle, rfl, rfl⟩ := hready
      have hvalid : ∀ frame, IsReply frame → frame.payload.length < 2 ^ 32 :=
        fun frame hreply => by rw [hreply.payload]; decide
      split
      · next haccepts =>
          refine (DataLinkManager.sendPacket_accepted hvalid hformat haccepts hidle).mono ?_
          exact fun result delivered hresult => ⟨hresult.1, caps, config, hresult.2, rfl, rfl⟩
      · next hrefused =>
          refine (DataLinkManager.sendPacket_refused (Bool.eq_false_iff.mpr hrefused) hidle).mono ?_
          exact fun result delivered hresult => ⟨hresult.1, caps, config, hresult.2, rfl, rfl⟩

theorem receivePacket_tracks {valid : DataLinkFrame → Prop}
    (hvalid : ∀ frame, valid frame → side.Takes frame) (hbound : 0 < bound)
    (hmtu : dataLinkHeaderSize < mtu) (call : ReceiveCall)
    (hready : side.Ready mtu attempts next endpoint) :
    Tracks encode valid (Patient encode valid bound)
      (side.receivePacket bound call endpoint)
      (StopAndWait.receivePacket (side.format call.buffer.length))
      fun result value => Delivers (side.content call.buffer) result.1 value ∧
        side.Ready mtu attempts next result.2 := by
  cases side with
  | firmware =>
      obtain ⟨hidle, rfl⟩ := hready
      refine (acDatalinkReceivePacket_tracks (fun frame hframe => (hvalid frame hframe).2 rfl) hmtu
        hbound call.buffer hidle).map ?_
      exact fun result value hresult => ⟨hresult.1, hresult.2, rfl⟩
  | host =>
      obtain ⟨caps, config, hidle, rfl, rfl⟩ := hready
      refine (DataLinkManager.receivePacket_tracks (fun frame hframe => (hvalid frame hframe).1)
        hidle).mono ?_
      exact fun result value hresult => ⟨hresult.1, caps, config, hresult.2, rfl, rfl⟩

/-! ## Sessions -/

variable (side mtu next) in
def packets (calls : List SendCall) : List (List DataLinkFrame) :=
  sessionFrames (side.accepts mtu) (mtu - dataLinkHeaderSize) next (calls.map (·.payload))

theorem sendPackets_track {format : Format DataLinkFrame}
    (hformat : format.answers = answersFragment) (calls : List SendCall)
    (hready : side.Ready mtu attempts next endpoint) :
    SessionTracks encode IsReply (calls.map (side.sendPacket bound ·)) endpoint
      ((side.packets mtu next calls).map (StopAndWait.sendPacket format attempts))
      fun status delivered => delivered = status.isOk := by
  induction calls generalizing next endpoint with
  | nil => exact .nil _ _
  | cons call calls ih =>
      have hpackets : side.packets mtu next (call :: calls) =
          (if side.accepts mtu call.payload then
            fragments call.payload next (mtu - dataLinkHeaderSize) else []) ::
          side.packets mtu (if side.accepts mtu call.payload then next + 1 else next) calls := by
        rw [packets, List.map_cons, sessionFrames]
        split <;> rfl
      rw [hpackets]
      refine .cons ((sendPacket_tracks hformat call hready).mono ?_)
      rintro result delivered ⟨hdelivered, hready'⟩
      exact ⟨hdelivered, ih hready'⟩

theorem receivePackets_track (hbound : 0 < bound) (hmtu : dataLinkHeaderSize < mtu)
    {capacity : Nat} (calls : List ReceiveCall)
    (hbuffers : ∀ call ∈ calls, call.buffer.length = capacity)
    (hready : side.Ready mtu attempts next endpoint) :
    SessionTracks encode side.Takes (calls.map (side.receivePacket bound ·)) endpoint
      (List.replicate calls.length (StopAndWait.receivePacket (side.format capacity)))
      fun result value => ∃ buffer, Delivers (side.content buffer) result value := by
  induction calls generalizing endpoint with
  | nil => exact .nil _ _
  | cons call calls ih =>
      rw [List.length_cons, List.replicate_succ, ← hbuffers call List.mem_cons_self]
      refine .cons ((receivePacket_tracks (fun _ htakes => htakes) hbound hmtu call hready).mono ?_)
      rintro result value ⟨hdelivers, hready'⟩
      rw [hbuffers call List.mem_cons_self]
      exact ⟨⟨call.buffer, hdelivers⟩,
        ih (fun other hmem => hbuffers other (List.mem_cons_of_mem _ hmem)) hready'⟩

end Calls

/-! ## Parties -/

section Parties

variable (side : Side) (bound : Nat) (endpoint : side.Endpoint)

def sender (calls : List SendCall) : Party (LinkEvent side.Error) Bytes :=
  linkParty (calls.map (side.sendPacket bound ·)) endpoint

def sendResults (calls : List SendCall) (history : List (LinkEvent side.Error)) :
    List (Except side.Error Unit) :=
  results (calls.map (side.sendPacket bound ·)) endpoint history

def receiver (calls : List ReceiveCall) : Party (LinkEvent side.Error) Bytes :=
  linkParty (calls.map (side.receivePacket bound ·)) endpoint

def receiveResults (calls : List ReceiveCall) (history : List (LinkEvent side.Error)) :
    List (Except side.Error Bytes) :=
  results (calls.map (side.receivePacket bound ·)) endpoint history

/-- The packets that receive calls returned. -/
def returned (calls : List ReceiveCall) (history : List (LinkEvent side.Error)) : List Bytes :=
  (side.receiveResults bound endpoint calls history).filterMap Except.toOption

end Parties

end Side

end AudioStudio.DataLink
