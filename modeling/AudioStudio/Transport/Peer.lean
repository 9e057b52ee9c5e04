import AudioStudio.DataLink.HostTracking
import AudioStudio.DataLink.Packets
import AudioStudio.Transport.Manager

/-!
# A link that delivers and a peer that answers

The peer acknowledges every fragment, takes each packet once however often its
fragments are repeated, and answers each request once.  The link hands the bytes
to the host in order, in blocks of any size.
-/

namespace AudioStudio.Transport

open AudioStudio.Common
open AudioStudio.DataLink
open LittleEndian
open Wire
open DataLinkFrameCodec

/-- How a peer answers its requests, by their number: with the channel and sequence ids
of the request, and with packets that fit the link. -/
structure Service where
  capacity : Nat
  answer : Nat → TransportFrame → TransportFrame
  capacity_pos : 0 < capacity
  channelId : ∀ number request, (answer number request).channelId = request.channelId
  sequenceId : ∀ number request, (answer number request).sequenceId = request.sequenceId
  flags : ∀ number request,
    (answer number request).flags &&& (kTransportFrameAck ||| kTransportFrameResponse) ≠ 0
  size : ∀ number request, (FrameCodec.encode (answer number request)).length < 2 ^ 32
  count : ∀ number request,
    fragmentCount (FrameCodec.encode (answer number request)) capacity ≤ 0xffff

structure Peer where
  /-- The fragments of the packet that is still incomplete. -/
  collected : List DataLinkFrame := []
  /-- The link sequence number of the last complete packet. -/
  lastPacket : Option UInt32 := none
  /-- The fragments of the response that are not acknowledged; the first is under way. -/
  outgoing : List DataLinkFrame := []
  nextLinkSequence : UInt32 := 1
  served : Nat := 0
  deriving DecidableEq, Repr

namespace Peer

/-- A packet is complete: answer it, if it is a request. -/
def complete (service : Service) (frame : DataLinkFrame) (collected : List DataLinkFrame)
    (peer : Peer) : Peer × List DataLinkFrame :=
  let taken := { peer with collected := [], lastPacket := some frame.linkSequence }
  match FrameCodec.decode (assemble (List.replicate frame.transportSize.toNat 0) collected) with
  | .error _ => (taken, [makeAck frame])
  | .ok request =>
      let response := fragments (FrameCodec.encode (service.answer peer.served request))
        peer.nextLinkSequence service.capacity
      ({ taken with
          outgoing := response
          nextLinkSequence := peer.nextLinkSequence + 1
          served := peer.served + 1 },
        makeAck frame :: response.take 1)

/-- What the peer sends when a frame arrives. -/
def react (service : Service) (peer : Peer) (frame : DataLinkFrame) :
    Peer × List DataLinkFrame :=
  if frame.flags &&& flagData ≠ 0 then
    if peer.lastPacket = some frame.linkSequence ∨
        frame.fragmentIndex.toNat < peer.collected.length then
      (peer, [makeAck frame])
    else if frame.fragmentIndex.toNat + 1 < frame.fragmentCount.toNat then
      ({ peer with collected := peer.collected ++ [frame] }, [makeAck frame])
    else peer.complete service frame (peer.collected ++ [frame])
  else
    match peer.outgoing with
    | [] => (peer, [])
    | current :: rest =>
        if answersFragment frame current then ({ peer with outgoing := rest }, rest.take 1)
        else (peer, [])

end Peer

/-- The peer, the bytes on their way to the host, and how many of them the next reads
return. -/
structure PeerLink where
  peer : Peer
  stream : Bytes := []
  chunks : List Nat := []
  deriving DecidableEq, Repr

namespace PeerLink

def deliver (service : Service) (bytes : Bytes) (link : PeerLink) : PeerLink :=
  match decode bytes with
  | .error _ => link
  | .ok frame =>
      let (peer, replies) := link.peer.react service frame
      { link with peer, stream := link.stream ++ replies.flatMap encode }

/-- A read returns at least one byte, and waits while there is none. -/
def read (capacity : Nat) (link : PeerLink) : Option (Result Bytes × PeerLink) :=
  if link.stream = [] then none
  else
    let count := max 1 (min capacity (link.chunks.headD capacity))
    some (.ok (link.stream.take count),
      { link with stream := link.stream.drop count, chunks := link.chunks.tail })

def handle (service : Service) : Handler (LinkReply Status) PeerLink
  | .isConnected, link => some (true, link)
  | .read capacity _, link => link.read capacity
  | .write data _, link => some (.ok (), link.deliver service data)
  | .remaining timeoutMs, link => some (some timeoutMs, link)

section Run

variable {α : Type} (service : Service) (link : PeerLink)

@[simp] theorem run_isConnected_bind (rest : Bool → LinkProc Status α) :
    (isConnected >>= rest).run (handle service) link =
      (rest true).run (handle service) link := rfl

@[simp] theorem run_remaining_bind (timeoutMs : UInt32)
    (rest : Option UInt32 → LinkProc Status α) :
    (remaining timeoutMs >>= rest).run (handle service) link =
      (rest (some timeoutMs)).run (handle service) link := rfl

@[simp] theorem run_writeBlock_bind (data : Bytes) (timeoutMs : UInt32)
    (rest : Result Unit → LinkProc Status α) :
    (writeBlock data timeoutMs >>= rest).run (handle service) link =
      (rest (.ok ())).run (handle service) (link.deliver service data) := rfl

theorem run_readBlock_bind {capacity : Nat} {link' : PeerLink} {reply : Result Bytes}
    (hread : link.read capacity = some (reply, link')) (timeoutMs : UInt32)
    (rest : Result Bytes → LinkProc Status α) :
    (readBlock capacity timeoutMs >>= rest).run (handle service) link =
      (rest reply).run (handle service) link' :=
  Proc.run_call_of_some (handle service)
    (show handle service (.read capacity timeoutMs) link = _ from hread) _

end Run

end PeerLink

/-! ## What is under way -/

/-- The host's data link and the link to it: these frames, and no other bytes, have
reached the host or are on their way. -/
structure Linked (caps : DataLinkDeviceCaps) (config : DataLinkManagerConfig)
    (next : UInt32) (peer : Peer) (inFlight : List DataLinkFrame) (manager : DataLinkManager)
    (link : PeerLink) : Prop where
  caps : manager.caps = caps
  config : manager.config = config
  sequence : manager.nextLinkSequence = next
  peer : link.peer = peer
  pending : manager.rxBuffer ++ link.stream = inFlight.flatMap encode

section Linked

variable {service : Service} {caps : DataLinkDeviceCaps} {config : DataLinkManagerConfig}
  {next : UInt32} {peer : Peer} {inFlight : List DataLinkFrame} {manager : DataLinkManager}
  {link : PeerLink}

theorem Linked.deliver (hlinked : Linked caps config next peer inFlight manager link)
    {frame : DataLinkFrame} (hpayload : frame.payload.length < 2 ^ 32) {peer' : Peer}
    {replies : List DataLinkFrame} (hreact : peer.react service frame = (peer', replies)) :
    Linked caps config next peer' (inFlight ++ replies) manager
      (link.deliver service (encode frame)) := by
  have hdeliver : link.deliver service (encode frame) =
      { link with peer := peer', stream := link.stream ++ replies.flatMap encode } := by
    unfold PeerLink.deliver
    simp only [decode_encode hpayload, hlinked.peer, hreact]
  rw [hdeliver]
  refine ⟨hlinked.caps, hlinked.config, hlinked.sequence, rfl, ?_⟩
  rw [← List.append_assoc, hlinked.pending, List.flatMap_append]

variable (service) in
/-- The peer's link is never out of time. -/
theorem run_timeLeft (timeoutMs : UInt32) (rest : Option UInt32 → LinkProc Status α) :
    ((if timeoutMs = 0 then pure (some timeoutMs) else remaining timeoutMs) >>= rest).run
        (PeerLink.handle service) link =
      (rest (some timeoutMs)).run (PeerLink.handle service) link := by
  split <;> rfl

/-- A round of the read loop hands over some more of what is pending. -/
theorem readFrame_round {message : String} {bound : Nat} (timeoutMs : UInt32)
    (hlinked : Linked caps config next peer inFlight manager link)
    (hsize : frameSize manager.rxBuffer = .error (.unavailable message))
    (hstream : link.stream ≠ []) :
    ∃ manager' link', (manager.readFrame timeoutMs (bound + 1)).run (PeerLink.handle service) link =
        (manager'.readFrame timeoutMs bound).run (PeerLink.handle service) link' ∧
      Linked caps config next peer inFlight manager' link' ∧
      manager.rxBuffer.length < manager'.rxBuffer.length := by
  let capacity := max manager.caps.maxPayloadSize dataLinkHeaderSize
  let count := max 1 (min capacity (link.chunks.headD capacity))
  let block := link.stream.take count
  let link' : PeerLink :=
    { link with stream := link.stream.drop count, chunks := link.chunks.tail }
  have hblock : block.length ≠ 0 := by
    have hpos := List.length_pos_of_ne_nil hstream
    rw [List.length_take]
    omega
  have hread : link.read capacity = some (.ok block, link') := if_neg hstream
  refine ⟨{ manager with rxBuffer := manager.rxBuffer ++ block }, link', ?_, ?_, ?_⟩
  · rw [DataLinkManager.readFrame, hsize]
    dsimp only
    rw [if_neg (fun h => h rfl)]
    rw [run_timeLeft]
    dsimp only
    rw [PeerLink.run_readBlock_bind service link hread]
    simp only [hblock, if_false]
  · refine ⟨hlinked.caps, hlinked.config, hlinked.sequence, hlinked.peer, ?_⟩
    rw [List.append_assoc, List.take_append_drop]
    exact hlinked.pending
  · rw [List.length_append]
    omega

variable (service) in
/-- A frame that is pending is read, however its bytes are cut into blocks. -/
theorem readFrame_pending {frame : DataLinkFrame} (hpayload : frame.payload.length < 2 ^ 32)
    (timeoutMs : UInt32) {bound : Nat}
    (hlinked : Linked caps config next peer (frame :: inFlight) manager link)
    (hbound : (encode frame).length - manager.rxBuffer.length < bound) :
    ∃ manager' link', (manager.readFrame timeoutMs bound).run (PeerLink.handle service) link =
        (.done (.ok frame, manager'), link') ∧
      Linked caps config next peer inFlight manager' link' := by
  induction bound generalizing manager link with
  | zero => omega
  | succ bound ih =>
      have hpending := hlinked.pending
      rw [List.flatMap_cons] at hpending
      rcases List.append_eq_append_iff.mp hpending with
        ⟨missing, hframe, hstream⟩ | ⟨back, hbuffer, hrest⟩
      · cases missing with
        | nil =>
            refine ⟨{ manager with rxBuffer := [] }, link, ?_, ?_⟩
            · rw [DataLinkManager.readFrame_complete hpayload timeoutMs bound manager
                (by simpa using hframe.symm)]
              rfl
            · exact ⟨hlinked.caps, hlinked.config, hlinked.sequence, hlinked.peer,
                by simpa using hstream⟩
        | cons byte missing =>
            have hlength := congrArg List.length hframe
            rw [List.length_append, List.length_cons] at hlength
            have htake : manager.rxBuffer = (encode frame).take manager.rxBuffer.length := by
              rw [hframe, List.take_left]
            obtain ⟨message, hsize⟩ := frameSize_take hpayload
              (by omega : manager.rxBuffer.length < (encode frame).length)
            rw [← htake] at hsize
            obtain ⟨manager', link', hrun, hlinked', hmore⟩ :=
              readFrame_round timeoutMs hlinked hsize (by rw [hstream]; exact List.cons_ne_nil _ _)
            rw [hrun]
            exact ih hlinked' (by omega)
      · refine ⟨{ manager with rxBuffer := back }, link, ?_, ?_⟩
        · unfold DataLinkManager.readFrame
          simp only [hbuffer, frameSize_encode hpayload, List.take_left, List.drop_left,
            decode_encode hpayload]
          rfl
        · exact ⟨hlinked.caps, hlinked.config, hlinked.sequence, hlinked.peer, hrest.symm⟩

end Linked

end AudioStudio.Transport
