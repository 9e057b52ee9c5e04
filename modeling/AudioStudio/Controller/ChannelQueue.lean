import AudioStudio.Controller.Channels
import AudioStudio.Core.Ring

/-!
# The request queue of a channel

`ac_transport.c`: a ring of four requests, each with storage for its payload and a
frame that points into that storage.  The channel lock makes queueing, popping and
closing one step each.
-/

namespace AudioStudio.Controller

open LittleEndian
open Wire

/-! ## The ring -/

/-- Where the payload of a frame lies: in a cell of the ring, or in the copy of a
request that it belongs to. -/
inductive PayloadPointer where
  | slot (index : Nat)
  | own
  deriving DecidableEq, Repr

/-- `ac_transport_frame_t` with its payload pointer. -/
structure AcTransportFrameStruct where
  version : UInt16 := 0
  channelId : UInt16 := 0
  commandId : UInt16 := 0
  flags : UInt32 := 0
  sequenceId : UInt32 := 0
  sessionId : UInt32 := 0
  payload : PayloadPointer := .own
  payloadSize : Nat := 0
  deriving DecidableEq, Repr

structure AcTransportQueuedRequest where
  frame : AcTransportFrameStruct := {}
  payload : Bytes := List.replicate acTransportMaxPayload 0
  deriving DecidableEq, Repr

/-- The part of `ac_transport_channel_runtime_t` that queueing and popping change. -/
structure AcChannelQueue where
  queue : List AcTransportQueuedRequest := List.replicate acTransportChannelQueueDepth {}
  head : Nat := 0
  tail : Nat := 0
  count : Nat := 0
  deriving DecidableEq, Repr

/-- The frame as its fields stand, its payload at a pointer. -/
def frameStruct (frame : AcTransportFrame) (payload : PayloadPointer) :
    AcTransportFrameStruct where
  version := frame.version
  channelId := frame.channelId
  commandId := frame.commandId
  flags := frame.flags
  sequenceId := frame.sequenceId
  sessionId := frame.sessionId
  payload := payload
  payloadSize := frame.payload.length

/-- `frame` is the decoded request; its payload lies outside of the ring. -/
def acTransportQueueRequest (frame : AcTransportFrame) (channel : AcChannelQueue) :
    Int × AcChannelQueue :=
  if frame.payload.length > acTransportMaxPayload then (-1, channel)
  else if channel.count ≥ acTransportChannelQueueDepth then (-1, channel)
  else
    let cleared := List.replicate acTransportMaxPayload 0
    let request : AcTransportQueuedRequest :=
      { frame := frameStruct frame (.slot channel.tail)
        payload := if frame.payload.length > 0 then poke cleared 0 frame.payload else cleared }
    (0, { channel with
      queue := channel.queue.set channel.tail request
      tail := (channel.tail + 1) % acTransportChannelQueueDepth
      count := channel.count + 1 })

/-- The copy that the caller gets, whose frame is pointed at the copy's own payload. -/
def acTransportPopRequest (channel : AcChannelQueue) :
    Option AcTransportQueuedRequest × AcChannelQueue :=
  if channel.count = 0 then (none, channel)
  else
    let request := channel.queue.getD channel.head {}
    (some { request with frame := { request.frame with payload := .own } },
      { channel with
        head := (channel.head + 1) % acTransportChannelQueueDepth
        count := channel.count - 1 })

/-- What `ac_transport_close_channel` does to the queue. -/
def acTransportResetQueue (channel : AcChannelQueue) : AcChannelQueue :=
  { channel with count := 0, head := 0, tail := 0 }

/-! ## Frames of requests -/

namespace AcTransportQueuedRequest

/-- The bytes behind the payload pointer of a request, while the ring has these cells. -/
def pointed (request : AcTransportQueuedRequest) (cells : List AcTransportQueuedRequest) :
    Bytes :=
  match request.frame.payload with
  | .slot index => (cells.getD index {}).payload
  | .own => request.payload

/-- The frame that a handler sees through a request. -/
def frameIn (request : AcTransportQueuedRequest) (cells : List AcTransportQueuedRequest) :
    AcTransportFrame where
  version := request.frame.version
  channelId := request.frame.channelId
  commandId := request.frame.commandId
  flags := request.frame.flags
  sequenceId := request.frame.sequenceId
  sessionId := request.frame.sessionId
  payload := (request.pointed cells).take request.frame.payloadSize

/-- The request with its frame pointed at its own payload. -/
def copied (request : AcTransportQueuedRequest) : AcTransportQueuedRequest :=
  { request with frame := { request.frame with payload := .own } }

end AcTransportQueuedRequest

open AcTransportQueuedRequest

/-! ## The abstract queue -/

/-- The requests that wait, oldest first. -/
def AcChannelQueue.waiting (channel : AcChannelQueue) : List AcTransportFrame :=
  (Ring.contents {} channel.queue channel.head channel.count).map (·.copied.frameIn [])

/-- The indices stay inside the ring and agree with the count. -/
structure AcChannelQueue.Valid (channel : AcChannelQueue) : Prop where
  cells : channel.queue.length = acTransportChannelQueueDepth
  count : channel.count ≤ acTransportChannelQueueDepth
  head : channel.head < acTransportChannelQueueDepth
  tail : (channel.head + channel.count) % acTransportChannelQueueDepth = channel.tail

namespace AcChannelQueue

variable {channel : AcChannelQueue} {frame : AcTransportFrame}

theorem Valid.tail_lt (hvalid : channel.Valid) : channel.tail < acTransportChannelQueueDepth := by
  rw [← hvalid.tail]
  exact Nat.mod_lt _ (by decide)

/-- Whether a request is accepted. -/
def Accepts (channel : AcChannelQueue) (frame : AcTransportFrame) : Prop :=
  frame.payload.length ≤ acTransportMaxPayload ∧ channel.count < acTransportChannelQueueDepth

theorem queueRequest_rejected (hrejects : ¬channel.Accepts frame) :
    acTransportQueueRequest frame channel = (-1, channel) := by
  rw [acTransportQueueRequest]
  split
  · rfl
  · next hsize =>
      rw [if_pos]
      exact Nat.not_lt.mp fun hcount => hrejects ⟨Nat.not_lt.mp hsize, hcount⟩

theorem queueRequest_accepted (haccepts : channel.Accepts frame) :
    (acTransportQueueRequest frame channel).1 = 0 := by
  rw [acTransportQueueRequest, if_neg (Nat.not_lt.mpr haccepts.1),
    if_neg (Nat.not_le.mpr haccepts.2)]

/-- The payload bytes stand at the front of the cleared storage. -/
theorem stored_payload (frame : AcTransportFrame) :
    ((if frame.payload.length > 0 then
        poke (List.replicate acTransportMaxPayload 0) 0 frame.payload
      else List.replicate acTransportMaxPayload 0).take frame.payload.length) = frame.payload := by
  split
  · rw [poke, List.take_zero, List.nil_append, List.take_left]
  · next hempty =>
      have hnil : frame.payload = [] := List.length_eq_zero_iff.mp (by omega)
      rw [hnil]
      rfl

theorem queueRequest_valid (hvalid : channel.Valid) (haccepts : channel.Accepts frame) :
    (acTransportQueueRequest frame channel).2.Valid := by
  have htail := hvalid.tail
  rw [acTransportQueueRequest, if_neg (Nat.not_lt.mpr haccepts.1),
    if_neg (Nat.not_le.mpr haccepts.2)]
  constructor
  · exact List.length_set.trans hvalid.cells
  · exact haccepts.2
  · exact hvalid.head
  · dsimp only
    rw [← htail, Nat.mod_add_mod, Nat.add_assoc]

/-- An accepted request goes to the end of the queue, unchanged. -/
theorem queueRequest_waiting (hvalid : channel.Valid) (haccepts : channel.Accepts frame) :
    (acTransportQueueRequest frame channel).2.waiting = channel.waiting ++ [frame] := by
  have hcells := hvalid.cells
  have hcount : channel.count < channel.queue.length := by
    rw [hcells]
    exact haccepts.2
  rw [acTransportQueueRequest, if_neg (Nat.not_lt.mpr haccepts.1),
    if_neg (Nat.not_le.mpr haccepts.2)]
  unfold waiting
  dsimp only
  rw [← hvalid.tail, ← hcells, Ring.contents_push hcount, List.map_append, List.map_singleton]
  refine congrArg (fun last => _ ++ [last]) ?_
  have hpayload := stored_payload frame
  simp only [frameIn, copied, pointed, frameStruct, hpayload]

theorem popRequest_empty (hcount : channel.count = 0) :
    acTransportPopRequest channel = (none, channel) :=
  if_pos hcount

/-- A pop takes the oldest request and leaves the others. -/
theorem popRequest_waiting (hvalid : channel.Valid) (hcount : channel.count ≠ 0) :
    ∃ request channel', acTransportPopRequest channel = (some request, channel') ∧
      channel'.Valid ∧ request.frame.payload = .own ∧
      channel.waiting = request.frameIn [] :: channel'.waiting := by
  obtain ⟨count, hsucc⟩ := Nat.exists_eq_succ_of_ne_zero hcount
  have htail := hvalid.tail
  have hroom := hvalid.count
  refine ⟨_, _, if_neg hcount, ⟨hvalid.cells, ?_, Nat.mod_lt _ (by decide), ?_⟩, rfl, ?_⟩
  · exact (Nat.sub_le _ _).trans hroom
  · dsimp only
    rw [← htail, Nat.mod_add_mod]
    congr 1
    omega
  · have hhead : channel.head < channel.queue.length := by
      rw [hvalid.cells]
      exact hvalid.head
    unfold waiting
    dsimp only
    rw [hsucc, Nat.succ_eq_add_one, Ring.contents_pop hhead, List.map_cons, hvalid.cells,
      Nat.add_sub_cancel]
    rfl

theorem resetQueue_valid (hvalid : channel.Valid) : (acTransportResetQueue channel).Valid where
  cells := hvalid.cells
  count := Nat.zero_le _
  head := Nat.succ_pos 3
  tail := rfl

end AcChannelQueue

/-! ## Runs -/

inductive QueueStep where
  | queue (frame : AcTransportFrame)
  | pop
  | close
  deriving DecidableEq, Repr

/-- The queue with what was accepted and popped since the channel was closed last. -/
structure QueueRun where
  channel : AcChannelQueue := {}
  accepted : List AcTransportFrame := []
  popped : List AcTransportQueuedRequest := []
  deriving DecidableEq, Repr

namespace QueueRun

def step (run : QueueRun) : QueueStep → QueueRun
  | .queue frame =>
      let (ret, channel) := acTransportQueueRequest frame run.channel
      { run with
        channel
        accepted := if ret = 0 then run.accepted ++ [frame] else run.accepted }
  | .pop =>
      let (request, channel) := acTransportPopRequest run.channel
      { run with channel, popped := run.popped ++ request.toList }
  | .close => { channel := acTransportResetQueue run.channel }

/-- What was accepted is what was popped and what waits, in this order. -/
structure Fifo (run : QueueRun) : Prop where
  valid : run.channel.Valid
  own : ∀ request ∈ run.popped, request.frame.payload = .own
  order : run.popped.map (·.frameIn []) ++ run.channel.waiting = run.accepted

theorem Fifo.step {run : QueueRun} (hfifo : run.Fifo) (step : QueueStep) : (run.step step).Fifo := by
  have hvalid := hfifo.valid
  cases step with
  | queue frame =>
      by_cases haccepts : run.channel.Accepts frame
      · constructor
        · exact AcChannelQueue.queueRequest_valid hvalid haccepts
        · exact hfifo.own
        · show run.popped.map (·.frameIn []) ++
            (acTransportQueueRequest frame run.channel).2.waiting =
              if (acTransportQueueRequest frame run.channel).1 = 0 then run.accepted ++ [frame]
              else run.accepted
          rw [AcChannelQueue.queueRequest_waiting hvalid haccepts,
            if_pos (AcChannelQueue.queueRequest_accepted haccepts), ← List.append_assoc,
            hfifo.order]
      · have hsame : run.step (.queue frame) = run := by
          rw [QueueRun.step, AcChannelQueue.queueRequest_rejected haccepts]
          rfl
        rw [hsame]
        exact hfifo
  | pop =>
      by_cases hcount : run.channel.count = 0
      · have hsame : run.step .pop = run := by
          rw [QueueRun.step, AcChannelQueue.popRequest_empty hcount]
          simp
        rw [hsame]
        exact hfifo
      · obtain ⟨request, channel, hpop, hvalid', hown, hwaiting⟩ :=
          AcChannelQueue.popRequest_waiting hvalid hcount
        have horder := hfifo.order
        rw [QueueRun.step, hpop]
        constructor
        · exact hvalid'
        · intro other hother
          rcases List.mem_append.mp hother with hold | hnew
          · exact hfifo.own other hold
          · rw [List.mem_singleton.mp hnew]
            exact hown
        · rw [hwaiting] at horder
          simpa using horder
  | close =>
      exact ⟨AcChannelQueue.resetQueue_valid hvalid, nofun, rfl⟩

/-- A registered channel starts with a cleared ring. -/
theorem fifo_initial : ({} : QueueRun).Fifo where
  valid := ⟨List.length_replicate, Nat.zero_le _, by decide, rfl⟩
  own := nofun
  order := rfl

theorem fifo_run (steps : List QueueStep) {run : QueueRun} (hfifo : run.Fifo) :
    (steps.foldl QueueRun.step run).Fifo := by
  induction steps generalizing run with
  | nil => exact hfifo
  | cons step steps ih => exact ih (hfifo.step step)

/-- A popped request shows the same frame whatever the ring holds by then. -/
theorem Fifo.popped_prefix {run : QueueRun} (hfifo : run.Fifo)
    (cells : List AcTransportQueuedRequest) :
    run.popped.map (·.frameIn cells) <+: run.accepted := by
  have hcells : run.popped.map (·.frameIn cells) = run.popped.map (·.frameIn []) := by
    apply List.map_congr_left
    intro request hrequest
    simp only [frameIn, pointed, hfifo.own request hrequest]
  rw [hcells, ← hfifo.order]
  exact List.prefix_append _ _

end QueueRun

/-- The ring of a channel is a bounded first-in first-out queue over every sequence of
requests, pops and closes. -/
theorem channel_queue_fifo (steps : List QueueStep) :
    let run := steps.foldl QueueRun.step {}
    run.channel.count ≤ acTransportChannelQueueDepth ∧
      run.channel.head < acTransportChannelQueueDepth ∧
      run.channel.tail < acTransportChannelQueueDepth ∧
      (run.channel.head + run.channel.count) % acTransportChannelQueueDepth = run.channel.tail ∧
      (∀ request ∈ run.popped, request.frame.payload = .own) ∧
      (∀ cells, run.popped.map (·.frameIn cells) <+: run.accepted) ∧
      (∀ frame, (acTransportQueueRequest frame run.channel).1 ≠ 0 →
        (acTransportQueueRequest frame run.channel).2 = run.channel) := by
  intro run
  have hfifo : run.Fifo := QueueRun.fifo_run steps QueueRun.fifo_initial
  refine ⟨hfifo.valid.count, hfifo.valid.head, hfifo.valid.tail_lt, hfifo.valid.tail, hfifo.own,
    hfifo.popped_prefix, ?_⟩
  intro frame hrejected
  by_cases haccepts : run.channel.Accepts frame
  · exact absurd (AcChannelQueue.queueRequest_accepted haccepts) hrejected
  · rw [AcChannelQueue.queueRequest_rejected haccepts]

end AudioStudio.Controller
