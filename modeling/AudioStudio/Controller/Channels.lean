import AudioStudio.Controller.Commands
import AudioStudio.Core.Text
import AudioStudio.Wire.TransportCodec

/-!
# The controller's transport

`ac_transport.c`: the channel table and the answers to requests.  The IO mutex
makes each call of `ac_datalink_send_packet` one step, so that a packet handed to
the data link is one command.
-/

namespace AudioStudio.Controller

open LittleEndian
open Wire

def acTransportResponseTimeoutMs : UInt32 := 1000
def acTransportMaxChannels : Nat := 20
def acTransportChannelQueueDepth : Nat := 4

def acTransportFlagRequest : UInt32 := 0x01
def acTransportFlagResponse : UInt32 := 0x02
def acTransportFlagAck : UInt32 := 0x04
def acTransportFlagError : UInt32 := 0x80

/-! ## Answers -/

def acTransportSendResponse (request : AcTransportFrame) (extraFlags : UInt32)
    (payload : Bytes) : ControllerProc Int :=
  let flags := acTransportFlagResponse ||| acTransportFlagAck ||| extraFlags
  match acTransportEncode acDatalinkMaxPacketSize request flags payload with
  | none => pure (-1)
  | some packet => command (.sendPacket packet acTransportResponseTimeoutMs)

/-- An answer that fits is the packet that the host's encoder writes. -/
theorem acTransportSendResponse_eq (request : AcTransportFrame) (extraFlags : UInt32)
    {payload : Bytes} (hpayload : payload.length ≤ acTransportMaxPayload) :
    acTransportSendResponse request extraFlags payload =
      command (.sendPacket (FrameCodec.encode (request.hostFrame
        (acTransportFlagResponse ||| acTransportFlagAck ||| extraFlags) payload))
          acTransportResponseTimeoutMs) := by
  have hcapacity : acTransportHeaderSize + payload.length ≤ acDatalinkMaxPacketSize := by
    unfold acTransportMaxPayload at hpayload
    unfold acDatalinkMaxPacketSize acTransportHeaderSize at hpayload ⊢
    omega
  unfold acTransportSendResponse
  dsimp only
  rw [acTransportEncode_eq _ _ _ _ hpayload hcapacity]

def acTransportSendError (request : AcTransportFrame) (message : String) :
    ControllerProc Int :=
  acTransportSendResponse request acTransportFlagError (asciiBytes message)

/-! ## The channel table -/

/-- `ac_transport_channel_runtime_t`; the ring buffer is the list of what it holds. -/
structure AcTransportChannel where
  id : UInt16
  handler : ChannelHandler
  mutexCreated : Bool := false
  threadStarted : Bool := false
  isOpen : Bool := false
  stopRequested : Bool := false
  queue : List AcTransportFrame := []
  deriving DecidableEq, Repr

/-- Which groups of operations the driver provides. -/
structure DriverOps where
  mutexes : Bool
  threads : Bool
  deriving DecidableEq, Repr

abbrev ChannelTable := List AcTransportChannel

def acTransportFindChannel (channels : ChannelTable) (id : UInt16) :
    Option AcTransportChannel :=
  channels.find? (·.id = id)

namespace ChannelTable

def update (channels : ChannelTable) (id : UInt16)
    (change : AcTransportChannel → AcTransportChannel) : ChannelTable :=
  channels.map fun channel => if channel.id = id then change channel else channel

def isOpen (channels : ChannelTable) (id : UInt16) : Bool :=
  (acTransportFindChannel channels id).any (·.isOpen)

end ChannelTable

def acTransportRegisterChannel (driver : DriverOps) (mutexCreated : Bool) (id : UInt16)
    (handler : ChannelHandler) (channels : ChannelTable) : Int × ChannelTable :=
  if id = 0 then (-1, channels)
  else if (acTransportFindChannel channels id).isSome then (-1, channels)
  else if channels.length ≥ acTransportMaxChannels then (-1, channels)
  else if driver.mutexes ∧ !mutexCreated then (-1, channels)
  else (0, channels ++ [{ id, handler, mutexCreated := driver.mutexes }])

/-- `threadCreated` is the success of `thread_create`, should it be called. -/
def acTransportOpenChannel (driver : DriverOps) (threadCreated : Bool) (id : UInt16)
    (channels : ChannelTable) : Int × ChannelTable :=
  match acTransportFindChannel channels id with
  | none => (-1, channels)
  | some channel =>
      let channels := channels.update id ({ · with isOpen := true, stopRequested := false })
      if !channel.threadStarted ∧ driver.threads then
        if threadCreated then (0, channels.update id ({ · with threadStarted := true }))
        else (-1, channels.update id ({ · with isOpen := false }))
      else (0, channels)

/-- The first half of `ac_transport_close_channel`. -/
def stopChannel (id : UInt16) (channels : ChannelTable) : ChannelTable :=
  channels.update id ({ · with isOpen := false, stopRequested := true })

/-- The second half, after the worker has been joined. -/
def joinChannel (id : UInt16) (channels : ChannelTable) : ChannelTable :=
  channels.update id
    ({ · with threadStarted := false, mutexCreated := false, queue := [] })

def acTransportCloseChannel (id : UInt16) : ControllerProc Unit := do
  let found : Bool ← command (.stopChannel id)
  if found then command (.joinChannel id)

/-! ### Lookups after updates -/

section Lookup

variable {channels : ChannelTable} {id other : UInt16}
  {change : AcTransportChannel → AcTransportChannel}

theorem find_update_of_ne (hne : other ≠ id) (hid : ∀ channel, (change channel).id = channel.id) :
    acTransportFindChannel (channels.update id change) other =
      acTransportFindChannel channels other := by
  induction channels with
  | nil => rfl
  | cons channel channels ih =>
      unfold acTransportFindChannel ChannelTable.update at *
      rw [List.map_cons]
      by_cases hchannel : channel.id = id
      · have hother : channel.id ≠ other := fun heq => hne (heq.symm.trans hchannel)
        have hchanged : (change channel).id ≠ other := by rwa [hid]
        rw [if_pos hchannel, List.find?_cons_of_neg (by simpa using hchanged),
          List.find?_cons_of_neg (by simpa using hother)]
        exact ih
      · rw [if_neg hchannel, List.find?_cons, List.find?_cons, ih]

theorem find_update (hid : ∀ channel, (change channel).id = channel.id) :
    acTransportFindChannel (channels.update id change) id =
      (acTransportFindChannel channels id).map change := by
  induction channels with
  | nil => rfl
  | cons channel channels ih =>
      unfold acTransportFindChannel ChannelTable.update at *
      rw [List.map_cons]
      by_cases hchannel : channel.id = id
      · have hchanged : (change channel).id = id := by rwa [hid]
        rw [if_pos hchannel, List.find?_cons_of_pos (by simpa using hchanged),
          List.find?_cons_of_pos (by simpa using hchannel), Option.map_some]
      · rw [if_neg hchannel, List.find?_cons_of_neg (by simpa using hchannel),
          List.find?_cons_of_neg (by simpa using hchannel)]
        exact ih

end Lookup

end AudioStudio.Controller
