import AudioStudio.DataLink.Host
import AudioStudio.Wire.TransportFrame

/-!
# The host's transport manager

`TransportManager::sendSync` holds the IO mutex over its exchange, but only takes
the channel mutex for each look at the channel table: other threads may open and
close channels in between.
-/

namespace AudioStudio.Transport

open AudioStudio.Common
open AudioStudio.DataLink
open LittleEndian
open Wire

def kTransportFrameRequest : UInt32 := 0x01
def kTransportFrameResponse : UInt32 := 0x02
def kTransportFrameAck : UInt32 := 0x04
def kTransportFrameAckRequired : UInt32 := 0x08

structure LogicalChannel where
  id : UInt16
  service : String
  isOpen : Bool := false
  framesSent : Nat := 0
  framesReceived : Nat := 0
  deriving DecidableEq, Repr

structure TransportManager where
  channels : List LogicalChannel := []
  datalink : Option DataLinkManager := none
  nextSequence : UInt32 := 1
  deriving DecidableEq, Repr

/-- What another thread can do to the channel table: `closeChannel` first marks the
channel closed and erases it later. -/
inductive ChannelOp where
  | openChannel (id : UInt16) (service : String)
  | markClosed (id : UInt16)
  | erase (id : UInt16)
  deriving DecidableEq, Repr

namespace TransportManager

def requireChannel (id : UInt16) (manager : TransportManager) : Result LogicalChannel :=
  match manager.channels.find? (·.id = id) with
  | none => .error (.unavailable "transport channel not found")
  | some channel => .ok channel

def updateChannel (id : UInt16) (update : LogicalChannel → LogicalChannel)
    (manager : TransportManager) : TransportManager :=
  { manager with
    channels := manager.channels.map fun channel =>
      if channel.id = id then update channel else channel }

def openChannel (id : UInt16) (service : String) (manager : TransportManager) :
    Result TransportManager :=
  if id = 0 then .error (.invalidArgument "transport channel id is zero")
  else if service.isEmpty then .error (.invalidArgument "transport service is empty")
  else if manager.channels.any (·.id = id) then
    .error (.invalidArgument "transport channel already exists")
  else .ok { manager with
    channels := manager.channels ++ [{ id, service, isOpen := true }] }

def applyOp (op : ChannelOp) (manager : TransportManager) : TransportManager :=
  match op with
  | .openChannel id service => (manager.openChannel id service).toOption.getD manager
  | .markClosed id => manager.updateChannel id ({ · with isOpen := false })
  | .erase id => { manager with channels := manager.channels.filter (·.id ≠ id) }

def applyOps (ops : List ChannelOp) (manager : TransportManager) : TransportManager :=
  ops.foldl (fun manager op => manager.applyOp op) manager

/-- The common part of `recordTx` and `recordRx`. -/
def record (id : UInt16) (count : LogicalChannel → LogicalChannel)
    (manager : TransportManager) : Result TransportManager := do
  let channel ← manager.requireChannel id
  if !channel.isOpen then .error (.unavailable "transport channel is closed")
  else .ok (manager.updateChannel id count)

def recordTx (frame : TransportFrame) (manager : TransportManager) : Result TransportManager :=
  manager.record frame.channelId fun channel =>
    { channel with framesSent := channel.framesSent + 1 }

def recordRx (frame : TransportFrame) (manager : TransportManager) : Result TransportManager :=
  manager.record frame.channelId fun channel =>
    { channel with framesReceived := channel.framesReceived + 1 }

end TransportManager

/-- The arguments of one `sendSync`, and what other threads do to the channel table
before its `recordTx` and before its `recordRx`. -/
structure SyncCall where
  channelId : UInt16
  commandId : UInt16
  payload : Bytes
  timeoutMs : UInt32
  sessionId : UInt32 := 0
  beforeTx : List ChannelOp := []
  beforeRx : List ChannelOp := []
  deriving DecidableEq, Repr

namespace TransportManager

def request (call : SyncCall) (sequenceId : UInt32) : TransportFrame where
  channelId := call.channelId
  serviceId := call.channelId
  commandId := call.commandId
  flags := kTransportFrameRequest ||| kTransportFrameAckRequired
  sequenceId := sequenceId
  sessionId := call.sessionId
  payload := call.payload

/-- From the received packet on: decode it, match it with its request, count it. -/
def acceptResponse (request : TransportFrame) (payload : Bytes) (manager : TransportManager) :
    Result TransportFrame × TransportManager :=
  match FrameCodec.decode payload with
  | .error status => (.error status, manager)
  | .ok response =>
      if response.channelId ≠ request.channelId ∨ response.sequenceId ≠ request.sequenceId then
        (.error (.unavailable "transport ACK does not match request"), manager)
      else if response.flags &&& (kTransportFrameAck ||| kTransportFrameResponse) = 0 then
        (.error (.unavailable "transport response is not an ACK"), manager)
      else
        match manager.recordRx response with
        | .error status => (.error status, manager)
        | .ok manager => (.ok response, manager)

/-- The exchange under the IO mutex. -/
def exchange (bound : Nat) (call : SyncCall) (request : TransportFrame)
    (datalink : DataLinkManager) (manager : TransportManager) :
    LinkProc Status (Result TransportFrame × TransportManager) := do
  let (status, datalink) ←
    datalink.sendPacket bound (FrameCodec.encode request) call.timeoutMs
  match status with
  | .error status => pure (.error status, { manager with datalink := some datalink })
  | .ok () =>
      let manager := manager.applyOps call.beforeTx
      match manager.recordTx request with
      | .error status => pure (.error status, { manager with datalink := some datalink })
      | .ok manager => do
          let (payload, datalink) ← datalink.receivePacket bound call.timeoutMs
          let manager := { manager with datalink := some datalink }.applyOps call.beforeRx
          match payload with
          | .error status => pure (.error status, manager)
          | .ok payload => pure (manager.acceptResponse request payload)

def sendSync (bound : Nat) (call : SyncCall) (manager : TransportManager) :
    LinkProc Status (Result TransportFrame × TransportManager) :=
  match manager.requireChannel call.channelId with
  | .error status => pure (.error status, manager)
  | .ok channel =>
      if !channel.isOpen then
        pure (.error (.unavailable "transport channel is closed"), manager)
      else
        let request := request call manager.nextSequence
        let manager := { manager with nextSequence := manager.nextSequence + 1 }
        match manager.datalink with
        | none => pure (.error (.unavailable "transport data-link is not bound"), manager)
        | some datalink => manager.exchange bound call request datalink

end TransportManager

end AudioStudio.Transport
