import AudioStudio.DataLink.Device
import AudioStudio.Wire.DataLinkFrame

/-!
# The host's data link

`datalink_manager.cpp`: one receive buffer is shared by the acknowledgement wait
of `sendPacket` and by `receivePacket`.
-/

namespace AudioStudio.DataLink

open AudioStudio.Common
open LittleEndian
open Wire

structure DataLinkDeviceCaps where
  maxPayloadSize : Nat := 4096
  deriving DecidableEq, Repr

structure DataLinkManagerConfig where
  ackTimeoutMs : UInt32 := 100
  maxRetries : Nat := 3
  deriving DecidableEq, Repr

structure DataLinkManagerStats where
  packetsSent : Nat := 0
  packetsReceived : Nat := 0
  fragmentsSent : Nat := 0
  fragmentsReceived : Nat := 0
  retries : Nat := 0
  deriving DecidableEq, Repr

structure DataLinkManager where
  caps : DataLinkDeviceCaps
  config : DataLinkManagerConfig := {}
  stats : DataLinkManagerStats := {}
  nextLinkSequence : UInt32 := 1
  rxBuffer : Bytes := []
  deriving DecidableEq, Repr

namespace DataLinkManager

/-- `readFrame`; `bound` limits the rounds of its loop. -/
def readFrame (timeoutMs : UInt32) : Nat → DataLinkManager →
    LinkProc Status (Result DataLinkFrame × DataLinkManager)
  | 0, _ => .spent
  | bound + 1, manager =>
      let readCapacity := max manager.caps.maxPayloadSize dataLinkHeaderSize
      match DataLinkFrameCodec.frameSize manager.rxBuffer with
      | .ok completeSize =>
          pure (DataLinkFrameCodec.decode (manager.rxBuffer.take completeSize),
            { manager with rxBuffer := manager.rxBuffer.drop completeSize })
      | .error status =>
          if status.code ≠ .unavailable then pure (.error status, manager)
          else do
            match ← (if timeoutMs = 0 then pure (some timeoutMs) else remaining timeoutMs) with
            | none => pure (.error (.unavailable "data-link read timed out"), manager)
            | some remainingMs =>
                match ← readBlock readCapacity remainingMs with
                | .error status => pure (.error status, manager)
                | .ok buffer =>
                    if buffer.length = 0 then
                      if timeoutMs = 0 then
                        pure (.error (.unavailable "data-link read returned no data"), manager)
                      else do
                        match ← remaining timeoutMs with
                        | none =>
                            pure (.error (.unavailable "data-link read timed out"), manager)
                        | some _ => readFrame timeoutMs bound manager
                    else
                      readFrame timeoutMs bound
                        { manager with rxBuffer := manager.rxBuffer ++ buffer }

def sendAck (frame : DataLinkFrame) (ok : Bool) (timeoutMs : UInt32) :
    LinkProc Status (Result Unit) :=
  let ack := if ok then DataLinkFrameCodec.makeAck frame else DataLinkFrameCodec.makeNak frame
  writeBlock (DataLinkFrameCodec.encode ack) timeoutMs

/-! ## Sending a packet -/

def countFragmentSent (manager : DataLinkManager) : DataLinkManager :=
  { manager with
    stats := { manager.stats with fragmentsSent := manager.stats.fragmentsSent + 1 } }

def countRetry (manager : DataLinkManager) : DataLinkManager :=
  { manager with stats := { manager.stats with retries := manager.stats.retries + 1 } }

/-- The attempt loop of `sendPacket`, with `retries` attempts after this one. -/
def sendFragment (bound : Nat) (frame : DataLinkFrame) (timeoutMs : UInt32) :
    (retries : Nat) → DataLinkManager → LinkProc Status (Result Unit × DataLinkManager)
  | retries, manager => do
      match ← writeBlock (DataLinkFrameCodec.encode frame) timeoutMs with
      | .error status => pure (.error status, manager)
      | .ok () =>
          let (reply, manager) ←
            readFrame manager.config.ackTimeoutMs bound manager.countFragmentSent
          let matched := match reply with
            | .ok ack => decide (ack.linkSequence = frame.linkSequence) &&
                decide (ack.fragmentIndex = frame.fragmentIndex) &&
                decide (ack.flags &&& flagAck ≠ 0)
            | .error _ => false
          if matched then pure (.ok (), manager)
          else
            match retries with
            | 0 =>
                match reply with
                | .ok _ =>
                    pure (.error (.unavailable "data-link fragment was not acknowledged"),
                      manager)
                | .error status => pure (.error status, manager)
            | retries + 1 => sendFragment bound frame timeoutMs retries manager.countRetry

/-- The fragment loop from fragment `index` on, with `rest` fragments to go. -/
def sendFragments (bound : Nat) (payload : Bytes) (linkSequence : UInt32)
    (fragmentCapacity fragmentCount : Nat) (timeoutMs : UInt32) :
    (rest : Nat) → (index : Nat) → DataLinkManager →
    LinkProc Status (Result Unit × DataLinkManager)
  | 0, _, manager =>
      pure (.ok (), { manager with
        stats := { manager.stats with packetsSent := manager.stats.packetsSent + 1 } })
  | rest + 1, index, manager => do
      let offset := index * fragmentCapacity
      let count := min fragmentCapacity (payload.length - offset)
      let frame : DataLinkFrame :=
        { flags := if index + 1 = fragmentCount then flagData ||| flagEnd else flagData
          linkSequence
          transportSize := payload.length.toUInt32
          fragmentOffset := offset.toUInt32
          fragmentIndex := index.toUInt16
          fragmentCount := fragmentCount.toUInt16
          payload := (payload.drop offset).take count }
      let (status, manager) ←
        sendFragment bound frame timeoutMs manager.config.maxRetries manager
      match status with
      | .error status => pure (.error status, manager)
      | .ok () =>
          sendFragments bound payload linkSequence fragmentCapacity fragmentCount timeoutMs rest
            (index + 1) manager

def sendPacket (bound : Nat) (payload : Bytes) (timeoutMs : UInt32)
    (manager : DataLinkManager) : LinkProc Status (Result Unit × DataLinkManager) := do
  if !(← isConnected) then
    pure (.error (.unavailable "data-link device is not connected"), manager)
  else if manager.caps.maxPayloadSize ≤ dataLinkHeaderSize then
    pure (.error (.invalidArgument "data-link MTU is too small"), manager)
  else
    let fragmentCapacity := manager.caps.maxPayloadSize - dataLinkHeaderSize
    let fragmentCount := max 1 ((payload.length + fragmentCapacity - 1) / fragmentCapacity)
    if fragmentCount > 0xffff then
      pure (.error (.invalidArgument "data-link packet has too many fragments"), manager)
    else
      sendFragments bound payload manager.nextLinkSequence fragmentCapacity fragmentCount
        timeoutMs fragmentCount 0
        { manager with nextLinkSequence := manager.nextLinkSequence + 1 }

/-! ## Receiving a packet -/

def countFragmentReceived (manager : DataLinkManager) : DataLinkManager :=
  { manager with
    stats := { manager.stats with fragmentsReceived := manager.stats.fragmentsReceived + 1 } }

/-- The lambda `copy_fragment`: check, copy and acknowledge one fragment. -/
def copyFragment (first frame : DataLinkFrame) (timeoutMs : UInt32) (payload : Bytes)
    (manager : DataLinkManager) : LinkProc Status (Result Bytes × DataLinkManager) :=
  if frame.transportSize ≠ first.transportSize then
    pure (.error (.invalidArgument "data-link transport size changed"), manager)
  else if frame.fragmentOffset.toNat + frame.payload.length > payload.length then
    pure (.error (.invalidArgument "data-link fragment exceeds packet size"), manager)
  else do
    let payload := poke payload frame.fragmentOffset.toNat frame.payload
    let manager := manager.countFragmentReceived
    match ← sendAck frame true timeoutMs with
    | .error status => pure (.error status, manager)
    | .ok () => pure (.ok payload, manager)

/-- The loop over the fragments from `expected` on, with `rest` of them to go. -/
def receiveFragments (bound : Nat) (first : DataLinkFrame) (timeoutMs : UInt32) :
    (rest : Nat) → (expected : UInt16) → (payload : Bytes) → DataLinkManager →
    LinkProc Status (Result Bytes × DataLinkManager)
  | 0, _, payload, manager =>
      pure (.ok payload, { manager with
        stats := { manager.stats with packetsReceived := manager.stats.packetsReceived + 1 } })
  | rest + 1, expected, payload, manager => do
      let (reply, manager) ← readFrame timeoutMs bound manager
      match reply with
      | .error status => pure (.error status, manager)
      | .ok frame =>
          if frame.flags &&& flagData = 0 ∨ frame.linkSequence ≠ first.linkSequence ∨
              frame.fragmentIndex ≠ expected then do
            let _ ← sendAck frame false timeoutMs
            pure (.error (.invalidArgument "data-link fragment sequence mismatch"), manager)
          else do
            let (status, manager) ← copyFragment first frame timeoutMs payload manager
            match status with
            | .error status => pure (.error status, manager)
            | .ok payload =>
                receiveFragments bound first timeoutMs rest (expected + 1) payload manager

def receivePacket (bound : Nat) (timeoutMs : UInt32) (manager : DataLinkManager) :
    LinkProc Status (Result Bytes × DataLinkManager) := do
  let (reply, manager) ← readFrame timeoutMs bound manager
  match reply with
  | .error status => pure (.error status, manager)
  | .ok first =>
      if first.flags &&& flagData = 0 then
        pure (.error (.invalidArgument "data-link expected DATA frame"), manager)
      else if first.fragmentOffset ≠ 0 then
        pure (.error (.invalidArgument "data-link first fragment offset is not zero"), manager)
      else do
        let payload := List.replicate first.transportSize.toNat 0
        let (status, manager) ← copyFragment first first timeoutMs payload manager
        match status with
        | .error status => pure (.error status, manager)
        | .ok payload =>
            receiveFragments bound first timeoutMs (first.fragmentCount.toNat - 1) 1 payload
              manager

end DataLinkManager

end AudioStudio.DataLink
