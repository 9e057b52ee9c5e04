import AudioStudio.DataLink.Device
import AudioStudio.Wire.DataLinkFrame
import AudioStudio.Wire.TransportFrame

/-!
# The firmware's data link

`ac_datalink.c`: received bytes are collected in a fixed stream buffer, whose
bytes beyond `rxStreamSize` are stale but still looked at by the magic test.
Pointer arguments that are null do not occur here.
-/

namespace AudioStudio.DataLink

open LittleEndian
open Wire

def acDatalinkMaxFrameSize : Nat := 1024
def acDatalinkRxStreamSize : Nat := acDatalinkMaxFrameSize * 2
def acDatalinkMaxRetries : Nat := 3
def acDatalinkFragmentTimeoutMs : UInt32 := 1000

/-- A return code other than zero. -/
abbrev AcError := { ret : Int // ret ≠ 0 }

namespace AcError

def failure : AcError := ⟨-1, by decide⟩

/-- `ac_datalink_read_frame` returns 1 when a read brings no bytes. -/
def noData : AcError := ⟨1, by decide⟩

end AcError

/-- Which operations the device of a controller provides. -/
structure AcDatalinkOps where
  read : Bool
  write : Bool
  deriving DecidableEq, Repr

structure AcDatalinkController where
  ops : Option AcDatalinkOps
  isOpen : Bool
  mtu : Nat
  rxStream : Bytes
  rxStreamSize : Nat
  nextLinkSequence : UInt32
  txPackets : UInt32
  rxPackets : UInt32
  retries : UInt32
  deriving DecidableEq, Repr

/-- The controller after `ac_datalink_init` opened a device of that MTU. -/
def acDatalinkInit (mtu : Nat) : AcDatalinkController where
  ops := some { read := true, write := true }
  isOpen := true
  mtu := if mtu = 0 then 256 else mtu
  rxStream := List.replicate acDatalinkRxStreamSize 0
  rxStreamSize := 0
  nextLinkSequence := 1
  txPackets := 0
  rxPackets := 0
  retries := 0

def acDatalinkEffectiveMtu (datalink : AcDatalinkController) : Nat :=
  let mtu := if datalink.mtu = 0 then 256 else datalink.mtu
  if mtu > acDatalinkMaxFrameSize then acDatalinkMaxFrameSize else mtu

def acDatalinkFragmentTimeout (timeoutMs : UInt32) : UInt32 :=
  if timeoutMs < acDatalinkFragmentTimeoutMs then acDatalinkFragmentTimeoutMs else timeoutMs

/-! ## Reading frames -/

namespace AcDatalinkController

/-- `memmove` of the bytes from `count` on to the front of the stream; what they
leave behind stays in place. -/
def discard (datalink : AcDatalinkController) (count : Nat) : AcDatalinkController :=
  let kept := datalink.rxStreamSize - count
  { datalink with
    rxStream := (datalink.rxStream.drop count).take kept ++ datalink.rxStream.drop kept
    rxStreamSize := kept }

/-- Drop bytes until the stream starts with the magic or is empty. -/
def skipNoise : Nat → AcDatalinkController → AcDatalinkController
  | 0, datalink => datalink
  | size + 1, datalink =>
      if datalink.rxStreamSize > 0 ∧ !acDatalinkIsMagic datalink.rxStream then
        skipNoise size (datalink.discard 1)
      else datalink

def store (datalink : AcDatalinkController) (buffer : Bytes) : AcDatalinkController :=
  { datalink with
    rxStream := poke datalink.rxStream datalink.rxStreamSize buffer
    rxStreamSize := datalink.rxStreamSize + buffer.length }

end AcDatalinkController

/-- The `while (1)` of `ac_datalink_read_frame`.  Both callers pass a frame copy of
`AC_DATALINK_MAX_FRAME_SIZE` bytes. -/
def acDatalinkReadLoop (timeoutMs : UInt32) : Nat → AcDatalinkController →
    LinkProc AcError (Except AcError AcDatalinkFrameView × AcDatalinkController)
  | 0, _ => .spent
  | bound + 1, datalink =>
      let capacity := acDatalinkEffectiveMtu datalink
      let datalink := datalink.skipNoise datalink.rxStreamSize
      let completeSize := acDatalinkFrameSize datalink.rxStream datalink.rxStreamSize
      if completeSize > acDatalinkRxStreamSize then pure (.error .failure, datalink)
      else if completeSize > 0 ∧ datalink.rxStreamSize ≥ completeSize then
        match acDatalinkDecodeFrame (datalink.rxStream.take completeSize) with
        | none => acDatalinkReadLoop timeoutMs bound (datalink.discard 1)
        | some view =>
            if completeSize > acDatalinkMaxFrameSize then .fault
            else pure (.ok view, datalink.discard completeSize)
      else if datalink.rxStreamSize + capacity > acDatalinkRxStreamSize then
        pure (.error .failure, datalink)
      else do
        match ← readBlock capacity timeoutMs with
        | .error ret => pure (.error ret, datalink)
        | .ok buffer =>
            if buffer.length = 0 then pure (.error .noData, datalink)
            else if datalink.rxStreamSize + buffer.length > acDatalinkRxStreamSize then .fault
            else acDatalinkReadLoop timeoutMs bound (datalink.store buffer)

/-- `bound` limits the rounds of the read loop. -/
def acDatalinkReadFrame (bound : Nat) (timeoutMs : UInt32) (datalink : AcDatalinkController) :
    LinkProc AcError (Except AcError AcDatalinkFrameView × AcDatalinkController) :=
  match datalink.ops with
  | none => pure (.error .failure, datalink)
  | some ops =>
      if !ops.read then pure (.error .failure, datalink)
      else acDatalinkReadLoop timeoutMs bound datalink

def acDatalinkSendAck (datalink : AcDatalinkController) (frame : AcDatalinkFrameView)
    (ok : Bool) (timeoutMs : UInt32) : LinkProc AcError (Except AcError Unit) :=
  match datalink.ops with
  | none => pure (.error .failure)
  | some ops =>
      if !ops.write then pure (.error .failure)
      else
        let flags := if ok then flagAck else flagNak
        match acDatalinkEncodeFrame dataLinkHeaderSize flags frame.linkSequence
            frame.transportSize frame.fragmentOffset frame.fragmentIndex frame.fragmentCount
            [] with
        | none => pure (.error .failure)
        | some ack => writeBlock ack timeoutMs

/-! ## Sending a packet -/

/-- The attempt loop: write the frame and wait for its acknowledgement.  An error
is the device's own, or that of a fragment nobody acknowledged. -/
def acDatalinkSendFragment (bound : Nat) (frame : Bytes) (linkSequence : UInt32)
    (index : Nat) (timeoutMs : UInt32) : Nat → AcDatalinkController →
    LinkProc AcError (Except AcError Unit × AcDatalinkController)
  | 0, datalink => pure (.error .failure, datalink)
  | attempts + 1, datalink => do
      match ← writeBlock frame timeoutMs with
      | .error ret => pure (.error ret, datalink)
      | .ok () =>
          let (ret, datalink) ← acDatalinkReadFrame bound timeoutMs datalink
          match ret with
          | .ok ack =>
              if ack.linkSequence = linkSequence ∧ ack.fragmentIndex.toNat = index ∧
                  ack.flags &&& flagAck ≠ 0 then
                pure (.ok (), datalink)
              else if ack.flags &&& flagNak ≠ 0 then
                acDatalinkSendFragment bound frame linkSequence index timeoutMs attempts
                  { datalink with retries := datalink.retries + 1 }
              else
                acDatalinkSendFragment bound frame linkSequence index timeoutMs attempts datalink
          | .error _ =>
              acDatalinkSendFragment bound frame linkSequence index timeoutMs attempts
                { datalink with retries := datalink.retries + 1 }

/-- The fragment loop from fragment `index` on, with `rest` fragments to go. -/
def acDatalinkSendFragments (bound : Nat) (payload : Bytes) (linkSequence : UInt32)
    (fragmentCapacity fragmentCount : Nat) (timeoutMs : UInt32) :
    (rest : Nat) → (index : Nat) → AcDatalinkController →
    LinkProc AcError (Except AcError Unit × AcDatalinkController)
  | 0, _, datalink => pure (.ok (), { datalink with txPackets := datalink.txPackets + 1 })
  | rest + 1, index, datalink =>
      let offset := index * fragmentCapacity
      let count := if payload.length > offset then payload.length - offset else 0
      let count := if count > fragmentCapacity then fragmentCapacity else count
      let flags := if index + 1 = fragmentCount then flagData ||| flagEnd else flagData
      match acDatalinkEncodeFrame acDatalinkMaxFrameSize flags linkSequence
          payload.length.toUInt32 offset.toUInt32 index.toUInt16 fragmentCount.toUInt16
          ((payload.drop offset).take count) with
      | none => pure (.error .failure, datalink)
      | some frame => do
          let (ret, datalink) ← acDatalinkSendFragment bound frame linkSequence index timeoutMs
            (acDatalinkMaxRetries + 1) datalink
          match ret with
          | .error ret => pure (.error ret, datalink)
          | .ok () =>
              acDatalinkSendFragments bound payload linkSequence fragmentCapacity fragmentCount
                timeoutMs rest (index + 1) datalink

def acDatalinkSendPacket (bound : Nat) (payload : Bytes) (timeoutMs : UInt32)
    (datalink : AcDatalinkController) :
    LinkProc AcError (Except AcError Unit × AcDatalinkController) :=
  match datalink.ops with
  | none => pure (.error .failure, datalink)
  | some ops =>
      if !datalink.isOpen || !ops.write then pure (.error .failure, datalink)
      else if payload.length > acDatalinkMaxPacketSize then pure (.error .failure, datalink)
      else
        let mtu := acDatalinkEffectiveMtu datalink
        if mtu ≤ dataLinkHeaderSize then pure (.error .failure, datalink)
        else
          let fragmentCapacity := mtu - dataLinkHeaderSize
          let fragmentCount := (payload.length + fragmentCapacity - 1) / fragmentCapacity
          let fragmentCount := if fragmentCount = 0 then 1 else fragmentCount
          if fragmentCount > 0xffff then pure (.error .failure, datalink)
          else
            acDatalinkSendFragments bound payload datalink.nextLinkSequence fragmentCapacity
              fragmentCount timeoutMs fragmentCount 0
              { datalink with nextLinkSequence := datalink.nextLinkSequence + 1 }

/-! ## Receiving a packet -/

/-- What `ac_datalink_receive_packet` leaves behind: its return code, the caller's
buffer and the size of the packet in it. -/
structure AcReceived where
  ret : Except AcError Unit
  payload : Bytes
  actualSize : Nat

/-- The packet of a call that succeeded. -/
def AcReceived.packet (received : AcReceived) : Except AcError Bytes :=
  received.ret.map fun _ => received.payload.take received.actualSize

/-- Skip frames without DATA; `rounds` limits them. -/
def acDatalinkFirstFrame (bound : Nat) (timeoutMs : UInt32) : Nat → AcDatalinkController →
    LinkProc AcError (Except AcError AcDatalinkFrameView × AcDatalinkController)
  | 0, _ => .spent
  | rounds + 1, datalink => do
      let (ret, datalink) ← acDatalinkReadFrame bound timeoutMs datalink
      match ret with
      | .error ret => pure (.error ret, datalink)
      | .ok first =>
          if first.flags &&& flagData = 0 then
            acDatalinkFirstFrame bound timeoutMs rounds datalink
          else pure (.ok first, datalink)

/-- The loop over the fragments from `expected` on, with `rest` of them to go.
The bound check adds two 32-bit words; a copy beyond the buffer is a fault. -/
def acDatalinkReceiveFragments (bound : Nat) (first : AcDatalinkFrameView)
    (timeoutMs : UInt32) :
    (rest : Nat) → (expected : UInt16) → (payload : Bytes) → AcDatalinkController →
    LinkProc AcError (AcReceived × AcDatalinkController)
  | 0, _, payload, datalink =>
      pure ({ ret := .ok (), payload, actualSize := first.transportSize.toNat },
        { datalink with rxPackets := datalink.rxPackets + 1 })
  | rest + 1, expected, payload, datalink => do
      let (ret, datalink) ←
        acDatalinkReadFrame bound (acDatalinkFragmentTimeout timeoutMs) datalink
      match ret with
      | .error ret => pure ({ ret := .error ret, payload, actualSize := 0 }, datalink)
      | .ok frame =>
          if frame.flags &&& flagData = 0 ∨ frame.linkSequence ≠ first.linkSequence ∨
              frame.fragmentIndex ≠ expected ∨ frame.transportSize ≠ first.transportSize ∨
              (frame.fragmentOffset + frame.payloadSize).toNat > payload.length then do
            let _ ← acDatalinkSendAck datalink frame false timeoutMs
            pure ({ ret := .error .failure, payload, actualSize := 0 },
              { datalink with retries := datalink.retries + 1 })
          else if frame.payloadSize > 0 ∧
              frame.fragmentOffset.toNat + frame.payloadSize.toNat > payload.length then .fault
          else do
            let payload :=
              if frame.payloadSize > 0 then
                poke payload frame.fragmentOffset.toNat frame.payload
              else payload
            match ← acDatalinkSendAck datalink frame true timeoutMs with
            | .error _ => pure ({ ret := .error .failure, payload, actualSize := 0 }, datalink)
            | .ok () =>
                acDatalinkReceiveFragments bound first timeoutMs rest (expected + 1) payload
                  datalink

/-- `payload` is the caller's buffer as it is before the call. -/
def acDatalinkReceivePacket (bound : Nat) (payload : Bytes) (timeoutMs : UInt32)
    (datalink : AcDatalinkController) :
    LinkProc AcError (AcReceived × AcDatalinkController) :=
  if datalink.ops.isNone || !datalink.isOpen then
    pure ({ ret := .error .failure, payload, actualSize := 0 }, datalink)
  else do
    let (ret, datalink) ← acDatalinkFirstFrame bound timeoutMs bound datalink
    match ret with
    | .error ret => pure ({ ret := .error ret, payload, actualSize := 0 }, datalink)
    | .ok first =>
        if first.fragmentOffset ≠ 0 ∨ first.fragmentCount = 0 then
          pure ({ ret := .error .failure, payload, actualSize := 0 }, datalink)
        else if first.transportSize.toNat > payload.length ∨
            first.transportSize.toNat > acDatalinkMaxPacketSize then
          pure ({ ret := .error .failure, payload, actualSize := 0 }, datalink)
        else if first.payloadSize > first.transportSize then
          pure ({ ret := .error .failure, payload, actualSize := 0 }, datalink)
        else do
          let payload :=
            if first.payloadSize > 0 then poke payload 0 first.payload else payload
          match ← acDatalinkSendAck datalink first true timeoutMs with
          | .error _ => pure ({ ret := .error .failure, payload, actualSize := 0 }, datalink)
          | .ok () =>
              acDatalinkReceiveFragments bound first timeoutMs
                (first.fragmentCount.toNat - 1) 1 payload datalink

end AudioStudio.DataLink
