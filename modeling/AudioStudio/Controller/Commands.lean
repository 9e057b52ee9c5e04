import AudioStudio.Core.LittleEndian
import AudioStudio.Core.Proc
import AudioStudio.Wire.TransportFrame

/-!
# The controller and what it calls

The channel handlers of the firmware share the stream slots and the channel
table, and call the driver, the SOF stream functions, the log source and the
data link.  Each of these accesses is one command.
-/

namespace AudioStudio.Controller

open LittleEndian
open Wire

def acTransportAudioMaxStreams : Nat := 16
def acTransportAudioDataChannelFirst : Nat := 4
def acAudioStreamNameSize : Nat := 32
def acAudioDmaAlignment : UInt32 := 4096

def acTransportChannelLog : UInt16 := 1
def acTransportChannelAudioControl : UInt16 := 3

/-! ## Stream slots -/

structure AcAudioStreamConfig where
  sampleRate : UInt32 := 0
  channels : UInt16 := 0
  bytesPerSample : UInt16 := 0
  deriving DecidableEq, Repr

/-- Streams and buffers are named by the addresses that SOF and the allocator
return; a null pointer is `none`. -/
structure AcAudioStreamSlot where
  id : UInt32 := 0
  direction : UInt32 := 0
  streamName : Bytes := []
  stream : Option Nat := none
  config : AcAudioStreamConfig := {}
  dataChannelId : UInt16 := 0
  frameBytes : UInt16 := 0
  allocated : Bool := false
  configured : Bool := false
  running : Bool := false
  channelRegistered : Bool := false
  dmaRaw : Option Nat := none
  dmaAligned : Nat := 0
  dmaBufferSize : UInt32 := 0
  framesWritten : Nat := 0
  framesRead : Nat := 0
  deriving DecidableEq, Repr

abbrev SlotIndex := Fin acTransportAudioMaxStreams

theorem acTransportAudioMaxStreams_pos : 0 < acTransportAudioMaxStreams := by decide

structure AcAudioController where
  streams : SlotIndex → AcAudioStreamSlot

/-- The log controller; `read` is mandatory when there is a log source at all. -/
structure AcLogSourceOps where
  hasOpen : Bool
  hasStart : Bool
  hasStop : Bool
  deriving DecidableEq, Repr

structure AcLogController where
  ops : Option AcLogSourceOps := none
  isOpen : Bool := false
  running : Bool := false
  deriving DecidableEq, Repr

/-! ## SOF streams -/

inductive SofFrame where
  | s16Le
  | s32Le
  deriving DecidableEq, Repr

inductive SofChmap where
  | unknown
  | mono
  | fl
  | fr
  | fc
  | lfe
  | rl
  | rr
  | sl
  | sr
  deriving DecidableEq, Repr

structure SofDmaBuffer where
  size : UInt32
  pages : UInt32
  addr : Nat
  deriving DecidableEq, Repr

/-- `sof_stream_params` as far as the slots depend on it; the buffer is interleaved. -/
structure SofStreamParams where
  frameFmt : SofFrame
  rate : UInt32
  channels : UInt16
  hostPeriodBytes : UInt32
  chmap : Nat → SofChmap
  dmaBuffer : SofDmaBuffer

inductive SofTrigger where
  | start
  | stop
  deriving DecidableEq, Repr

/-! ## Commands -/

inductive ChannelHandler where
  | audioControl
  | audioData
  | log
  deriving DecidableEq, Repr

inductive ControllerCmd where
  /-- The stream slots as they are now. -/
  | streams
  /-- A store to fields of one slot. -/
  | modifySlot (index : SlotIndex) (change : AcAudioStreamSlot → AcAudioStreamSlot)
  | logController
  | modifyLog (change : AcLogController → AcLogController)
  /-- What memory holds behind a request's payload, up to a NUL. -/
  | bytesBehind
  | alloc (size : Nat) (alignment : UInt32)
  | free (address : Nat)
  | sleepMs (milliseconds : UInt32)
  | registerChannel (id : UInt16) (handler : ChannelHandler)
  | openChannel (id : UInt16)
  /-- `ac_transport_close_channel` up to the join of the channel's worker; the reply
  says whether there is such a channel. -/
  | stopChannel (id : UInt16)
  /-- The join and what follows it. -/
  | joinChannel (id : UInt16)
  | sendPacket (packet : Bytes) (timeoutMs : UInt32)
  | sofStreamOpen (name : Bytes)
  | sofStreamConfig (stream : Nat) (params : SofStreamParams)
  | sofStreamTrigger (stream : Nat) (trigger : SofTrigger)
  | sofStreamClose (stream : Nat)
  | sofStreamPollPosition (stream : Nat)
  | sofStreamGetFreeSize (stream : Nat)
  | sofStreamGetAvailSize (stream : Nat)
  | sofStreamWrite (stream : Nat) (data : Bytes)
  | sofStreamRead (stream : Nat) (size : Nat)
  | logSourceOpen
  | logSourceStart
  | logSourceRead (capacity : Nat) (timeoutMs : UInt32)
  | logSourceStop

/-- What `read` of the log source returns and stores; it stores at most `capacity`
bytes and says how many. -/
structure LogSourceRead (capacity : Nat) where
  ret : Int
  data : Bytes
  hcapacity : data.length ≤ capacity

/-- A call that can fail replies with its return code; calls that transfer bytes
reply `none` for a negative code. -/
@[reducible] def ControllerReply : ControllerCmd → Type
  | .streams => AcAudioController
  | .modifySlot _ _ => Unit
  | .logController => AcLogController
  | .modifyLog _ => Unit
  | .bytesBehind => Bytes
  | .alloc _ _ => Option Nat
  | .free _ => Unit
  | .sleepMs _ => Unit
  | .registerChannel _ _ => Int
  | .openChannel _ => Int
  | .stopChannel _ => Bool
  | .joinChannel _ => Unit
  | .sendPacket _ _ => Int
  | .sofStreamOpen _ => Option Nat
  | .sofStreamConfig _ _ => Int
  | .sofStreamTrigger _ _ => Int
  | .sofStreamClose _ => Int
  | .sofStreamPollPosition _ => Int
  | .sofStreamGetFreeSize _ => Int
  | .sofStreamGetAvailSize _ => Int
  | .sofStreamWrite _ _ => Option Nat
  | .sofStreamRead _ _ => Option Bytes
  | .logSourceOpen => Int
  | .logSourceStart => Int
  | .logSourceRead capacity _ => LogSourceRead capacity
  | .logSourceStop => Unit

abbrev ControllerProc (α : Type) := Proc ControllerReply α

def command (cmd : ControllerCmd) : ControllerProc (ControllerReply cmd) :=
  Proc.request cmd

def streams : ControllerProc AcAudioController := command .streams

def modifySlot (index : SlotIndex) (change : AcAudioStreamSlot → AcAudioStreamSlot) :
    ControllerProc Unit :=
  command (.modifySlot index change)

end AudioStudio.Controller
