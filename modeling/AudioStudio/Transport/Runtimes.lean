import AudioStudio.Core.Interleaving
import AudioStudio.Transport.Manager
import Mathlib.Logic.Function.Basic

/-!
# Channel runtimes and their threads

`TransportManager` among its callers: every section under `channels_mutex_` or under a
runtime's mutex is one step.  What an exchange over the data link brings is chosen by the
event; the frame counters of a channel are left out.
-/

namespace AudioStudio.Transport

open AudioStudio.Common
open LittleEndian
open Wire

/-! ## Runtimes -/

structure AsyncRequest where
  commandId : UInt16
  payload : Bytes
  /-- Whether a callback was given. -/
  callback : Bool
  timeoutMs : UInt32
  sessionId : UInt32 := 0
  deriving DecidableEq, Repr

/-- The places where `sendSync` looks at the channel table and then at the channel. -/
inductive Look where
  | sendSync
  | recordTx
  | recordRx (response : TransportFrame)
  deriving DecidableEq, Repr

inductive SendPhase where
  | require (look : Look)
  | check (look : Look) (found : Nat)
  | sendPacket
  | receivePacket
  deriving DecidableEq, Repr

/-- Where a worker stands in `channelWorker`. -/
inductive Worker where
  | waiting
  | sending (request : AsyncRequest) (phase : SendPhase)
  | answered (request : AsyncRequest) (result : Result TransportFrame)
  | finishing
  | exited

/-- A `ChannelRuntime`, with the number of joins of its worker, the requests that were
enqueued and the callbacks that were invoked. -/
structure ChannelRuntime where
  id : UInt16
  isOpen : Bool := true
  queue : List AsyncRequest := []
  active : Bool := false
  stopping : Bool := false
  worker : Worker := .waiting
  joined : Nat := 0
  accepted : List AsyncRequest := []
  callbacks : List (AsyncRequest × Result TransportFrame) := []

namespace ChannelRuntime

/-- `worker.joinable()`. -/
def joinable (runtime : ChannelRuntime) : Bool := runtime.joined = 0

/-- What `drainAsync` waits for. -/
def drained (runtime : ChannelRuntime) : Bool := runtime.queue.isEmpty && !runtime.active

end ChannelRuntime

/-- `channels_` and the runtimes ever made, which the table and the threads refer to. -/
structure Shared where
  channels : UInt16 → Option Nat := fun _ => none
  runtimes : List ChannelRuntime := []

namespace Shared

def requireChannel (id : UInt16) (shared : Shared) : Result Nat :=
  match shared.channels id with
  | none => .error (.unavailable "transport channel not found")
  | some found => .ok found

def setRuntime (found : Nat) (runtime : ChannelRuntime) (shared : Shared) : Shared :=
  { shared with runtimes := shared.runtimes.set found runtime }

/-- The ids in `channels_`, in their order. -/
def ids (shared : Shared) : List UInt16 :=
  ((List.range UInt16.size).map UInt16.ofNat).filter fun id => (shared.channels id).isSome

end Shared

/-! ## Workers -/

/-- Where a passed look leads. -/
def Look.passed (request : AsyncRequest) : Look → Worker
  | .sendSync => .sending request .sendPacket
  | .recordTx => .sending request .receivePacket
  | .recordRx response => .answered request (.ok response)

/-- One step of `sendSync`. -/
def sendStep (shared : Shared) (id : UInt16) (sent : Result Unit)
    (received : Result TransportFrame) (request : AsyncRequest) : SendPhase → Option Worker
  | .require look =>
      match shared.requireChannel id with
      | .error status => some (.answered request (.error status))
      | .ok found => some (.sending request (.check look found))
  | .check look found => do
      let runtime ← shared.runtimes[found]?
      if !runtime.isOpen then
        some (.answered request (.error (.unavailable "transport channel is closed")))
      else some (look.passed request)
  | .sendPacket =>
      match sent with
      | .error status => some (.answered request (.error status))
      | .ok () => some (.sending request (.require .recordTx))
  | .receivePacket =>
      match received with
      | .error status => some (.answered request (.error status))
      | .ok response => some (.sending request (.require (.recordRx response)))

/-- One step of `channelWorker`. -/
def workerStep (shared : Shared) (sent : Result Unit) (received : Result TransportFrame)
    (runtime : ChannelRuntime) : Option ChannelRuntime :=
  match runtime.worker with
  | .waiting =>
      match runtime.queue with
      | [] => if runtime.stopping then some { runtime with worker := .exited } else none
      | request :: queue =>
          some { runtime with queue, active := true, worker := .sending request (.require .sendSync) }
  | .sending request phase => do
      let worker ← sendStep shared runtime.id sent received request phase
      some { runtime with worker }
  | .answered request result =>
      some { runtime with
        worker := .finishing
        callbacks := if request.callback then runtime.callbacks ++ [(request, result)]
          else runtime.callbacks }
  | .finishing => some { runtime with active := false, worker := .waiting }
  | .exited => none

/-! ## Callers -/

inductive ManagerCall where
  | openChannel (id : UInt16) (service : String)
  | closeChannel (id : UInt16)
  | shutdown
  | sendAsync (id : UInt16) (request : AsyncRequest)
  | drainAsync (id : UInt16)
  deriving DecidableEq, Repr

/-- Where a thread stands in `closeChannel`; `found` is the runtime it looked up. -/
inductive ClosePhase where
  | require
  | drainRequire (found : Nat)
  | drainWait (found : Nat) (drained : Nat)
  | stop (found : Nat)
  | joinable (found : Nat)
  | join (found : Nat)
  | erase (found : Nat)
  deriving DecidableEq, Repr

/-- Where a thread stands in its call.  `rest` is what `shutdown` has yet to close; it is
`none` in a `closeChannel` of its own. -/
inductive Caller where
  | openChannel (id : UInt16) (service : String)
  | closing (id : UInt16) (phase : ClosePhase) (rest : Option (List UInt16))
  | shutdown
  | sendAsync (id : UInt16) (request : AsyncRequest)
  | enqueue (found : Nat) (request : AsyncRequest)
  | drainAsync (id : UInt16)
  | drainWait (found : Nat)
  | returned (result : Result Unit)

def ManagerCall.start : ManagerCall → Caller
  | .openChannel id service => .openChannel id service
  | .closeChannel id => .closing id .require none
  | .shutdown => .shutdown
  | .sendAsync id request => .sendAsync id request
  | .drainAsync id => .drainAsync id

/-- What follows a `closeChannel`. -/
def closed (result : Result Unit) : Option (List UInt16) → Caller
  | none => .returned result
  | some [] => .returned (.ok ())
  | some (id :: rest) => .closing id .require (some rest)

def openStep (shared : Shared) (id : UInt16) (service : String) : Shared × Caller :=
  if id = 0 then
    (shared, .returned (.error (.invalidArgument "transport channel id is zero")))
  else if service.isEmpty then
    (shared, .returned (.error (.invalidArgument "transport service is empty")))
  else if (shared.channels id).isSome then
    (shared, .returned (.error (.invalidArgument "transport channel already exists")))
  else
    ({ channels := Function.update shared.channels id (some shared.runtimes.length)
       runtimes := shared.runtimes ++ [{ id }] }, .returned (.ok ()))

def closeStep (shared : Shared) (id : UInt16) (rest : Option (List UInt16)) :
    ClosePhase → Option (Shared × Caller)
  | .require =>
      match shared.requireChannel id with
      | .error status => some (shared, closed (.error status) rest)
      | .ok found => some (shared, .closing id (.drainRequire found) rest)
  | .drainRequire found =>
      match shared.requireChannel id with
      | .error _ => some (shared, .closing id (.stop found) rest)
      | .ok drained => some (shared, .closing id (.drainWait found drained) rest)
  | .drainWait found drained => do
      let runtime ← shared.runtimes[drained]?
      if runtime.drained then some (shared, .closing id (.stop found) rest) else none
  | .stop found => do
      let runtime ← shared.runtimes[found]?
      some (shared.setRuntime found { runtime with isOpen := false, stopping := true },
        .closing id (.joinable found) rest)
  | .joinable found => do
      let runtime ← shared.runtimes[found]?
      if runtime.joinable then some (shared, .closing id (.join found) rest)
      else some (shared, .closing id (.erase found) rest)
  | .join found => do
      let runtime ← shared.runtimes[found]?
      match runtime.worker with
      | .exited =>
          some (shared.setRuntime found { runtime with joined := runtime.joined + 1 },
            .closing id (.erase found) rest)
      | _ => none
  | .erase _ =>
      some ({ shared with channels := Function.update shared.channels id none },
        closed (.ok ()) rest)

def callerStep (shared : Shared) : Caller → Option (Shared × Caller)
  | .openChannel id service => some (openStep shared id service)
  | .closing id phase rest => closeStep shared id rest phase
  | .shutdown => some (shared, closed (.ok ()) (some shared.ids))
  | .sendAsync id request =>
      match shared.requireChannel id with
      | .error status => some (shared, .returned (.error status))
      | .ok found => some (shared, .enqueue found request)
  | .enqueue found request => do
      let runtime ← shared.runtimes[found]?
      if !runtime.isOpen then
        some (shared, .returned (.error (.unavailable "transport channel is closed")))
      else
        some (shared.setRuntime found { runtime with
          queue := runtime.queue ++ [request], accepted := runtime.accepted ++ [request] },
          .returned (.ok ()))
  | .drainAsync id =>
      match shared.requireChannel id with
      | .error status => some (shared, .returned (.error status))
      | .ok found => some (shared, .drainWait found)
  | .drainWait found => do
      let runtime ← shared.runtimes[found]?
      if runtime.drained then some (shared, .returned (.ok ())) else none
  | .returned _ => none

/-! ## The system -/

structure System where
  shared : Shared := {}
  callers : List Caller := []

/-- A new call, or one step of a caller or of a runtime's worker. -/
inductive SystemEvent where
  | call (call : ManagerCall)
  | caller (index : Nat)
  | worker (found : Nat) (sent : Result Unit) (received : Result TransportFrame)

namespace System

def step (system : System) : SystemEvent → Option System
  | .call call => some { system with callers := system.callers ++ [call.start] }
  | .caller index => do
      let caller ← system.callers[index]?
      let (shared, caller) ← callerStep system.shared caller
      some { shared, callers := system.callers.set index caller }
  | .worker found sent received => do
      let runtime ← system.shared.runtimes[found]?
      let runtime ← workerStep system.shared sent received runtime
      some { system with shared := system.shared.setRuntime found runtime }

end System

end AudioStudio.Transport
