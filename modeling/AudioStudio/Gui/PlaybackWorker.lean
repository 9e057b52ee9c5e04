import AudioStudio.Core.Text

/-!
# The playback worker of the GUI

`GuiRuntimeEngine::PlaybackWorker`: the calls of the API, made one after another, and
the worker thread.  A step is one critical section, or what happens between two of them.
-/

namespace AudioStudio.Gui

open AudioStudio.LittleEndian

abbrev Frame := Bytes

def kMaxQueueBytes : Nat := 4 * 1024 * 1024

/-- The whole sample frames of so many bytes. -/
def alignedAudioBytes (bytes : Nat) (sampleFrameBytes : Int) : Nat :=
  bytes - bytes % (max 1 sampleFrameBytes).toNat

/-! ## Where the threads are -/

/-- What follows the `stop` at the beginning of a call. -/
inductive AfterStop where
  | stopped
  | starting (sampleFrameBytes : Int)
  deriving DecidableEq, Repr

/-- The call that is under way: `stop` and `start` join the worker and clear the queue,
`start` then opens the RPC session, and `finish` waits before it closes it. -/
inductive Caller where
  | idle
  | joining (next : AfterStop)
  | clearing (next : AfterStop)
  | beginning (sampleFrameBytes : Int)
  | opening
  | launching
  | draining
  | closing (timeout : Bool)
  | ending (timeout : Bool)
  deriving DecidableEq, Repr

/-- The worker thread: `holding` has taken a frame, `writing` is in `writeFrames`. -/
inductive WorkerThread where
  | none
  | waiting
  | holding (frame : Frame)
  | writing (frame : Frame)
  | releasing
  | exited
  deriving DecidableEq, Repr

/-! ## The fields -/

/-- `playback` says whether `playback_` is set. -/
structure PlaybackWorker where
  queue : List Frame := []
  active : Bool := false
  stopping : Bool := true
  eofRequested : Bool := false
  inFlight : Bool := false
  rpcReady : Bool := false
  queuedBytes : Nat := 0
  playedBytes : Nat := 0
  sampleFrameBytes : Int := 4
  error : Bytes := []
  playback : Bool := false
  deriving DecidableEq, Repr

namespace PlaybackWorker

/-- The first critical section of `stop`. -/
def requestStop (worker : PlaybackWorker) : PlaybackWorker :=
  { worker with stopping := true, active := false, eofRequested := true }

/-- The last critical section of `stop` and of `finish`. -/
def clear (worker : PlaybackWorker) : PlaybackWorker :=
  { worker with queue := [], queuedBytes := 0, rpcReady := false, inFlight := false }

/-- The critical section of `start` behind its `stop`. -/
def begin (sampleFrameBytes : Int) (worker : PlaybackWorker) : PlaybackWorker :=
  { worker with
    active := true, stopping := false, eofRequested := false, inFlight := false
    error := [], queuedBytes := 0, playedBytes := 0, sampleFrameBytes := sampleFrameBytes }

/-- `setupRpc`: an exception leaves its text, and may come when `playback_` is set. -/
def setupRpc (exception : Option (Bytes × Bool)) (worker : PlaybackWorker) : PlaybackWorker :=
  match exception with
  | none => { worker with rpcReady := true, playback := true }
  | some (what, playback) => { worker with rpcReady := false, error := what, playback := playback }

/-- `start` gives up without an RPC session. -/
def giveUp (worker : PlaybackWorker) : PlaybackWorker :=
  { worker with active := false, stopping := true, eofRequested := true }

/-- `cleanupRpc` and `finishRpc`, whose exceptions are swallowed. -/
def closeRpc (worker : PlaybackWorker) : PlaybackWorker :=
  { worker with playback := false }

/-- The bytes that `enqueueStream` takes of a frame. -/
def acceptedFrame (frame : Bytes) (worker : PlaybackWorker) : Frame :=
  frame.take (alignedAudioBytes frame.length worker.sampleFrameBytes)

def accepts (frame : Bytes) (worker : PlaybackWorker) : Bool :=
  let alignedBytes := alignedAudioBytes frame.length worker.sampleFrameBytes
  worker.active ∧ !worker.eofRequested ∧ 0 < alignedBytes ∧
    worker.queuedBytes + alignedBytes ≤ kMaxQueueBytes

def push (next : Frame) (worker : PlaybackWorker) : PlaybackWorker :=
  { worker with
    queue := worker.queue ++ [next], queuedBytes := worker.queuedBytes + next.length }

/-- The beginning of `finish`. -/
def requestEof (worker : PlaybackWorker) : PlaybackWorker :=
  { worker with eofRequested := true, active := false }

def ready (worker : PlaybackWorker) : Bool :=
  !worker.rpcReady ∨ (worker.queue = [] ∧ !worker.inFlight)

/-- What `finish` keeps of its wait. -/
def noteTimeout (timeout : Bool) (worker : PlaybackWorker) : PlaybackWorker :=
  if timeout ∧ worker.error = [] then
    { worker with error := asciiBytes "playback EOS timed out waiting for queued frames to drain" }
  else worker

/-- The worker takes the first frame. -/
def take (frame : Frame) (rest : List Frame) (worker : PlaybackWorker) : PlaybackWorker :=
  { worker with
    queue := rest, queuedBytes := worker.queuedBytes - frame.length, inFlight := true }

def countPlayed (bytes : Nat) (worker : PlaybackWorker) : PlaybackWorker :=
  { worker with playedBytes := worker.playedBytes + bytes }

/-- `writeFrames` has thrown. -/
def failWrite (what : Bytes) (worker : PlaybackWorker) : PlaybackWorker :=
  { worker with rpcReady := false, error := what }

def release (worker : PlaybackWorker) : PlaybackWorker :=
  { worker with inFlight := false }

end PlaybackWorker

/-! ## What happened -/

/-- The answer of a `finish`, beside what was accepted and written until then. -/
structure FinishReport where
  ok : Bool
  acceptedBytes : Nat
  writtenBytes : Nat
  deriving DecidableEq, Repr

/-- The frames that were accepted and those that `writeFrames` was called with; the bytes
since the last `start` or `stop`; the answers of `finish`. -/
structure PlaybackHistory where
  accepted : List Frame := []
  called : List Frame := []
  acceptedBytes : Nat := 0
  calledBytes : Nat := 0
  writtenBytes : Nat := 0
  reports : List FinishReport := []
  deriving DecidableEq, Repr

namespace PlaybackHistory

def restart (history : PlaybackHistory) : PlaybackHistory :=
  { history with acceptedBytes := 0, calledBytes := 0, writtenBytes := 0 }

def accept (frame : Frame) (history : PlaybackHistory) : PlaybackHistory :=
  { history with
    accepted := history.accepted ++ [frame]
    acceptedBytes := history.acceptedBytes + frame.length }

def call (frame : Frame) (history : PlaybackHistory) : PlaybackHistory :=
  { history with
    called := history.called ++ [frame], calledBytes := history.calledBytes + frame.length }

def write (frame : Frame) (history : PlaybackHistory) : PlaybackHistory :=
  { history with writtenBytes := history.writtenBytes + frame.length }

def report (ok : Bool) (history : PlaybackHistory) : PlaybackHistory :=
  { history with
    reports := history.reports ++ [⟨ok, history.acceptedBytes, history.writtenBytes⟩] }

end PlaybackHistory

/-! ## Steps -/

structure PlaybackState where
  worker : PlaybackWorker := {}
  caller : Caller := .idle
  thread : WorkerThread := .none
  history : PlaybackHistory := {}
  deriving DecidableEq, Repr

inductive PlaybackEvent where
  | stop
  | start (sampleFrameBytes : Int)
  | enqueueStream (frame : Bytes)
  | finish (timeoutMs : Nat)
  | join
  | clear
  | begin
  | setupRpc (exception : Option (Bytes × Bool))
  | launch
  | drained
  | timedOut
  | closeRpc
  | endFinish
  | take
  | exit
  | call
  | wrote (bytes : Nat)
  | failed (what : Bytes)
  | release
  deriving DecidableEq, Repr

open PlaybackWorker in
def PlaybackState.step (state : PlaybackState) : PlaybackEvent → Option PlaybackState
  | .stop =>
      match state.caller with
      | .idle => some { state with
          worker := requestStop state.worker, caller := .joining .stopped }
      | _ => none
  | .start sampleFrameBytes =>
      match state.caller with
      | .idle => some { state with
          worker := requestStop state.worker, caller := .joining (.starting sampleFrameBytes) }
      | _ => none
  | .enqueueStream frame =>
      match state.caller with
      | .idle =>
          if accepts frame state.worker then
            let next := acceptedFrame frame state.worker
            some { state with
              worker := push next state.worker, history := state.history.accept next }
          else some state
      | _ => none
  | .finish timeoutMs =>
      match state.caller with
      | .idle =>
          let worker := requestEof state.worker
          if timeoutMs = 0 then some { state with
            worker := noteTimeout (!ready worker) worker, caller := .closing (!ready worker) }
          else some { state with worker := worker, caller := .draining }
      | _ => none
  | .join =>
      match state.caller, state.thread with
      | .joining next, .none | .joining next, .exited => some { state with
          worker := closeRpc state.worker, caller := .clearing next, thread := .none }
      | _, _ => none
  | .clear =>
      match state.caller with
      | .clearing .stopped => some { state with
          worker := clear state.worker, caller := .idle, history := state.history.restart }
      | .clearing (.starting sampleFrameBytes) => some { state with
          worker := clear state.worker, caller := .beginning sampleFrameBytes,
          history := state.history.restart }
      | _ => none
  | .begin =>
      match state.caller with
      | .beginning sampleFrameBytes => some { state with
          worker := begin sampleFrameBytes state.worker, caller := .opening }
      | _ => none
  | .setupRpc exception =>
      match state.caller with
      | .opening => some { state with
          worker := setupRpc exception state.worker, caller := .launching }
      | _ => none
  | .launch =>
      match state.caller with
      | .launching =>
          if state.worker.rpcReady then some { state with caller := .idle, thread := .waiting }
          else some { state with worker := giveUp state.worker, caller := .idle }
      | _ => none
  | .drained =>
      match state.caller with
      | .draining => if ready state.worker then some { state with caller := .closing false } else none
      | _ => none
  | .timedOut =>
      match state.caller with
      | .draining =>
          if ready state.worker then none
          else some { state with
            worker := noteTimeout true state.worker, caller := .closing true }
      | _ => none
  | .closeRpc =>
      match state.caller with
      | .closing timeout => some { state with
          worker := closeRpc state.worker, caller := .ending timeout }
      | _ => none
  | .endFinish =>
      match state.caller with
      | .ending timeout => some { state with
          worker := clear state.worker, caller := .idle,
          history := state.history.report (state.worker.error = [] ∧ !timeout) }
      | _ => none
  | .take =>
      match state.thread, state.worker.queue with
      | .waiting, frame :: rest =>
          if !state.worker.stopping ∧ state.worker.rpcReady then some { state with
            worker := take frame rest state.worker, thread := .holding frame }
          else none
      | _, _ => none
  | .exit =>
      match state.thread with
      | .waiting => if state.worker.stopping then some { state with thread := .exited } else none
      | _ => none
  | .call =>
      match state.thread with
      | .holding frame =>
          if state.worker.playback then some { state with
            thread := .writing frame, history := state.history.call frame }
          else some { state with thread := .releasing }
      | _ => none
  | .wrote bytes =>
      match state.thread with
      | .writing frame => some { state with
          worker := countPlayed bytes state.worker, thread := .releasing,
          history := state.history.write frame }
      | _ => none
  | .failed what =>
      match state.thread with
      | .writing _ => some { state with
          worker := failWrite what state.worker, thread := .releasing }
      | _ => none
  | .release =>
      match state.thread with
      | .releasing => some { state with worker := release state.worker, thread := .waiting }
      | _ => none

def PlaybackState.run : List PlaybackEvent → PlaybackState → Option PlaybackState
  | [], state => some state
  | event :: events, state => (state.step event).bind (run events)

end AudioStudio.Gui
