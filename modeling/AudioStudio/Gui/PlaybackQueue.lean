import AudioStudio.Gui.PlaybackWorker

/-!
# The playback queue loses nothing silently

The bytes of the queue are counted right and its frames keep their order, whatever
happens.  No frame is dropped without an error as long as every error has a text.
-/

namespace AudioStudio.Gui

open AudioStudio.LittleEndian
open PlaybackWorker

/-! ## What each event does -/

/-- The steps of the system, with the conditions under which they are taken. -/
inductive Moves (state : PlaybackState) : PlaybackEvent → PlaybackState → Prop where
  | stop (hcaller : state.caller = .idle) :
      Moves state .stop { state with
        worker := requestStop state.worker, caller := .joining .stopped }
  | start (sampleFrameBytes : Int) (hcaller : state.caller = .idle) :
      Moves state (.start sampleFrameBytes) { state with
        worker := requestStop state.worker, caller := .joining (.starting sampleFrameBytes) }
  | accept (frame : Bytes) (hcaller : state.caller = .idle)
      (haccepts : accepts frame state.worker = true) :
      Moves state (.enqueueStream frame) { state with
        worker := push (acceptedFrame frame state.worker) state.worker, caller := .idle
        history := state.history.accept (acceptedFrame frame state.worker) }
  | refuse (frame : Bytes) (hcaller : state.caller = .idle) :
      Moves state (.enqueueStream frame) state
  | poll (timeout : Bool) (hcaller : state.caller = .idle)
      (htimeout : timeout = !ready (requestEof state.worker)) :
      Moves state (.finish 0) { state with
        worker := noteTimeout timeout (requestEof state.worker), caller := .closing timeout }
  | wait (timeoutMs : Nat) (hcaller : state.caller = .idle) :
      Moves state (.finish timeoutMs) { state with
        worker := requestEof state.worker, caller := .draining }
  | join (next : AfterStop) (hcaller : state.caller = .joining next)
      (hthread : state.thread = .none ∨ state.thread = .exited) :
      Moves state .join { state with
        worker := closeRpc state.worker, caller := .clearing next, thread := .none }
  | clear (next : AfterStop) (caller : Caller) (hcaller : state.caller = .clearing next)
      (hnext : caller = .idle ∨ ∃ sampleFrameBytes, caller = .beginning sampleFrameBytes) :
      Moves state .clear { state with
        worker := clear state.worker, caller := caller, history := state.history.restart }
  | begin (sampleFrameBytes : Int) (hcaller : state.caller = .beginning sampleFrameBytes) :
      Moves state .begin { state with
        worker := begin sampleFrameBytes state.worker, caller := .opening }
  | setupRpc (exception : Option (Bytes × Bool)) (hcaller : state.caller = .opening) :
      Moves state (.setupRpc exception) { state with
        worker := setupRpc exception state.worker, caller := .launching }
  | launch (hcaller : state.caller = .launching) (hready : state.worker.rpcReady = true) :
      Moves state .launch { state with caller := .idle, thread := .waiting }
  | giveUp (hcaller : state.caller = .launching) (hready : state.worker.rpcReady = false) :
      Moves state .launch { state with worker := giveUp state.worker, caller := .idle }
  | drained (hcaller : state.caller = .draining) (hready : ready state.worker = true) :
      Moves state .drained { state with caller := .closing false }
  | timedOut (hcaller : state.caller = .draining) :
      Moves state .timedOut { state with
        worker := noteTimeout true state.worker, caller := .closing true }
  | closeRpc (timeout : Bool) (hcaller : state.caller = .closing timeout) :
      Moves state .closeRpc { state with
        worker := closeRpc state.worker, caller := .ending timeout }
  | endFinish (timeout : Bool) (hcaller : state.caller = .ending timeout) :
      Moves state .endFinish { state with
        worker := clear state.worker, caller := .idle
        history := state.history.report (state.worker.error = [] ∧ !timeout) }
  | take (frame : Frame) (rest : List Frame) (hthread : state.thread = .waiting)
      (hqueue : state.worker.queue = frame :: rest) (hready : state.worker.rpcReady = true) :
      Moves state .take { state with
        worker := take frame rest state.worker, thread := .holding frame }
  | exit (hthread : state.thread = .waiting) (hstopping : state.worker.stopping = true) :
      Moves state .exit { state with thread := .exited }
  | call (frame : Frame) (hthread : state.thread = .holding frame)
      (hplayback : state.worker.playback = true) :
      Moves state .call { state with
        thread := .writing frame, history := state.history.call frame }
  | skip (frame : Frame) (hthread : state.thread = .holding frame)
      (hplayback : state.worker.playback = false) :
      Moves state .call { state with thread := .releasing }
  | wrote (frame : Frame) (bytes : Nat) (hthread : state.thread = .writing frame) :
      Moves state (.wrote bytes) { state with
        worker := countPlayed bytes state.worker, thread := .releasing
        history := state.history.write frame }
  | failed (frame : Frame) (what : Bytes) (hthread : state.thread = .writing frame) :
      Moves state (.failed what) { state with
        worker := failWrite what state.worker, thread := .releasing }
  | release (hthread : state.thread = .releasing) :
      Moves state .release { state with worker := release state.worker, thread := .waiting }

theorem moves_of_step {state state' : PlaybackState} {event : PlaybackEvent}
    (hstep : state.step event = some state') : Moves state event state' := by
  cases event with
  | stop =>
      cases hcaller : state.caller with
      | idle =>
          simp only [PlaybackState.step, hcaller] at hstep
          cases hstep
          exact .stop hcaller
      | _ => simp [PlaybackState.step, hcaller] at hstep
  | start sampleFrameBytes =>
      cases hcaller : state.caller with
      | idle =>
          simp only [PlaybackState.step, hcaller] at hstep
          cases hstep
          exact .start sampleFrameBytes hcaller
      | _ => simp [PlaybackState.step, hcaller] at hstep
  | enqueueStream frame =>
      cases hcaller : state.caller with
      | idle =>
          simp only [PlaybackState.step, hcaller] at hstep
          split at hstep
          · next haccepts =>
              cases hstep
              exact .accept frame hcaller haccepts
          · cases hstep
            exact .refuse frame hcaller
      | _ => simp [PlaybackState.step, hcaller] at hstep
  | finish timeoutMs =>
      cases hcaller : state.caller with
      | idle =>
          simp only [PlaybackState.step, hcaller] at hstep
          split at hstep
          · next hzero =>
              cases hstep
              rw [hzero]
              exact .poll _ hcaller rfl
          · cases hstep
            exact .wait timeoutMs hcaller
      | _ => simp [PlaybackState.step, hcaller] at hstep
  | join =>
      cases hcaller : state.caller with
      | joining next =>
          cases hthread : state.thread with
          | none =>
              simp only [PlaybackState.step, hcaller, hthread] at hstep
              cases hstep
              exact .join next hcaller (Or.inl hthread)
          | exited =>
              simp only [PlaybackState.step, hcaller, hthread] at hstep
              cases hstep
              exact .join next hcaller (Or.inr hthread)
          | _ => simp [PlaybackState.step, hcaller, hthread] at hstep
      | _ => simp [PlaybackState.step, hcaller] at hstep
  | clear =>
      cases hcaller : state.caller with
      | clearing next =>
          cases next with
          | stopped =>
              simp only [PlaybackState.step, hcaller] at hstep
              cases hstep
              exact .clear .stopped .idle hcaller (Or.inl rfl)
          | starting sampleFrameBytes =>
              simp only [PlaybackState.step, hcaller] at hstep
              cases hstep
              exact .clear _ _ hcaller (Or.inr ⟨sampleFrameBytes, rfl⟩)
      | _ => simp [PlaybackState.step, hcaller] at hstep
  | begin =>
      cases hcaller : state.caller with
      | beginning sampleFrameBytes =>
          simp only [PlaybackState.step, hcaller] at hstep
          cases hstep
          exact .begin sampleFrameBytes hcaller
      | _ => simp [PlaybackState.step, hcaller] at hstep
  | setupRpc exception =>
      cases hcaller : state.caller with
      | opening =>
          simp only [PlaybackState.step, hcaller] at hstep
          cases hstep
          exact .setupRpc exception hcaller
      | _ => simp [PlaybackState.step, hcaller] at hstep
  | launch =>
      cases hcaller : state.caller with
      | launching =>
          simp only [PlaybackState.step, hcaller] at hstep
          split at hstep
          · next hready =>
              cases hstep
              exact .launch hcaller hready
          · next hready =>
              cases hstep
              exact .giveUp hcaller (Bool.eq_false_iff.mpr hready)
      | _ => simp [PlaybackState.step, hcaller] at hstep
  | drained =>
      cases hcaller : state.caller with
      | draining =>
          simp only [PlaybackState.step, hcaller] at hstep
          split at hstep
          · next hready =>
              cases hstep
              exact .drained hcaller hready
          · cases hstep
      | _ => simp [PlaybackState.step, hcaller] at hstep
  | timedOut =>
      cases hcaller : state.caller with
      | draining =>
          simp only [PlaybackState.step, hcaller] at hstep
          split at hstep
          · cases hstep
          · cases hstep
            exact .timedOut hcaller
      | _ => simp [PlaybackState.step, hcaller] at hstep
  | closeRpc =>
      cases hcaller : state.caller with
      | closing timeout =>
          simp only [PlaybackState.step, hcaller] at hstep
          cases hstep
          exact .closeRpc timeout hcaller
      | _ => simp [PlaybackState.step, hcaller] at hstep
  | endFinish =>
      cases hcaller : state.caller with
      | ending timeout =>
          simp only [PlaybackState.step, hcaller] at hstep
          cases hstep
          exact .endFinish timeout hcaller
      | _ => simp [PlaybackState.step, hcaller] at hstep
  | take =>
      cases hthread : state.thread with
      | waiting =>
          cases hqueue : state.worker.queue with
          | nil => simp [PlaybackState.step, hthread, hqueue] at hstep
          | cons frame rest =>
              simp only [PlaybackState.step, hthread, hqueue] at hstep
              split at hstep
              · next hready =>
                  cases hstep
                  exact .take frame rest hthread hqueue hready.2
              · cases hstep
      | _ => simp [PlaybackState.step, hthread] at hstep
  | exit =>
      cases hthread : state.thread with
      | waiting =>
          simp only [PlaybackState.step, hthread] at hstep
          split at hstep
          · next hstopping =>
              cases hstep
              exact .exit hthread hstopping
          · cases hstep
      | _ => simp [PlaybackState.step, hthread] at hstep
  | call =>
      cases hthread : state.thread with
      | holding frame =>
          simp only [PlaybackState.step, hthread] at hstep
          split at hstep
          · next hplayback =>
              cases hstep
              exact .call frame hthread hplayback
          · next hplayback =>
              cases hstep
              exact .skip frame hthread (Bool.eq_false_iff.mpr hplayback)
      | _ => simp [PlaybackState.step, hthread] at hstep
  | wrote bytes =>
      cases hthread : state.thread with
      | writing frame =>
          simp only [PlaybackState.step, hthread] at hstep
          cases hstep
          exact .wrote frame bytes hthread
      | _ => simp [PlaybackState.step, hthread] at hstep
  | failed what =>
      cases hthread : state.thread with
      | writing frame =>
          simp only [PlaybackState.step, hthread] at hstep
          cases hstep
          exact .failed frame what hthread
      | _ => simp [PlaybackState.step, hthread] at hstep
  | release =>
      cases hthread : state.thread with
      | releasing =>
          simp only [PlaybackState.step, hthread] at hstep
          cases hstep
          exact .release hthread
      | _ => simp [PlaybackState.step, hthread] at hstep

/-! ## Counting and order -/

def queueBytes (queue : List Frame) : Nat :=
  (queue.map List.length).sum

@[simp] theorem queueBytes_nil : queueBytes [] = 0 := rfl

@[simp] theorem queueBytes_cons (frame : Frame) (rest : List Frame) :
    queueBytes (frame :: rest) = frame.length + queueBytes rest := by
  simp [queueBytes]

@[simp] theorem queueBytes_snoc (queue : List Frame) (frame : Frame) :
    queueBytes (queue ++ [frame]) = queueBytes queue + frame.length := by
  simp [queueBytes]

/-- The frame that the worker has taken and not yet passed to `writeFrames`. -/
def WorkerThread.held : WorkerThread → List Frame
  | .holding frame => [frame]
  | _ => []

/-- The frame that `writeFrames` is called with. -/
def WorkerThread.inWrite : WorkerThread → List Frame
  | .writing frame => [frame]
  | _ => []

/-- The worker has been joined. -/
def Caller.joined : Caller → Bool
  | .clearing _ | .beginning _ | .opening | .launching => true
  | _ => false

/-- `start` has cleared the queue and nothing can have been enqueued. -/
def Caller.fresh : Caller → Bool
  | .beginning _ | .opening | .launching => true
  | _ => false

theorem joined_of_fresh {caller : Caller} (hfresh : caller.fresh = true) :
    caller.joined = true := by
  cases caller with
  | beginning sampleFrameBytes => rfl
  | opening => rfl
  | launching => rfl
  | _ => cases hfresh

structure Counted (state : PlaybackState) : Prop where
  joined : state.caller.joined = true → state.thread = .none
  fresh : state.caller.fresh = true → state.worker.queue = [] ∧ state.worker.queuedBytes = 0
  total : state.worker.queuedBytes = queueBytes state.worker.queue
  bounded : state.worker.queuedBytes ≤ kMaxQueueBytes
  order : (state.history.called ++ state.thread.held ++ state.worker.queue).Sublist
    state.history.accepted

section Counting

variable {state state' : PlaybackState} {event : PlaybackEvent}

theorem acceptedFrame_length (frame : Bytes) (worker : PlaybackWorker) :
    (acceptedFrame frame worker).length = alignedAudioBytes frame.length worker.sampleFrameBytes := by
  unfold acceptedFrame alignedAudioBytes
  rw [List.length_take]
  exact Nat.min_eq_left (Nat.sub_le _ _)

/-- A call of the API that has a worker thread beside it, if there is one. -/
theorem Counted.of_caller (hcounted : Counted state) {worker : PlaybackWorker} {caller : Caller}
    (hjoined : caller.joined = false) (hfresh : caller.fresh = false)
    (hqueue : worker.queue = state.worker.queue)
    (hbytes : worker.queuedBytes = state.worker.queuedBytes) :
    Counted { state with worker := worker, caller := caller } where
  joined := fun h => absurd (hjoined.symm.trans h) Bool.false_ne_true
  fresh := fun h => absurd (hfresh.symm.trans h) Bool.false_ne_true
  total := by rw [hbytes, hqueue, hcounted.total]
  bounded := hbytes ▸ hcounted.bounded
  order := hqueue ▸ hcounted.order

/-- What is queued is dropped. -/
theorem Counted.drop_queue (hcounted : Counted state) :
    (state.history.called ++ state.thread.held ++ []).Sublist state.history.accepted :=
  ((List.Sublist.refl _).append (List.nil_sublist _)).trans hcounted.order

theorem noteTimeout_queue (timeout : Bool) (worker : PlaybackWorker) :
    (noteTimeout timeout worker).queue = worker.queue ∧
      (noteTimeout timeout worker).queuedBytes = worker.queuedBytes := by
  unfold noteTimeout
  split <;> exact ⟨rfl, rfl⟩

theorem setupRpc_queue (exception : Option (Bytes × Bool)) (worker : PlaybackWorker) :
    (setupRpc exception worker).queue = worker.queue ∧
      (setupRpc exception worker).queuedBytes = worker.queuedBytes := by
  cases exception with
  | none => exact ⟨rfl, rfl⟩
  | some exception => exact ⟨rfl, rfl⟩

/-- A step of the worker thread that leaves the queue alone. -/
theorem Counted.of_thread (hcounted : Counted state) (hbusy : state.thread ≠ .none)
    {worker : PlaybackWorker} {thread : WorkerThread} {history : PlaybackHistory}
    (hqueue : worker.queue = state.worker.queue)
    (hbytes : worker.queuedBytes = state.worker.queuedBytes)
    (haccepted : history.accepted = state.history.accepted)
    (hcalled : (history.called ++ thread.held).Sublist (state.history.called ++ state.thread.held)) :
    Counted { state with worker := worker, thread := thread, history := history } where
  joined := fun h => absurd (hcounted.joined h) hbusy
  fresh := fun h => by
    rw [hqueue, hbytes]
    exact hcounted.fresh h
  total := by rw [hbytes, hqueue, hcounted.total]
  bounded := hbytes ▸ hcounted.bounded
  order := by
    rw [haccepted, hqueue]
    exact (hcalled.append (List.Sublist.refl _)).trans hcounted.order

theorem counted_step (hcounted : Counted state) (hmoves : Moves state event state') :
    Counted state' := by
  cases hmoves with
  | stop hcaller => exact hcounted.of_caller rfl rfl rfl rfl
  | start sampleFrameBytes hcaller => exact hcounted.of_caller rfl rfl rfl rfl
  | accept frame hcaller haccepts =>
      have hroom : state.worker.queuedBytes +
          alignedAudioBytes frame.length state.worker.sampleFrameBytes ≤ kMaxQueueBytes := by
        unfold accepts at haccepts
        exact (of_decide_eq_true haccepts).2.2.2
      rw [← acceptedFrame_length] at hroom
      refine ⟨nofun, nofun, ?_, hroom, ?_⟩
      · unfold push
        rw [queueBytes_snoc, hcounted.total]
      · unfold push PlaybackHistory.accept
        dsimp only
        rw [← List.append_assoc]
        exact hcounted.order.append (List.Sublist.refl _)
  | refuse frame hcaller => exact hcounted
  | poll timeout hcaller htimeout =>
      exact hcounted.of_caller rfl rfl (noteTimeout_queue _ _).1 (noteTimeout_queue _ _).2
  | wait timeoutMs hcaller => exact hcounted.of_caller rfl rfl rfl rfl
  | join next hcaller hthread =>
      refine ⟨fun _ => rfl, nofun, hcounted.total, hcounted.bounded, ?_⟩
      refine List.Sublist.trans ?_ hcounted.order
      exact ((List.Sublist.refl _).append (List.nil_sublist _)).append (List.Sublist.refl _)
  | clear next caller hcaller hnext =>
      have hnone : state.thread = .none := hcounted.joined (by rw [hcaller]; rfl)
      exact ⟨fun _ => hnone, fun _ => ⟨rfl, rfl⟩, rfl, Nat.zero_le _, hcounted.drop_queue⟩
  | begin sampleFrameBytes hcaller =>
      have hfresh := hcounted.fresh (by rw [hcaller]; rfl)
      refine ⟨fun _ => hcounted.joined (by rw [hcaller]; rfl), fun _ => ⟨hfresh.1, rfl⟩, ?_,
        Nat.zero_le _, hcounted.order⟩
      exact (congrArg queueBytes hfresh.1).symm
  | setupRpc exception hcaller =>
      obtain ⟨hqueue, hbytes⟩ := setupRpc_queue exception state.worker
      have hfresh := hcounted.fresh (by rw [hcaller]; rfl)
      refine ⟨fun _ => hcounted.joined (by rw [hcaller]; rfl),
        fun _ => ⟨hqueue.trans hfresh.1, hbytes.trans hfresh.2⟩, ?_, hbytes ▸ hcounted.bounded,
        hqueue ▸ hcounted.order⟩
      dsimp only
      rw [hbytes, hqueue, hcounted.total]
  | launch hcaller hready =>
      refine ⟨nofun, nofun, hcounted.total, hcounted.bounded, ?_⟩
      have hnone := hcounted.joined (by rw [hcaller]; rfl)
      have horder := hcounted.order
      rwa [hnone] at horder
  | giveUp hcaller hready => exact hcounted.of_caller rfl rfl rfl rfl
  | drained hcaller hready => exact hcounted.of_caller rfl rfl rfl rfl
  | timedOut hcaller =>
      exact hcounted.of_caller rfl rfl (noteTimeout_queue _ _).1 (noteTimeout_queue _ _).2
  | closeRpc timeout hcaller => exact hcounted.of_caller rfl rfl rfl rfl
  | endFinish timeout hcaller =>
      exact ⟨nofun, nofun, rfl, Nat.zero_le _, hcounted.drop_queue⟩
  | take frame rest hthread hqueue hready =>
      have hnot : state.thread ≠ .none := by rw [hthread]; nofun
      have htotal : state.worker.queuedBytes = frame.length + queueBytes rest := by
        rw [hcounted.total, hqueue, queueBytes_cons]
      refine ⟨fun h => absurd (hcounted.joined h) hnot, fun h => ?_, ?_, ?_, ?_⟩
      · have hempty := (hcounted.fresh h).1
        rw [hqueue] at hempty
        cases hempty
      · unfold take
        dsimp only
        omega
      · exact le_trans (Nat.sub_le _ _) hcounted.bounded
      · have horder := hcounted.order
        rw [hthread, hqueue] at horder
        simpa [take, WorkerThread.held] using horder
  | exit hthread hstopping =>
      exact hcounted.of_thread (by rw [hthread]; nofun) rfl rfl rfl (by rw [hthread]; exact List.Sublist.refl _)
  | call frame hthread hplayback =>
      refine hcounted.of_thread (by rw [hthread]; nofun) rfl rfl rfl ?_
      rw [hthread]
      simp [PlaybackHistory.call, WorkerThread.held]
  | skip frame hthread hplayback =>
      refine hcounted.of_thread (by rw [hthread]; nofun) rfl rfl rfl ?_
      exact (List.Sublist.refl _).append (List.nil_sublist _)
  | wrote frame bytes hthread =>
      exact hcounted.of_thread (by rw [hthread]; nofun) rfl rfl rfl (by rw [hthread]; exact List.Sublist.refl _)
  | failed frame what hthread =>
      exact hcounted.of_thread (by rw [hthread]; nofun) rfl rfl rfl (by rw [hthread]; exact List.Sublist.refl _)
  | release hthread =>
      exact hcounted.of_thread (by rw [hthread]; nofun) rfl rfl rfl (by rw [hthread]; exact List.Sublist.refl _)

end Counting

/-! ## Nothing is lost without an error -/

/-- The worker has a frame that is not yet written. -/
def WorkerThread.carries : WorkerThread → Bool
  | .holding _ | .writing _ => true
  | _ => false

def WorkerThread.busy : WorkerThread → Bool
  | .holding _ | .writing _ | .releasing => true
  | _ => false

/-- `playback_` has been reset and `rpc_ready_` may still say that it is there. -/
def Caller.leaving : Caller → Bool
  | .clearing _ | .ending _ => true
  | _ => false

/-- `finish` has seen the queue drained. -/
def Caller.drained : Caller → Bool
  | .closing false | .ending false => true
  | _ => false

/-- `finish` has given up waiting. -/
def Caller.late : Caller → Bool
  | .closing true | .ending true => true
  | _ => false

/-- The worker while no error has been noted. -/
structure Clean (state : PlaybackState) : Prop where
  balance : state.history.acceptedBytes =
    state.history.calledBytes + queueBytes state.thread.held + state.worker.queuedBytes
  written : state.history.calledBytes =
    state.history.writtenBytes + queueBytes state.thread.inWrite
  busy : state.thread.busy = true → state.worker.inFlight = true
  settled : state.worker.rpcReady = false →
    state.worker.queue = [] ∧ state.thread.busy = false
  live : state.worker.active = true → state.caller.fresh = false → state.worker.rpcReady = true
  attached : state.worker.rpcReady = true → state.caller.leaving = false →
    state.worker.playback = true
  carrying : state.thread.carries = true → state.worker.playback = true
  drained : state.caller.drained = true → state.worker.queue = [] ∧ state.thread.busy = false

/-- Nothing has been accepted since the last `start` or `stop`. -/
structure Restarted (history : PlaybackHistory) : Prop where
  accepted : history.acceptedBytes = 0
  called : history.calledBytes = 0
  written : history.writtenBytes = 0

/-- A call has stopped the accepting of frames. -/
def Caller.shut : Caller → Bool
  | .joining _ | .clearing _ | .draining | .closing _ | .ending _ => true
  | _ => false

/-- `start` has not yet opened the RPC session. -/
def Caller.down : Caller → Bool
  | .beginning _ | .opening => true
  | _ => false

structure Accounted (state : PlaybackState) : Prop where
  counted : Counted state
  restarted : state.caller.fresh = true → Restarted state.history
  inactive : state.caller.shut = true → state.worker.active = false
  down : state.caller.down = true → state.worker.rpcReady = false
  late : state.caller.late = true → state.worker.error ≠ []
  clean : state.worker.error = [] → Clean state
  reports : ∀ report ∈ state.history.reports, report.ok = true →
    report.acceptedBytes = report.writtenBytes

section Accounting

variable {state state' : PlaybackState} {event : PlaybackEvent}

theorem idle_bytes {thread : WorkerThread} (hidle : thread.busy = false) :
    queueBytes thread.held = 0 ∧ queueBytes thread.inWrite = 0 := by
  cases thread with
  | holding frame => cases hidle
  | writing frame => cases hidle
  | _ => exact ⟨rfl, rfl⟩

theorem busy_of_carries {thread : WorkerThread} (hcarries : thread.carries = true) :
    thread.busy = true := by
  cases thread with
  | holding frame => rfl
  | writing frame => rfl
  | _ => cases hcarries

/-- Everything that was accepted has been written when nothing is left to write. -/
theorem Clean.all_written (hclean : Clean state) (hcounted : Counted state)
    (hqueue : state.worker.queue = []) (hidle : state.thread.busy = false) :
    state.history.acceptedBytes = state.history.writtenBytes := by
  obtain ⟨hheld, hwriting⟩ := idle_bytes hidle
  have hqueued : state.worker.queuedBytes = 0 := by rw [hcounted.total, hqueue, queueBytes_nil]
  have hbalance := hclean.balance
  have hwritten := hclean.written
  omega

/-- A wait that is over without an error has emptied the queue and the worker's hands. -/
theorem Clean.of_ready (hclean : Clean state) (hready : ready state.worker = true) :
    state.worker.queue = [] ∧ state.thread.busy = false := by
  unfold ready at hready
  rcases of_decide_eq_true hready with hdown | ⟨hqueue, hidle⟩
  · exact hclean.settled (by simpa using hdown)
  · refine ⟨hqueue, ?_⟩
    cases hbusy : state.thread.busy with
    | false => rfl
    | true =>
        rw [hclean.busy hbusy] at hidle
        cases hidle

/-- A session that has just been cleared. -/
theorem Clean.of_restarted (hrestarted : Restarted state.history) (hthread : state.thread = .none)
    (hqueue : state.worker.queue = []) (hbytes : state.worker.queuedBytes = 0)
    (hlive : state.worker.active = true → state.caller.fresh = false → state.worker.rpcReady = true)
    (hattached : state.worker.rpcReady = true → state.worker.playback = true) :
    Clean state where
  balance := by
    rw [hrestarted.accepted, hrestarted.called, hthread, hbytes]
    rfl
  written := by
    rw [hrestarted.called, hrestarted.written, hthread]
    rfl
  busy := by
    rw [hthread]
    nofun
  settled := fun _ => ⟨hqueue, by rw [hthread]; rfl⟩
  live := hlive
  attached := fun hready _ => hattached hready
  carrying := by
    rw [hthread]
    nofun
  drained := fun _ => ⟨hqueue, by rw [hthread]; rfl⟩

/-- A call of the API that stops accepting and touches nothing else. -/
theorem Clean.of_caller (hclean : Clean state) {worker : PlaybackWorker} {caller : Caller}
    (hqueue : worker.queue = state.worker.queue)
    (hbytes : worker.queuedBytes = state.worker.queuedBytes)
    (hflight : worker.inFlight = state.worker.inFlight)
    (hrpc : worker.rpcReady = state.worker.rpcReady) (hactive : worker.active = false)
    (hattached : worker.rpcReady = true → caller.leaving = false → worker.playback = true)
    (hcarrying : state.thread.carries = true → worker.playback = true)
    (hdrained : caller.drained = true → worker.queue = [] ∧ state.thread.busy = false) :
    Clean { state with worker := worker, caller := caller } where
  balance := hbytes ▸ hclean.balance
  written := hclean.written
  busy := fun hbusy => hflight.trans (hclean.busy hbusy)
  settled := fun hdown => by
    rw [hqueue]
    exact hclean.settled (hrpc.symm.trans hdown)
  live := fun h => absurd (hactive.symm.trans h) Bool.false_ne_true
  attached := hattached
  carrying := hcarrying
  drained := hdrained

theorem noteTimeout_late (worker : PlaybackWorker) : (noteTimeout true worker).error ≠ [] := by
  unfold noteTimeout
  split
  · exact (by decide :
      asciiBytes "playback EOS timed out waiting for queued frames to drain" ≠ [])
  · next herror => exact fun hnone => herror ⟨rfl, hnone⟩

theorem noteTimeout_active (timeout : Bool) (worker : PlaybackWorker) :
    (noteTimeout timeout worker).active = worker.active := by
  unfold noteTimeout
  split <;> rfl

theorem noteTimeout_false (worker : PlaybackWorker) : noteTimeout false worker = worker :=
  if_neg fun h => Bool.false_ne_true h.1

/-- A thrown text that says something. -/
def PlaybackEvent.Reported : PlaybackEvent → Prop
  | .failed what => what ≠ []
  | _ => True

/-- A worker that has let go of its frame, with the bytes it held counted elsewhere. -/
theorem Clean.let_go (hclean : Clean state) {worker : PlaybackWorker} {thread : WorkerThread}
    (hheld : queueBytes state.thread.held = 0) (hwriting : queueBytes state.thread.inWrite = 0)
    (hidle : thread.busy = false) (hcarries : thread.carries = false)
    (hqueue : worker.queue = state.worker.queue)
    (hbytes : worker.queuedBytes = state.worker.queuedBytes)
    (hrpc : worker.rpcReady = state.worker.rpcReady)
    (hactive : worker.active = state.worker.active)
    (hplayback : worker.playback = state.worker.playback) :
    Clean { state with worker := worker, thread := thread } := by
  obtain ⟨hheld', hwriting'⟩ := idle_bytes hidle
  constructor
  · rw [hheld', hbytes, ← hheld]
    exact hclean.balance
  · rw [hwriting', ← hwriting]
    exact hclean.written
  · exact fun hbusy => absurd (hidle.symm.trans hbusy) Bool.false_ne_true
  · intro hdown
    rw [hqueue]
    exact ⟨(hclean.settled (hrpc.symm.trans hdown)).1, hidle⟩
  · intro hlive hfresh
    exact hrpc.trans (hclean.live (hactive.symm.trans hlive) hfresh)
  · intro hready hleaving
    exact hplayback.trans (hclean.attached (hrpc.symm.trans hready) hleaving)
  · exact fun hcarrying => absurd (hcarries.symm.trans hcarrying) Bool.false_ne_true
  · intro hdrained
    rw [hqueue]
    exact ⟨(hclean.drained hdrained).1, hidle⟩

/-- While the worker has a frame, the session is up and no wait is over. -/
theorem Clean.of_busy (hclean : Clean state) (hbusy : state.thread.busy = true) :
    state.worker.rpcReady ≠ false ∧ state.caller.drained ≠ true := by
  constructor
  · intro hdown
    exact absurd ((hclean.settled hdown).2.symm.trans hbusy) Bool.false_ne_true
  · intro hdrained
    exact absurd ((hclean.drained hdrained).2.symm.trans hbusy) Bool.false_ne_true

/-- A `start` that has not launched its worker has none. -/
theorem Accounted.not_fresh (haccounted : Accounted state) (hthread : state.thread ≠ .none) :
    state.caller.fresh ≠ true :=
  fun hfresh => hthread (haccounted.counted.joined (joined_of_fresh hfresh))

/-- A worker that may take a frame has a session to play it on. -/
theorem Accounted.plays (haccounted : Accounted state) (herror : state.worker.error = [])
    (hthread : state.thread = .waiting) (hnot : state.caller.drained ≠ true)
    (hready : state.worker.rpcReady = true) : state.worker.playback = true := by
  cases hleaving : state.caller.leaving with
  | false => exact (haccounted.clean herror).attached hready hleaving
  | true =>
      cases hcaller : state.caller with
      | clearing next =>
          have hnone := haccounted.counted.joined (by rw [hcaller]; rfl)
          rw [hthread] at hnone
          cases hnone
      | ending timeout =>
          cases timeout with
          | false => exact absurd (by rw [hcaller]; rfl) hnot
          | true => exact absurd herror (haccounted.late (by rw [hcaller]; rfl))
      | _ =>
          rw [hcaller] at hleaving
          cases hleaving

/-- An ok of `finish` is true. -/
theorem Accounted.drained_of_clean (haccounted : Accounted state) {timeout : Bool}
    (hcaller : state.caller = .ending timeout) (herror : state.worker.error = []) :
    timeout = false ∧ state.worker.queue = [] ∧ state.thread.busy = false := by
  cases timeout with
  | true => exact absurd herror (haccounted.late (by rw [hcaller]; rfl))
  | false => exact ⟨rfl, (haccounted.clean herror).drained (by rw [hcaller]; rfl)⟩

theorem accounted_step (haccounted : Accounted state) (hmoves : Moves state event state')
    (hreported : event.Reported) : Accounted state' := by
  have hcounted' := counted_step haccounted.counted hmoves
  have hreports := haccounted.reports
  cases hmoves with
  | stop hcaller =>
      refine ⟨hcounted', nofun, fun _ => rfl, nofun, nofun, fun herror => ?_, hreports⟩
      have hclean := haccounted.clean herror
      exact hclean.of_caller rfl rfl rfl rfl rfl
        (fun hready _ => hclean.attached hready (by rw [hcaller]; rfl)) hclean.carrying nofun
  | start sampleFrameBytes hcaller =>
      refine ⟨hcounted', nofun, fun _ => rfl, nofun, nofun, fun herror => ?_, hreports⟩
      have hclean := haccounted.clean herror
      exact hclean.of_caller rfl rfl rfl rfl rfl
        (fun hready _ => hclean.attached hready (by rw [hcaller]; rfl)) hclean.carrying nofun
  | accept frame hcaller haccepts =>
      refine ⟨hcounted', nofun, nofun, nofun, nofun, fun herror => ?_, hreports⟩
      have hclean := haccounted.clean herror
      have hactive : state.worker.active = true := by
        unfold accepts at haccepts
        exact (of_decide_eq_true haccepts).1
      have hready := hclean.live hactive (by rw [hcaller]; rfl)
      refine ⟨?_, hclean.written, hclean.busy, fun hdown => ?_, fun _ _ => hready,
        fun _ _ => hclean.attached hready (by rw [hcaller]; rfl), hclean.carrying, nofun⟩
      · have hbalance := hclean.balance
        unfold PlaybackHistory.accept push
        dsimp only
        omega
      · exact absurd (hdown.symm.trans hready) Bool.false_ne_true
  | refuse frame hcaller => exact haccounted
  | poll timeout hcaller htimeout =>
      refine ⟨hcounted', nofun, fun _ => noteTimeout_active _ _, nofun, fun hlate => ?_,
        fun herror => ?_, hreports⟩
      · cases timeout with
        | false => cases hlate
        | true => exact noteTimeout_late _
      · cases timeout with
        | true => exact absurd herror (noteTimeout_late _)
        | false =>
            rw [noteTimeout_false] at herror ⊢
            have hclean := haccounted.clean herror
            have hready : ready state.worker = true := by
              rw [← Bool.not_eq_false']
              exact htimeout.symm
            exact hclean.of_caller rfl rfl rfl rfl rfl
              (fun hrpc _ => hclean.attached hrpc (by rw [hcaller]; rfl)) hclean.carrying
              fun _ => hclean.of_ready hready
  | wait timeoutMs hcaller =>
      refine ⟨hcounted', nofun, fun _ => rfl, nofun, nofun, fun herror => ?_, hreports⟩
      have hclean := haccounted.clean herror
      exact hclean.of_caller rfl rfl rfl rfl rfl
        (fun hready _ => hclean.attached hready (by rw [hcaller]; rfl)) hclean.carrying nofun
  | join next hcaller hthread =>
      have hinactive := haccounted.inactive (by rw [hcaller]; rfl)
      refine ⟨hcounted', nofun, fun _ => hinactive, nofun, nofun, fun herror => ?_, hreports⟩
      have hclean := haccounted.clean herror
      have hidle : queueBytes state.thread.held = 0 ∧ queueBytes state.thread.inWrite = 0 := by
        rcases hthread with hthread | hthread <;> (rw [hthread]; exact ⟨rfl, rfl⟩)
      refine ⟨?_, ?_, nofun, fun hdown => ⟨(hclean.settled hdown).1, rfl⟩,
        fun hactive => absurd (hinactive.symm.trans hactive) Bool.false_ne_true, nofun, nofun, nofun⟩
      · have hbalance := hclean.balance
        rwa [hidle.1] at hbalance
      · have hwritten := hclean.written
        rwa [hidle.2] at hwritten
  | clear next caller hcaller hnext =>
      have hinactive := haccounted.inactive (by rw [hcaller]; rfl)
      have hnone := haccounted.counted.joined (by rw [hcaller]; rfl)
      refine ⟨hcounted', fun _ => ⟨rfl, rfl, rfl⟩, fun _ => hinactive, fun _ => rfl, fun hlate => ?_,
        fun herror => ?_, hreports⟩
      · rcases hnext with rfl | ⟨_, rfl⟩ <;> cases hlate
      · exact Clean.of_restarted ⟨rfl, rfl, rfl⟩ hnone rfl rfl
          (fun hactive => absurd (hinactive.symm.trans hactive) Bool.false_ne_true) nofun
  | begin sampleFrameBytes hcaller =>
      have hrestarted := haccounted.restarted (by rw [hcaller]; rfl)
      have hnone := haccounted.counted.joined (by rw [hcaller]; rfl)
      have hempty := haccounted.counted.fresh (by rw [hcaller]; rfl)
      have hdown := haccounted.down (by rw [hcaller]; rfl)
      refine ⟨hcounted', fun _ => hrestarted, nofun, fun _ => hdown, nofun, fun _ => ?_, hreports⟩
      exact Clean.of_restarted hrestarted hnone hempty.1 rfl nofun
        fun hready => absurd (hdown.symm.trans hready) Bool.false_ne_true
  | setupRpc exception hcaller =>
      have hrestarted := haccounted.restarted (by rw [hcaller]; rfl)
      have hnone := haccounted.counted.joined (by rw [hcaller]; rfl)
      have hempty := haccounted.counted.fresh (by rw [hcaller]; rfl)
      obtain ⟨hqueue, hbytes⟩ := setupRpc_queue exception state.worker
      refine ⟨hcounted', fun _ => hrestarted, nofun, nofun, nofun, fun _ => ?_, hreports⟩
      refine Clean.of_restarted hrestarted hnone (hqueue.trans hempty.1) (hbytes.trans hempty.2)
        nofun fun hready => ?_
      cases exception with
      | none => rfl
      | some exception => cases hready
  | launch hcaller hready =>
      have hnone := haccounted.counted.joined (by rw [hcaller]; rfl)
      refine ⟨hcounted', nofun, nofun, nofun, nofun, fun herror => ?_, hreports⟩
      have hclean := haccounted.clean herror
      refine ⟨?_, ?_, nofun, fun hdown => absurd (hdown.symm.trans hready) Bool.false_ne_true,
        fun _ _ => hready, fun _ _ => hclean.attached hready (by rw [hcaller]; rfl), nofun, nofun⟩
      · have hbalance := hclean.balance
        rwa [hnone] at hbalance
      · have hwritten := hclean.written
        rwa [hnone] at hwritten
  | giveUp hcaller hready =>
      refine ⟨hcounted', nofun, nofun, nofun, nofun, fun herror => ?_, hreports⟩
      have hclean := haccounted.clean herror
      exact hclean.of_caller rfl rfl rfl rfl rfl
        (fun hup _ => absurd (hready.symm.trans hup) Bool.false_ne_true) hclean.carrying nofun
  | drained hcaller hready =>
      have hinactive := haccounted.inactive (by rw [hcaller]; rfl)
      refine ⟨hcounted', nofun, fun _ => hinactive, nofun, nofun, fun herror => ?_, hreports⟩
      have hclean := haccounted.clean herror
      exact hclean.of_caller rfl rfl rfl rfl hinactive
        (fun hrpc _ => hclean.attached hrpc (by rw [hcaller]; rfl)) hclean.carrying
        fun _ => hclean.of_ready hready
  | timedOut hcaller =>
      have hinactive := haccounted.inactive (by rw [hcaller]; rfl)
      exact ⟨hcounted', nofun, fun _ => (noteTimeout_active _ _).trans hinactive, nofun,
        fun _ => noteTimeout_late _, fun herror => absurd herror (noteTimeout_late _), hreports⟩
  | closeRpc timeout hcaller =>
      have hinactive := haccounted.inactive (by rw [hcaller]; rfl)
      have hlate : timeout = true → state.worker.error ≠ [] := fun htimeout =>
        haccounted.late (by rw [hcaller, htimeout]; rfl)
      refine ⟨hcounted', nofun, fun _ => hinactive, nofun, fun h => ?_, fun herror => ?_, hreports⟩
      · cases timeout with
        | false => cases h
        | true => exact hlate rfl
      · have hclean := haccounted.clean herror
        cases timeout with
        | true => exact absurd herror (hlate rfl)
        | false =>
            have hdrained := hclean.drained (by rw [hcaller]; rfl)
            refine hclean.of_caller rfl rfl rfl rfl hinactive nofun (fun hcarries => ?_)
              fun _ => hdrained
            exact absurd (hdrained.2.symm.trans (busy_of_carries hcarries)) Bool.false_ne_true
  | endFinish timeout hcaller =>
      have hinactive := haccounted.inactive (by rw [hcaller]; rfl)
      have hdrained := fun herror => haccounted.drained_of_clean hcaller herror
      refine ⟨hcounted', nofun, nofun, nofun, nofun, fun herror => ?_, ?_⟩
      · have hclean := haccounted.clean herror
        obtain ⟨_, hqueue, hidle⟩ := hdrained herror
        have hqueued : state.worker.queuedBytes = 0 := by
          rw [haccounted.counted.total, hqueue, queueBytes_nil]
        refine ⟨?_, hclean.written, fun hbusy => ?_, fun _ => ⟨rfl, hidle⟩,
          fun hactive => absurd (hinactive.symm.trans hactive) Bool.false_ne_true, nofun, hclean.carrying,
          nofun⟩
        · have hbalance := hclean.balance
          rwa [hqueued] at hbalance
        · exact absurd (hidle.symm.trans hbusy) Bool.false_ne_true
      · intro report hmem hok
        unfold PlaybackHistory.report at hmem
        rcases List.mem_append.mp hmem with hold | hnew
        · exact hreports report hold hok
        · obtain rfl := List.mem_singleton.mp hnew
          obtain ⟨herror, _⟩ := of_decide_eq_true hok
          obtain ⟨_, hqueue, hidle⟩ := hdrained herror
          exact (haccounted.clean herror).all_written haccounted.counted hqueue hidle
  | take frame rest hthread hqueue hready =>
      refine ⟨hcounted', haccounted.restarted, haccounted.inactive, haccounted.down, haccounted.late,
        fun herror => ?_, hreports⟩
      have hclean := haccounted.clean herror
      have hnot : state.caller.drained ≠ true := fun hdrained => by
        have hempty := (hclean.drained hdrained).1
        rw [hqueue] at hempty
        cases hempty
      have hplayback := haccounted.plays herror hthread hnot hready
      refine ⟨?_, ?_, fun _ => rfl, fun hdown => absurd (hdown.symm.trans hready) Bool.false_ne_true,
        hclean.live, fun _ _ => hplayback, fun _ => hplayback, fun h => absurd h hnot⟩
      · have hbalance := hclean.balance
        have htotal := haccounted.counted.total
        rw [hthread] at hbalance
        rw [hqueue, queueBytes_cons] at htotal
        simp only [WorkerThread.held, queueBytes_cons, queueBytes_nil, take] at hbalance ⊢
        omega
      · have hwritten := hclean.written
        rwa [hthread] at hwritten
  | exit hthread hstopping =>
      refine ⟨hcounted', haccounted.restarted, haccounted.inactive, haccounted.down, haccounted.late,
        fun herror => ?_, hreports⟩
      exact (haccounted.clean herror).let_go (by rw [hthread]; rfl) (by rw [hthread]; rfl) rfl rfl
        rfl rfl rfl rfl rfl
  | call frame hthread hplayback =>
      have hfresh := haccounted.not_fresh (by rw [hthread]; nofun)
      refine ⟨hcounted', fun h => absurd h hfresh, haccounted.inactive, haccounted.down,
        haccounted.late, fun herror => ?_, hreports⟩
      have hclean := haccounted.clean herror
      have hbusy : state.thread.busy = true := by rw [hthread]; rfl
      obtain ⟨hup, hnot⟩ := hclean.of_busy hbusy
      refine ⟨?_, ?_, fun _ => hclean.busy hbusy, fun hdown => absurd hdown hup, hclean.live,
        hclean.attached, fun _ => hplayback, fun hdrained => absurd hdrained hnot⟩
      · have hbalance := hclean.balance
        rw [hthread] at hbalance
        simp only [WorkerThread.held, queueBytes_cons, queueBytes_nil,
          PlaybackHistory.call] at hbalance ⊢
        omega
      · have hwritten := hclean.written
        rw [hthread] at hwritten
        simp only [WorkerThread.inWrite, queueBytes_cons, queueBytes_nil,
          PlaybackHistory.call] at hwritten ⊢
        omega
  | skip frame hthread hplayback =>
      refine ⟨hcounted', haccounted.restarted, haccounted.inactive, haccounted.down, haccounted.late,
        fun herror => ?_, hreports⟩
      have hcarrying := (haccounted.clean herror).carrying (by rw [hthread]; rfl)
      exact absurd (hplayback.symm.trans hcarrying) Bool.false_ne_true
  | wrote frame bytes hthread =>
      have hfresh := haccounted.not_fresh (by rw [hthread]; nofun)
      refine ⟨hcounted', fun h => absurd h hfresh, haccounted.inactive, haccounted.down,
        haccounted.late, fun herror => ?_, hreports⟩
      have hclean := haccounted.clean herror
      have hbusy : state.thread.busy = true := by rw [hthread]; rfl
      obtain ⟨hup, hnot⟩ := hclean.of_busy hbusy
      refine ⟨?_, ?_, fun _ => hclean.busy hbusy, fun hdown => absurd hdown hup, hclean.live,
        hclean.attached, nofun, fun hdrained => absurd hdrained hnot⟩
      · have hbalance := hclean.balance
        rwa [hthread] at hbalance
      · have hwritten := hclean.written
        rw [hthread] at hwritten
        simp only [WorkerThread.inWrite, queueBytes_cons, queueBytes_nil,
          PlaybackHistory.write] at hwritten ⊢
        omega
  | failed frame what hthread =>
      exact ⟨hcounted', haccounted.restarted, haccounted.inactive, fun _ => rfl,
        fun _ => hreported, fun herror => absurd herror hreported, hreports⟩
  | release hthread =>
      refine ⟨hcounted', haccounted.restarted, haccounted.inactive, haccounted.down, haccounted.late,
        fun herror => ?_, hreports⟩
      exact (haccounted.clean herror).let_go (by rw [hthread]; rfl) (by rw [hthread]; rfl) rfl rfl
        rfl rfl rfl rfl rfl

theorem accounted_start : Accounted {} where
  counted := ⟨nofun, nofun, rfl, Nat.zero_le _, List.Sublist.refl _⟩
  restarted := nofun
  inactive := nofun
  down := nofun
  late := nofun
  clean := fun _ => ⟨rfl, rfl, nofun, fun _ => ⟨rfl, rfl⟩, nofun, nofun, nofun, nofun⟩
  reports := nofun

theorem accounted_run {events : List PlaybackEvent} (haccounted : Accounted state)
    (hreported : ∀ event ∈ events, event.Reported)
    (hrun : PlaybackState.run events state = some state') : Accounted state' := by
  induction events generalizing state with
  | nil =>
      cases hrun
      exact haccounted
  | cons event events ih =>
      obtain ⟨middle, hstep, hrest⟩ := Option.bind_eq_some_iff.mp hrun
      have hmiddle := accounted_step haccounted (moves_of_step hstep)
        (hreported event List.mem_cons_self)
      exact ih hmiddle (fun later hmem => hreported later (List.mem_cons_of_mem event hmem)) hrest

end Accounting

/-! ## Whole runs -/

/-- The queue is counted and bounded, its frames go out in order and at most once, none is
missing without an error, and an ok of `finish` is true. -/
structure NothingLost (state : PlaybackState) : Prop where
  total : state.worker.queuedBytes = queueBytes state.worker.queue
  bounded : state.worker.queuedBytes ≤ kMaxQueueBytes
  order : state.history.called.Sublist state.history.accepted
  balance : state.worker.error = [] → state.history.acceptedBytes =
    state.history.calledBytes + queueBytes state.thread.held + state.worker.queuedBytes
  reports : ∀ report ∈ state.history.reports, report.ok = true →
    report.acceptedBytes = report.writtenBytes

/-- In every run whose failed writes have a text, in every state that is reached. -/
theorem playback_loses_nothing {state : PlaybackState} (events : List PlaybackEvent)
    (hreported : ∀ event ∈ events, event.Reported)
    (hrun : PlaybackState.run events {} = some state) : NothingLost state := by
  have haccounted := accounted_run accounted_start hreported hrun
  have hcounted := haccounted.counted
  have horder : state.history.called.Sublist
      (state.history.called ++ state.thread.held ++ state.worker.queue) := by
    rw [List.append_assoc]
    exact List.sublist_append_left _ _
  exact ⟨hcounted.total, hcounted.bounded, horder.trans hcounted.order,
    fun herror => (haccounted.clean herror).balance, haccounted.reports⟩

/-- A start up to the thread of the worker, and one frame that the worker takes. -/
def firstFrame (result : PlaybackEvent) : List PlaybackEvent :=
  [.start 4, .join, .clear, .begin, .setupRpc none, .launch, .enqueueStream [1, 2, 3, 4],
    .take, .call, result, .release, .finish 0, .closeRpc, .endFinish]

/-- One frame that is written. -/
theorem playback_loses_nothing_example : ∃ state,
    PlaybackState.run (firstFrame (.wrote 4)) {} = some state ∧ NothingLost state := by
  have hrun : (PlaybackState.run (firstFrame (.wrote 4)) {}).isSome = true := by decide +kernel
  obtain ⟨state, hstate⟩ := Option.isSome_iff_exists.mp hrun
  refine ⟨state, hstate, playback_loses_nothing (firstFrame (.wrote 4)) ?_ hstate⟩
  intro event hmem
  simp only [firstFrame, List.mem_cons, List.not_mem_nil, or_false] at hmem
  rcases hmem with rfl | rfl | rfl | rfl | rfl | rfl | rfl | rfl | rfl | rfl | rfl | rfl | rfl | rfl <;>
    trivial

/-- The write of the frame fails with an empty text: `finish` answers ok, and nothing of
what was accepted has been written. -/
theorem empty_error_loses_frame : ∃ state,
    PlaybackState.run (firstFrame (.failed [])) {} = some state ∧
      state.history.reports = [⟨true, 4, 0⟩] ∧ ¬ NothingLost state := by
  have hrun : (PlaybackState.run (firstFrame (.failed [])) {}).map (·.history.reports) =
      some [⟨true, 4, 0⟩] := by decide +kernel
  obtain ⟨state, hstate, hreports⟩ := Option.map_eq_some_iff.mp hrun
  refine ⟨state, hstate, hreports, fun hlost => ?_⟩
  have hfalse := hlost.reports ⟨true, 4, 0⟩ (by rw [hreports]; exact List.mem_singleton_self _) rfl
  exact absurd hfalse (by decide)

end AudioStudio.Gui
