import AudioStudio.Gui.PlaybackQueue

/-!
# The calls of the playback worker return

`stop` and `start` wait for the worker thread, `finish` waits for the queue.  Without a new call
every order of steps ends, and it only ends when the call has returned.
-/

namespace AudioStudio.Gui

open PlaybackWorker

section Calls

variable {state state' : PlaybackState} {event : PlaybackEvent}

/-- A step of the worker thread, or of the call that is under way. -/
def PlaybackEvent.internal : PlaybackEvent → Bool
  | .stop | .start _ | .enqueueStream _ | .finish _ => false
  | _ => true

/-! ## What is left to do -/

/-- A bound on the steps that are left to a call, with one for the worker that it launches. -/
def Caller.rank : Caller → Nat
  | .idle => 0
  | .ending _ => 1
  | .closing _ | .launching => 2
  | .draining | .opening => 3
  | .beginning _ => 4
  | .clearing _ => 5
  | .joining _ => 6

/-- The steps of the worker until it has exited. -/
def WorkerThread.rank : WorkerThread → Nat
  | .none | .exited => 0
  | .waiting => 1
  | .releasing => 2
  | .writing _ => 3
  | .holding _ => 4

/-- A bound on the steps that are left, four of them for each frame of the queue. -/
def PlaybackState.work (state : PlaybackState) : Nat :=
  4 * state.worker.queue.length + state.thread.rank + state.caller.rank

/-- No step is taken for nothing, in whichever state. -/
theorem work_decreases (hinternal : event.internal = true) (hmoves : Moves state event state') :
    state'.work < state.work := by
  unfold PlaybackState.work
  cases hmoves with
  | stop | start | accept | refuse | poll | wait => cases hinternal
  | join next hcaller hthread =>
      simp only [hcaller, Caller.rank, WorkerThread.rank, closeRpc]
      omega
  | clear next caller hcaller hnext =>
      have hrank : caller.rank ≤ 4 := by
        rcases hnext with rfl | ⟨sampleFrameBytes, rfl⟩
        · exact Nat.zero_le 4
        · exact le_refl 4
      have hclearing : state.caller.rank = 5 := by
        rw [hcaller]
        rfl
      simp only [PlaybackWorker.clear, List.length_nil]
      omega
  | begin _ hcaller | giveUp hcaller _ | drained hcaller _ | closeRpc _ hcaller =>
      simp only [hcaller, Caller.rank, PlaybackWorker.begin, PlaybackWorker.giveUp,
        PlaybackWorker.closeRpc]
      omega
  | setupRpc exception hcaller =>
      simp only [hcaller, Caller.rank, (setupRpc_queue exception state.worker).1]
      omega
  | timedOut hcaller =>
      simp only [hcaller, Caller.rank, (noteTimeout_queue true state.worker).1]
      omega
  | endFinish timeout hcaller =>
      simp only [hcaller, Caller.rank, PlaybackWorker.clear, List.length_nil]
      omega
  | launch hcaller hready =>
      simp only [hcaller, Caller.rank, WorkerThread.rank]
      omega
  | take frame rest hthread hqueue hready =>
      simp only [hthread, hqueue, WorkerThread.rank, PlaybackWorker.take, List.length_cons]
      omega
  | exit hthread _ | call frame hthread _ | skip frame hthread _ | wrote frame bytes hthread
  | failed frame what hthread | release hthread =>
      simp only [hthread, WorkerThread.rank, countPlayed, failWrite, PlaybackWorker.release]
      omega

theorem run_bounded {events : List PlaybackEvent}
    (hinternal : ∀ event ∈ events, event.internal = true)
    (hrun : PlaybackState.run events state = some state') :
    events.length + state'.work ≤ state.work := by
  induction events generalizing state with
  | nil =>
      cases hrun
      exact (Nat.zero_add _).le
  | cons event events ih =>
      obtain ⟨hevent, hevents⟩ := List.forall_mem_cons.mp hinternal
      obtain ⟨middle, hstep, hrest⟩ := Option.bind_eq_some_iff.mp hrun
      have hless := work_decreases hevent (moves_of_step hstep)
      have hbound := ih hevents hrest
      rw [List.length_cons]
      omega

/-! ## A call is not left waiting -/

/-- A worker that is waited for has been told to stop. -/
def ToldToStop (state : PlaybackState) : Prop :=
  ∀ next, state.caller = .joining next → state.worker.stopping = true

theorem toldToStop_step (htold : ToldToStop state) (hmoves : Moves state event state') :
    ToldToStop state' := by
  cases hmoves with
  | stop | start => exact fun _ _ => rfl
  | clear next caller hcaller hnext =>
      rintro next rfl
      rcases hnext with hnext | ⟨_, hnext⟩ <;> cases hnext
  | refuse | take | exit | call | skip | wrote | failed | release => exact htold
  | _ => exact nofun

theorem toldToStop_run {events : List PlaybackEvent} (htold : ToldToStop state)
    (hrun : PlaybackState.run events state = some state') : ToldToStop state' := by
  induction events generalizing state with
  | nil =>
      cases hrun
      exact htold
  | cons event events ih =>
      obtain ⟨middle, hstep, hrest⟩ := Option.bind_eq_some_iff.mp hrun
      exact ih (toldToStop_step htold (moves_of_step hstep)) hrest

/-- As long as a call is under way, it or the worker can take a step. -/
theorem can_step (htold : ToldToStop state) (hbusy : state.caller ≠ .idle) :
    ∃ event : PlaybackEvent, event.internal = true ∧ (state.step event).isSome = true := by
  cases hcaller : state.caller with
  | idle => exact absurd hcaller hbusy
  | joining next =>
      cases hthread : state.thread with
      | none | exited => exact ⟨.join, rfl, by simp [PlaybackState.step, hcaller, hthread]⟩
      | waiting =>
          exact ⟨.exit, rfl, by simp [PlaybackState.step, hthread, htold next hcaller]⟩
      | holding frame =>
          refine ⟨.call, rfl, ?_⟩
          simp only [PlaybackState.step, hthread]
          split <;> rfl
      | writing frame => exact ⟨.wrote 0, rfl, by simp [PlaybackState.step, hthread]⟩
      | releasing => exact ⟨.release, rfl, by simp [PlaybackState.step, hthread]⟩
  | clearing next =>
      cases next with
      | stopped | starting => exact ⟨.clear, rfl, by simp [PlaybackState.step, hcaller]⟩
  | beginning => exact ⟨.begin, rfl, by simp [PlaybackState.step, hcaller]⟩
  | opening => exact ⟨.setupRpc none, rfl, by simp [PlaybackState.step, hcaller]⟩
  | launching =>
      refine ⟨.launch, rfl, ?_⟩
      simp only [PlaybackState.step, hcaller]
      split <;> rfl
  | draining =>
      cases hready : ready state.worker with
      | true => exact ⟨.drained, rfl, by simp [PlaybackState.step, hcaller, hready]⟩
      | false => exact ⟨.timedOut, rfl, by simp [PlaybackState.step, hcaller, hready]⟩
  | closing => exact ⟨.closeRpc, rfl, by simp [PlaybackState.step, hcaller]⟩
  | ending => exact ⟨.endFinish, rfl, by simp [PlaybackState.step, hcaller]⟩

end Calls

/-- Behind every run, the steps of the worker and of the call under way are bounded, in whatever
order they are taken, and when none is left the call has returned. -/
theorem calls_return (events more : List PlaybackEvent) {state last : PlaybackState}
    (hrun : PlaybackState.run events {} = some state)
    (hinternal : ∀ event ∈ more, event.internal = true)
    (hmore : PlaybackState.run more state = some last) :
    more.length + last.work ≤ state.work ∧
      ((∀ event : PlaybackEvent, event.internal = true → last.step event = none) →
        last.caller = .idle) := by
  refine ⟨run_bounded hinternal hmore, fun hstuck => ?_⟩
  have hinitial : ToldToStop {} := fun _ => nofun
  have htold : ToldToStop last := toldToStop_run (toldToStop_run hinitial hrun) hmore
  by_contra hbusy
  obtain ⟨event, hevent, hsome⟩ := can_step htold hbusy
  rw [hstuck event hevent] at hsome
  cases hsome

/-- A `stop` finds the worker with a frame in its hands. -/
theorem calls_return_of_stop : ∃ state last,
    PlaybackState.run [.start 4, .join, .clear, .begin, .setupRpc none, .launch,
      .enqueueStream [1, 2, 3, 4], .take, .stop] {} = some state ∧
    PlaybackState.run [.call, .wrote 4, .release, .exit, .join, .clear] state = some last ∧
      6 + last.work ≤ state.work ∧
      ((∀ event : PlaybackEvent, event.internal = true → last.step event = none) →
        last.caller = .idle) := by
  refine ⟨_, _, rfl, rfl, ?_⟩
  exact calls_return [.start 4, .join, .clear, .begin, .setupRpc none, .launch,
    .enqueueStream [1, 2, 3, 4], .take, .stop] [.call, .wrote 4, .release, .exit, .join, .clear]
    rfl (by decide) rfl

end AudioStudio.Gui
