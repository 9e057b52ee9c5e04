import AudioStudio.Transport.Runtimes

/-!
# Steps of the channel runtimes

What any step of any thread can do, and what therefore holds of every run: a runtime calls
back what it accepted in order, and a worker only exits with an empty queue.
-/

namespace AudioStudio.Transport

open AudioStudio.Common
open Wire

/-! ## What a step does -/

/-- The request that a worker has taken off its queue and not called back. -/
def Worker.request? : Worker → Option AsyncRequest
  | .sending request _ => some request
  | .answered request _ => some request
  | _ => none

/-- Whether a worker is past its wait. -/
def Worker.busy : Worker → Bool
  | .waiting => false
  | .exited => false
  | _ => true

/-- What any thread can do to a runtime. -/
inductive RuntimeStep (runtime : ChannelRuntime) : ChannelRuntime → Prop where
  | enqueue (request : AsyncRequest) (hopen : runtime.isOpen = true) :
      RuntimeStep runtime { runtime with
        queue := runtime.queue ++ [request], accepted := runtime.accepted ++ [request] }
  | stop : RuntimeStep runtime { runtime with isOpen := false, stopping := true }
  | join (hexited : runtime.worker = .exited) :
      RuntimeStep runtime { runtime with joined := runtime.joined + 1 }
  | exit (hwaiting : runtime.worker = .waiting) (hqueue : runtime.queue = [])
      (hstopping : runtime.stopping = true) : RuntimeStep runtime { runtime with worker := .exited }
  | take (request : AsyncRequest) (queue : List AsyncRequest)
      (hwaiting : runtime.worker = .waiting) (hqueue : runtime.queue = request :: queue) :
      RuntimeStep runtime { runtime with
        queue, active := true, worker := .sending request (.require .sendSync) }
  | send (request : AsyncRequest) (worker : Worker)
      (hbefore : runtime.worker.request? = some request) (hafter : worker.request? = some request) :
      RuntimeStep runtime { runtime with worker }
  | answer (request : AsyncRequest) (result : Result TransportFrame)
      (hanswered : runtime.worker = .answered request result) :
      RuntimeStep runtime { runtime with
        worker := .finishing
        callbacks := if request.callback then runtime.callbacks ++ [(request, result)]
          else runtime.callbacks }
  | finish (hfinishing : runtime.worker = .finishing) :
      RuntimeStep runtime { runtime with active := false, worker := .waiting }

/-- The runtime that a `closeChannel` has looked up. -/
def ClosePhase.found? : ClosePhase → Option Nat
  | .require => none
  | .drainRequire found => some found
  | .drainWait found _ => some found
  | .stop found => some found
  | .joinable found => some found
  | .join found => some found
  | .erase found => some found

/-- Whether the worker has been told to stop. -/
def ClosePhase.stopped : ClosePhase → Bool
  | .joinable _ => true
  | .join _ => true
  | .erase _ => true
  | _ => false

/-- The id that a thread closes, with the runtime that it has looked up. -/
def Caller.found? : Caller → Option (UInt16 × Nat)
  | .closing id phase _ => phase.found?.map (id, ·)
  | _ => none

/-- What a caller's step does. -/
inductive CallerStep (shared : Shared) : Caller → Shared → Caller → Prop where
  | pass (caller caller' : Caller) (hbefore : caller.found? = none) (hafter : caller'.found? = none)
      (hopens : ∀ id service, caller' ≠ .openChannel id service) :
      CallerStep shared caller shared caller'
  | opened (id : UInt16) (service : String) (hfree : shared.channels id = none) :
      CallerStep shared (.openChannel id service)
        { channels := Function.update shared.channels id (some shared.runtimes.length)
          runtimes := shared.runtimes ++ [{ id }] } (.returned (.ok ()))
  | enqueued (found : Nat) (request : AsyncRequest) (runtime : ChannelRuntime)
      (hfound : shared.runtimes[found]? = some runtime) (hopen : runtime.isOpen = true) :
      CallerStep shared (.enqueue found request)
        (shared.setRuntime found { runtime with
          queue := runtime.queue ++ [request], accepted := runtime.accepted ++ [request] })
        (.returned (.ok ()))
  | required (id : UInt16) (rest : Option (List UInt16)) (found : Nat)
      (hfound : shared.channels id = some found) :
      CallerStep shared (.closing id .require rest) shared (.closing id (.drainRequire found) rest)
  | drains (id : UInt16) (rest : Option (List UInt16)) (phase phase' : ClosePhase)
      (hfound : phase'.found? = phase.found?) (hbefore : phase.stopped = false)
      (hafter : phase'.stopped = false) :
      CallerStep shared (.closing id phase rest) shared (.closing id phase' rest)
  | stopped (id : UInt16) (rest : Option (List UInt16)) (found : Nat) (runtime : ChannelRuntime)
      (hfound : shared.runtimes[found]? = some runtime) :
      CallerStep shared (.closing id (.stop found) rest)
        (shared.setRuntime found { runtime with isOpen := false, stopping := true })
        (.closing id (.joinable found) rest)
  | joins (id : UInt16) (rest : Option (List UInt16)) (found : Nat) (runtime : ChannelRuntime)
      (hfound : shared.runtimes[found]? = some runtime) (hjoined : runtime.joined = 0) :
      CallerStep shared (.closing id (.joinable found) rest) shared (.closing id (.join found) rest)
  | skips (id : UInt16) (rest : Option (List UInt16)) (found : Nat) (runtime : ChannelRuntime)
      (hfound : shared.runtimes[found]? = some runtime) (hjoined : runtime.joined ≠ 0) :
      CallerStep shared (.closing id (.joinable found) rest) shared (.closing id (.erase found) rest)
  | joined (id : UInt16) (rest : Option (List UInt16)) (found : Nat) (runtime : ChannelRuntime)
      (hfound : shared.runtimes[found]? = some runtime) (hexited : runtime.worker = .exited) :
      CallerStep shared (.closing id (.join found) rest)
        (shared.setRuntime found { runtime with joined := runtime.joined + 1 })
        (.closing id (.erase found) rest)
  | erased (id : UInt16) (rest : Option (List UInt16)) (found : Nat) :
      CallerStep shared (.closing id (.erase found) rest)
        { shared with channels := Function.update shared.channels id none } (closed (.ok ()) rest)

/-- What any step does to the channel table and to the runtimes. -/
inductive SharedStep (shared : Shared) : Shared → Prop where
  | same : SharedStep shared shared
  | opened (id : UInt16) (hfree : shared.channels id = none) :
      SharedStep shared
        { channels := Function.update shared.channels id (some shared.runtimes.length)
          runtimes := shared.runtimes ++ [{ id }] }
  | erased (id : UInt16) :
      SharedStep shared { shared with channels := Function.update shared.channels id none }
  | changed (found : Nat) (runtime next : ChannelRuntime)
      (hfound : shared.runtimes[found]? = some runtime) (hstep : RuntimeStep runtime next) :
      SharedStep shared (shared.setRuntime found next)

section Steps

variable {shared shared' : Shared} {sent : Result Unit} {received : Result TransportFrame}
  {runtime next : ChannelRuntime} {caller caller' : Caller} {system system' : System}
  {event : SystemEvent}

variable {id : UInt16}

theorem sendStep_request {request : AsyncRequest} {phase : SendPhase} {worker : Worker}
    (hstep : sendStep shared id sent received request phase = some worker) :
    worker.request? = some request := by
  cases phase with
  | require look =>
      simp only [sendStep] at hstep
      split at hstep
      · cases hstep
        rfl
      · cases hstep
        rfl
  | check look found =>
      simp only [sendStep, Option.bind_eq_bind, Option.bind_eq_some_iff] at hstep
      obtain ⟨runtime, _, hstep⟩ := hstep
      split at hstep
      · cases hstep
        rfl
      · cases hstep
        cases look <;> rfl
  | sendPacket =>
      cases sent <;> cases hstep <;> rfl
  | receivePacket =>
      cases received <;> cases hstep <;> rfl

theorem workerStep_cases (hstep : workerStep shared sent received runtime = some next) :
    RuntimeStep runtime next := by
  unfold workerStep at hstep
  cases hworker : runtime.worker with
  | waiting =>
      cases hqueue : runtime.queue with
      | nil =>
          simp only [hworker, hqueue, Option.ite_none_right_eq_some, Option.some.injEq] at hstep
          obtain ⟨hstopping, rfl⟩ := hstep
          rw [← hqueue]
          exact .exit hworker hqueue hstopping
      | cons request queue =>
          simp only [hworker, hqueue, Option.some.injEq] at hstep
          obtain rfl := hstep
          exact .take request queue hworker hqueue
  | sending request phase =>
      simp only [hworker, Option.bind_eq_bind, Option.bind_eq_some_iff, Option.some.injEq] at hstep
      obtain ⟨worker, hsend, rfl⟩ := hstep
      exact .send request worker (by rw [hworker]; rfl) (sendStep_request hsend)
  | answered request result =>
      simp only [hworker, Option.some.injEq] at hstep
      obtain rfl := hstep
      exact .answer request result hworker
  | finishing =>
      simp only [hworker, Option.some.injEq] at hstep
      obtain rfl := hstep
      exact .finish hworker
  | exited => simp [hworker] at hstep

/-- A worker's step is about its requests: the record of what was accepted and the joins
are left. -/
theorem workerStep_leaves (hstep : workerStep shared sent received runtime = some next) :
    next.accepted = runtime.accepted ∧ next.joined = runtime.joined := by
  unfold workerStep at hstep
  split at hstep
  · split at hstep
    · simp only [Option.ite_none_right_eq_some, Option.some.injEq] at hstep
      obtain ⟨_, rfl⟩ := hstep
      exact ⟨rfl, rfl⟩
    · cases hstep
      exact ⟨rfl, rfl⟩
  · simp only [Option.bind_eq_bind, Option.bind_eq_some_iff, Option.some.injEq] at hstep
    obtain ⟨worker, _, rfl⟩ := hstep
    exact ⟨rfl, rfl⟩
  · cases hstep
    exact ⟨rfl, rfl⟩
  · cases hstep
    exact ⟨rfl, rfl⟩
  · exact absurd hstep nofun

variable {found : Nat}

/-- What held of a runtime holds after a store to one of the runtimes, when it holds of what
was stored there. -/
theorem Shared.setRuntime_holds {P : ChannelRuntime → Prop} {other : Nat}
    {runtime before next : ChannelRuntime} (hruntime : shared.runtimes[found]? = some runtime)
    (hbefore : shared.runtimes[other]? = some before) (hholds : P runtime)
    (hnext : other = found → P before → P next) :
    ∃ next', (shared.setRuntime other next).runtimes[found]? = some next' ∧ P next' := by
  by_cases heq : other = found
  · subst heq
    obtain rfl : before = runtime := Option.some.inj (hbefore.symm.trans hruntime)
    have hinside := (List.getElem?_eq_some_iff.mp hruntime).1
    exact ⟨next, List.getElem?_set_self hinside, hnext rfl hholds⟩
  · exact ⟨runtime, (List.getElem?_set_ne heq).trans hruntime, hholds⟩

@[simp] theorem closed_found (result : Result Unit) (rest : Option (List UInt16)) :
    (closed result rest).found? = none := by
  rcases rest with _ | _ | ⟨id, rest⟩ <;> rfl

theorem closed_opens (result : Result Unit) (rest : Option (List UInt16)) (id : UInt16)
    (service : String) : closed result rest ≠ .openChannel id service := by
  rcases rest with _ | _ | ⟨other, rest⟩ <;> nofun

theorem closeStep_cases {rest : Option (List UInt16)} {phase : ClosePhase}
    (hstep : closeStep shared id rest phase = some (shared', caller')) :
    CallerStep shared (.closing id phase rest) shared' caller' := by
  cases phase with
  | require =>
      cases hchannel : shared.channels id with
      | none =>
          simp only [closeStep, Shared.requireChannel, hchannel] at hstep
          cases hstep
          exact .pass _ _ rfl (closed_found _ rest) (closed_opens _ rest)
      | some found =>
          simp only [closeStep, Shared.requireChannel, hchannel] at hstep
          cases hstep
          exact .required id rest found hchannel
  | drainRequire found =>
      simp only [closeStep] at hstep
      split at hstep
      · cases hstep
        exact .drains id rest _ _ rfl rfl rfl
      · cases hstep
        exact .drains id rest _ _ rfl rfl rfl
  | drainWait found drained =>
      simp only [closeStep, Option.bind_eq_bind, Option.bind_eq_some_iff] at hstep
      obtain ⟨runtime, _, hstep⟩ := hstep
      split at hstep
      · cases hstep
        exact .drains id rest _ _ rfl rfl rfl
      · cases hstep
  | stop found =>
      simp only [closeStep, Option.bind_eq_bind, Option.bind_eq_some_iff] at hstep
      obtain ⟨runtime, hfound, hstep⟩ := hstep
      cases hstep
      exact .stopped id rest found runtime hfound
  | joinable found =>
      simp only [closeStep, Option.bind_eq_bind, Option.bind_eq_some_iff] at hstep
      obtain ⟨runtime, hfound, hstep⟩ := hstep
      split at hstep
      · next hjoinable =>
          cases hstep
          exact .joins id rest found runtime hfound (of_decide_eq_true hjoinable)
      · next hjoinable =>
          cases hstep
          exact .skips id rest found runtime hfound
            (of_decide_eq_false (Bool.eq_false_of_not_eq_true hjoinable))
  | join found =>
      simp only [closeStep, Option.bind_eq_bind, Option.bind_eq_some_iff] at hstep
      obtain ⟨runtime, hfound, hstep⟩ := hstep
      split at hstep
      · next hexited =>
          cases hstep
          exact .joined id rest found runtime hfound hexited
      · cases hstep
  | erase found =>
      cases hstep
      exact .erased id rest found

theorem callerStep_cases (hstep : callerStep shared caller = some (shared', caller')) :
    CallerStep shared caller shared' caller' := by
  cases caller with
  | openChannel id service =>
      simp only [callerStep, openStep, Option.some.injEq] at hstep
      split at hstep
      · cases hstep
        exact .pass _ _ rfl rfl nofun
      · split at hstep
        · cases hstep
          exact .pass _ _ rfl rfl nofun
        · split at hstep
          · cases hstep
            exact .pass _ _ rfl rfl nofun
          · next hfree =>
              cases hstep
              exact .opened id service (Option.not_isSome_iff_eq_none.mp hfree)
  | closing id phase rest => exact closeStep_cases hstep
  | shutdown =>
      cases hstep
      exact .pass _ _ rfl (closed_found _ _) (closed_opens _ _)
  | sendAsync id request =>
      simp only [callerStep] at hstep
      split at hstep
      · cases hstep
        exact .pass _ _ rfl rfl nofun
      · cases hstep
        exact .pass _ _ rfl rfl nofun
  | enqueue found request =>
      simp only [callerStep, Option.bind_eq_bind, Option.bind_eq_some_iff] at hstep
      obtain ⟨runtime, hfound, hstep⟩ := hstep
      split at hstep
      · cases hstep
        exact .pass _ _ rfl rfl nofun
      · next hopen =>
          cases hstep
          exact .enqueued found request runtime hfound (by simpa using hopen)
  | drainAsync id =>
      simp only [callerStep] at hstep
      split at hstep
      · cases hstep
        exact .pass _ _ rfl rfl nofun
      · cases hstep
        exact .pass _ _ rfl rfl nofun
  | drainWait found =>
      simp only [callerStep, Option.bind_eq_bind, Option.bind_eq_some_iff] at hstep
      obtain ⟨runtime, _, hstep⟩ := hstep
      split at hstep
      · cases hstep
        exact .pass _ _ rfl rfl nofun
      · cases hstep
  | returned result => cases hstep

theorem CallerStep.toShared (hstep : CallerStep shared caller shared' caller') :
    SharedStep shared shared' := by
  cases hstep with
  | pass => exact .same
  | opened id service hfree => exact .opened id hfree
  | enqueued found request runtime hfound hopen =>
      exact .changed found runtime _ hfound (.enqueue request hopen)
  | required => exact .same
  | drains => exact .same
  | stopped id rest found runtime hfound => exact .changed found runtime _ hfound .stop
  | joins => exact .same
  | skips => exact .same
  | joined id rest found runtime hfound hexited =>
      exact .changed found runtime _ hfound (.join hexited)
  | erased id => exact .erased id

/-- A caller's event steps the caller and sets it back. -/
theorem step_caller {index : Nat} (hstep : system.step (.caller index) = some system') :
    ∃ caller shared caller', system.callers[index]? = some caller ∧
      callerStep system.shared caller = some (shared, caller') ∧
      system' = { shared, callers := system.callers.set index caller' } := by
  simp only [System.step, Option.bind_eq_bind, Option.bind_eq_some_iff] at hstep
  obtain ⟨caller, hindex, ⟨shared', caller'⟩, hcaller, hstep⟩ := hstep
  cases hstep
  exact ⟨caller, shared', caller', hindex, hcaller, rfl⟩

/-- What an event that happens is. -/
theorem step_cases (hstep : system.step event = some system') :
    (∃ call, event = .call call ∧
      system' = { system with callers := system.callers ++ [call.start] }) ∨
    (∃ index caller shared caller', event = .caller index ∧
      system.callers[index]? = some caller ∧ CallerStep system.shared caller shared caller' ∧
      system' = { shared, callers := system.callers.set index caller' }) ∨
    ∃ found sent received runtime next, event = .worker found sent received ∧
      system.shared.runtimes[found]? = some runtime ∧
      workerStep system.shared sent received runtime = some next ∧
      system' = { system with shared := system.shared.setRuntime found next } := by
  cases event with
  | call call =>
      cases hstep
      exact .inl ⟨call, rfl, rfl⟩
  | caller index =>
      obtain ⟨caller, shared', caller', hindex, hcaller, hsystem⟩ := step_caller hstep
      exact .inr (.inl ⟨index, caller, shared', caller', rfl, hindex, callerStep_cases hcaller,
        hsystem⟩)
  | worker found sent received =>
      simp only [System.step, Option.bind_eq_bind, Option.bind_eq_some_iff] at hstep
      obtain ⟨runtime, hfound, next, hworker, hstep⟩ := hstep
      cases hstep
      exact .inr (.inr ⟨found, sent, received, runtime, next, rfl, hfound, hworker, rfl⟩)

theorem step_shared (hstep : system.step event = some system') :
    SharedStep system.shared system'.shared := by
  obtain ⟨call, rfl, rfl⟩ | ⟨index, caller, shared, caller', rfl, _, hcaller, rfl⟩ |
    ⟨found, sent, received, runtime, next, rfl, hfound, hworker, rfl⟩ := step_cases hstep
  · exact .same
  · exact hcaller.toShared
  · exact .changed found runtime next hfound (workerStep_cases hworker)

end Steps

/-! ## Sound runtimes -/

namespace ChannelRuntime

/-- What was accepted and not called back, the oldest first. -/
def pending (runtime : ChannelRuntime) : List AsyncRequest :=
  runtime.worker.request?.toList ++ runtime.queue

/-- What holds of every runtime at all times. -/
structure Sound (runtime : ChannelRuntime) : Prop where
  fifo : ∃ finished, runtime.accepted = finished ++ runtime.pending ∧
    runtime.callbacks.map (·.1) = finished.filter (·.callback)
  active : runtime.active = runtime.worker.busy
  stopping : runtime.stopping = !runtime.isOpen
  exited : runtime.worker = .exited → runtime.queue = [] ∧ runtime.stopping = true
  joined : runtime.joined ≠ 0 → runtime.worker = .exited

variable {runtime next : ChannelRuntime}

theorem sound_initial (id : UInt16) : Sound { id } where
  fifo := ⟨[], rfl, rfl⟩
  active := rfl
  stopping := rfl
  exited := nofun
  joined := fun hjoined => absurd rfl hjoined

theorem Sound.step (hsound : runtime.Sound) (hstep : RuntimeStep runtime next) : next.Sound := by
  obtain ⟨⟨finished, haccepted, hcalled⟩, hactive, hstopping, hexited, hjoined⟩ := hsound
  unfold pending at haccepted
  cases hstep with
  | enqueue request hopen =>
      refine ⟨?_, hactive, hstopping, ?_, hjoined⟩
      · refine ⟨finished, ?_, hcalled⟩
        simp only [pending, haccepted, List.append_assoc]
      · intro hworker
        have hstopped := (hexited hworker).2
        rw [hstopping, hopen] at hstopped
        exact absurd hstopped nofun
  | stop =>
      refine ⟨⟨finished, haccepted, hcalled⟩, hactive, rfl, ?_, hjoined⟩
      exact fun hworker => ⟨(hexited hworker).1, rfl⟩
  | join hworker =>
      exact ⟨⟨finished, haccepted, hcalled⟩, hactive, hstopping, hexited, fun _ => hworker⟩
  | exit hwaiting hqueue hstops =>
      refine ⟨?_, ?_, hstopping, fun _ => ⟨hqueue, hstops⟩, fun _ => rfl⟩
      · rw [hwaiting] at haccepted
        exact ⟨finished, haccepted, hcalled⟩
      · rw [hactive, hwaiting]
        rfl
  | take request queue hwaiting hqueue =>
      refine ⟨?_, rfl, hstopping, nofun, ?_⟩
      · rw [hwaiting, hqueue] at haccepted
        exact ⟨finished, haccepted, hcalled⟩
      · intro hjoins
        exact absurd (hwaiting.symm.trans (hjoined hjoins)) nofun
  | send request worker hbefore hafter =>
      have hbusy : ∀ worker : Worker, worker.request? = some request → worker.busy = true := by
        rintro (_ | _ | _ | _ | _) hrequest <;> first | rfl | cases hrequest
      refine ⟨?_, ?_, hstopping, ?_, ?_⟩
      · rw [hbefore, ← hafter] at haccepted
        exact ⟨finished, haccepted, hcalled⟩
      · rw [hactive, hbusy _ hbefore, hbusy _ hafter]
      · rintro rfl
        cases hafter
      · intro hjoins
        rw [hjoined hjoins] at hbefore
        cases hbefore
  | answer request result hanswered =>
      refine ⟨?_, ?_, hstopping, nofun, ?_⟩
      · rw [hanswered] at haccepted
        refine ⟨finished ++ [request], ?_, ?_⟩
        · rw [haccepted, List.append_assoc]
          rfl
        · cases hcallback : request.callback <;> simp [hcalled, hcallback]
      · rw [hactive, hanswered]
        rfl
      · intro hjoins
        exact absurd (hanswered.symm.trans (hjoined hjoins)) nofun
  | finish hfinishing =>
      refine ⟨?_, rfl, hstopping, nofun, ?_⟩
      · rw [hfinishing] at haccepted
        exact ⟨finished, haccepted, hcalled⟩
      · intro hjoins
        exact absurd (hfinishing.symm.trans (hjoined hjoins)) nofun

/-- A runtime with nothing pending has called back everything. -/
theorem Sound.called_of_pending (hsound : runtime.Sound) (hpending : runtime.pending = []) :
    runtime.callbacks.map (·.1) = runtime.accepted.filter (·.callback) := by
  obtain ⟨finished, haccepted, hcalled⟩ := hsound.fifo
  rw [hcalled, haccepted, hpending, List.append_nil]

theorem Sound.pending_of_drained (hsound : runtime.Sound) (hdrained : runtime.drained = true) :
    runtime.pending = [] := by
  have hidle : runtime.queue = [] ∧ runtime.worker.busy = false := by
    simpa [drained, hsound.active] using hdrained
  rw [pending, hidle.1]
  cases hworker : runtime.worker with
  | waiting => rfl
  | exited => rfl
  | finishing => rfl
  | sending request phase =>
      rw [hworker] at hidle
      exact absurd hidle.2 nofun
  | answered request result =>
      rw [hworker] at hidle
      exact absurd hidle.2 nofun

theorem Sound.pending_of_exited (hsound : runtime.Sound) (hexited : runtime.worker = .exited) :
    runtime.pending = [] := by
  rw [pending, (hsound.exited hexited).1, hexited]
  rfl

end ChannelRuntime

/-! ## Every reachable state -/

section Reachable

variable {shared shared' : Shared} {system system' : System} {event : SystemEvent} {found : Nat}
  {id : UInt16}

/-- A runtime is never forgotten, and its fixed parts never change. -/
theorem SharedStep.forward (hstep : SharedStep shared shared') {runtime : ChannelRuntime}
    (hfound : shared.runtimes[found]? = some runtime) :
    ∃ next, shared'.runtimes[found]? = some next ∧ (next = runtime ∨ RuntimeStep runtime next) := by
  cases hstep with
  | same => exact ⟨runtime, hfound, .inl rfl⟩
  | opened id hfree =>
      have hinside := (List.getElem?_eq_some_iff.mp hfound).1
      exact ⟨runtime, by rw [List.getElem?_append_left hinside, hfound], .inl rfl⟩
  | erased id => exact ⟨runtime, hfound, .inl rfl⟩
  | changed other before next hother hruntime =>
      by_cases heq : other = found
      · subst heq
        obtain rfl : before = runtime := Option.some.inj (hother.symm.trans hfound)
        have hinside := (List.getElem?_eq_some_iff.mp hfound).1
        exact ⟨next, List.getElem?_set_self hinside, .inr hruntime⟩
      · exact ⟨runtime, (List.getElem?_set_ne heq).trans hfound, .inl rfl⟩

/-- Every runtime was there before or was just made. -/
theorem SharedStep.back (hstep : SharedStep shared shared') {next : ChannelRuntime}
    (hfound : shared'.runtimes[found]? = some next) :
    (∃ runtime, shared.runtimes[found]? = some runtime ∧
      (next = runtime ∨ RuntimeStep runtime next)) ∨
    (shared.runtimes[found]? = none ∧ shared.channels next.id = none ∧
      shared'.channels next.id = some found ∧ next = { id := next.id }) := by
  cases hbefore : shared.runtimes[found]? with
  | some runtime =>
      obtain ⟨next', hnext', hruntime⟩ := hstep.forward hbefore
      obtain rfl : next' = next := Option.some.inj (hnext'.symm.trans hfound)
      exact .inl ⟨runtime, rfl, hruntime⟩
  | none =>
      cases hstep with
      | same => exact absurd (hbefore.symm.trans hfound) nofun
      | erased id => exact absurd (hbefore.symm.trans hfound) nofun
      | opened id hfree =>
          have hlength := List.getElem?_eq_none_iff.mp hbefore
          have hinside := (List.getElem?_eq_some_iff.mp hfound).1
          obtain rfl : found = shared.runtimes.length := by
            simp only [List.length_append, List.length_singleton] at hinside
            omega
          rw [List.getElem?_append_right (le_refl _), Nat.sub_self] at hfound
          obtain rfl : _ = next := Option.some.inj hfound
          exact .inr ⟨rfl, hfree, Function.update_self .., rfl⟩
      | changed other before next' hother hruntime =>
          have hinside := (List.getElem?_eq_some_iff.mp hfound).1
          have houtside := List.getElem?_eq_none_iff.mp hbefore
          rw [Shared.setRuntime, List.length_set] at hinside
          omega

theorem RuntimeStep.id_eq {runtime next : ChannelRuntime} (hstep : RuntimeStep runtime next) :
    next.id = runtime.id := by
  cases hstep <;> rfl

theorem RuntimeStep.stopping {runtime next : ChannelRuntime} (hstep : RuntimeStep runtime next)
    (hstopping : runtime.stopping = true) : next.stopping = true := by
  cases hstep with
  | stop => rfl
  | _ => exact hstopping

/-- A worker that has exited stays so. -/
theorem RuntimeStep.exited {runtime next : ChannelRuntime} (hstep : RuntimeStep runtime next)
    (hexited : runtime.worker = .exited) : next.worker = .exited := by
  cases hstep with
  | enqueue => exact hexited
  | stop => exact hexited
  | join => exact hexited
  | exit => rfl
  | take request queue hwaiting => exact absurd (hwaiting.symm.trans hexited) nofun
  | send request worker hbefore =>
      rw [hexited] at hbefore
      exact absurd hbefore nofun
  | answer request result hanswered => exact absurd (hanswered.symm.trans hexited) nofun
  | finish hfinishing => exact absurd (hfinishing.symm.trans hexited) nofun

/-- What was accepted or called back stays on record. -/
theorem RuntimeStep.records {runtime next : ChannelRuntime} (hstep : RuntimeStep runtime next) :
    runtime.accepted <+: next.accepted ∧ runtime.callbacks <+: next.callbacks := by
  cases hstep with
  | enqueue request => exact ⟨List.prefix_append _ _, List.prefix_refl _⟩
  | answer request result =>
      refine ⟨List.prefix_refl _, ?_⟩
      dsimp only
      split
      · exact List.prefix_append _ _
      · exact List.prefix_refl _
  | _ => exact ⟨List.prefix_refl _, List.prefix_refl _⟩

theorem SharedStep.registered (hstep : SharedStep shared shared')
    (hchannel : shared'.channels id = some found) :
    shared.channels id = some found ∨ shared'.runtimes[found]? = some { id } := by
  cases hstep with
  | same => exact .inl hchannel
  | opened other hfree =>
      dsimp only at hchannel
      by_cases hother : id = other
      · subst hother
        rw [Function.update_self] at hchannel
        obtain rfl : _ = found := Option.some.inj hchannel
        exact .inr (by simp)
      · rw [Function.update_of_ne hother] at hchannel
        exact .inl hchannel
  | erased other =>
      dsimp only at hchannel
      by_cases hother : id = other
      · subst hother
        rw [Function.update_self] at hchannel
        exact absurd hchannel nofun
      · rw [Function.update_of_ne hother] at hchannel
        exact .inl hchannel
  | changed => exact .inl hchannel

/-- What holds of every run of the manager. -/
structure Consistent (system : System) : Prop where
  sound : ∀ (found : Nat) (runtime : ChannelRuntime),
    system.shared.runtimes[found]? = some runtime → runtime.Sound
  registered : ∀ id found, system.shared.channels id = some found →
    ∃ runtime, system.shared.runtimes[found]? = some runtime ∧ runtime.id = id
  holds : ∀ id phase rest found, .closing id phase rest ∈ system.callers →
    phase.found? = some found → ∃ runtime, system.shared.runtimes[found]? = some runtime ∧
      runtime.id = id ∧ (phase.stopped = true → runtime.stopping = true)

theorem consistent_initial : Consistent {} where
  sound := by
    intro found runtime hfound
    exact absurd hfound (by simp)
  registered := nofun
  holds := nofun

/-- A looked-up runtime stays one of its id, and told to stop once it was. -/
theorem SharedStep.held (hstep : SharedStep shared shared')
    {stopped : Bool}
    (hheld : ∃ runtime, shared.runtimes[found]? = some runtime ∧ runtime.id = id ∧
      (stopped = true → runtime.stopping = true)) :
    ∃ runtime, shared'.runtimes[found]? = some runtime ∧ runtime.id = id ∧
      (stopped = true → runtime.stopping = true) := by
  obtain ⟨runtime, hfound, hid, hstopping⟩ := hheld
  obtain ⟨next, hnext, rfl | hruntime⟩ := hstep.forward hfound
  · exact ⟨next, hnext, hid, hstopping⟩
  · exact ⟨next, hnext, hruntime.id_eq.trans hid, fun hstopped =>
      hruntime.stopping (hstopping hstopped)⟩

theorem Consistent.step (hconsistent : Consistent system)
    (hstep : system.step event = some system') : Consistent system' := by
  obtain ⟨hsound, hregistered, hholds⟩ := hconsistent
  have hshared := step_shared hstep
  have hkept : ∀ id phase rest found, .closing id phase rest ∈ system.callers →
      phase.found? = some found → ∃ runtime, system'.shared.runtimes[found]? = some runtime ∧
        runtime.id = id ∧ (phase.stopped = true → runtime.stopping = true) :=
    fun id phase rest found hcaller hfound => hshared.held (hholds id phase rest found hcaller hfound)
  refine ⟨?_, ?_, ?_⟩
  · intro found next hnext
    obtain ⟨runtime, hfound, rfl | hruntime⟩ | ⟨_, _, _, hfresh⟩ := hshared.back hnext
    · exact hsound found next hfound
    · exact (hsound found runtime hfound).step hruntime
    · rw [hfresh]
      exact ChannelRuntime.sound_initial _
  · intro id found hchannel
    obtain hbefore | hfresh := hshared.registered hchannel
    · obtain ⟨runtime, hfound, hid⟩ := hregistered id found hbefore
      have hheld : ∃ runtime, system.shared.runtimes[found]? = some runtime ∧ runtime.id = id ∧
          (false = true → runtime.stopping = true) := ⟨runtime, hfound, hid, nofun⟩
      obtain ⟨next, hnext, hid', _⟩ := hshared.held hheld
      exact ⟨next, hnext, hid'⟩
    · exact ⟨_, hfresh, rfl⟩
  · intro id phase rest found hmember hfound
    obtain ⟨call, rfl, rfl⟩ | ⟨index, before, shared, after, rfl, hindex, hbefore, rfl⟩ |
      ⟨_, _, _, _, _, rfl, _, _, rfl⟩ := step_cases hstep
    · obtain hcaller | hcaller := List.mem_append.mp hmember
      · exact hkept id phase rest found hcaller hfound
      · rw [List.mem_singleton] at hcaller
        cases call <;> cases hcaller
        cases hfound
    · have hmem := List.mem_of_getElem? hindex
      obtain hcaller | hcaller := List.mem_or_eq_of_mem_set hmember
      · exact hkept id phase rest found hcaller hfound
      · cases hbefore with
        | pass _ _ _ hafter _ =>
            rw [← hcaller, Caller.found?, hfound] at hafter
            cases hafter
        | opened => cases hcaller
        | enqueued => cases hcaller
        | required id' rest' found' hchannel =>
            cases hcaller
            obtain rfl : found' = found := Option.some.inj hfound
            obtain ⟨runtime, hruntime, hid⟩ := hregistered id found' hchannel
            exact ⟨runtime, hruntime, hid, nofun⟩
        | drains id' rest' phase' phase'' hsame _ hafter =>
            cases hcaller
            obtain ⟨runtime, hruntime, hid, _⟩ := hkept id phase' rest found hmem (hsame ▸ hfound)
            exact ⟨runtime, hruntime, hid, by rw [hafter]; exact nofun⟩
        | stopped id' rest' found' runtime hruntime =>
            cases hcaller
            obtain rfl : found' = found := Option.some.inj hfound
            obtain ⟨runtime', hruntime', hid, _⟩ := hholds id (.stop found') rest found' hmem rfl
            obtain rfl : runtime = runtime' := Option.some.inj (hruntime.symm.trans hruntime')
            exact ⟨_, List.getElem?_set_self (List.getElem?_eq_some_iff.mp hruntime).1, hid, fun _ => rfl⟩
        | joins id' rest' found' runtime hruntime =>
            cases hcaller
            exact hkept id (.joinable found') rest found hmem hfound
        | skips id' rest' found' runtime hruntime =>
            cases hcaller
            exact hkept id (.joinable found') rest found hmem hfound
        | joined id' rest' found' runtime hruntime =>
            cases hcaller
            exact hkept id (.join found') rest found hmem hfound
        | erased id' rest' found' =>
            have hnone := closed_found (.ok ()) rest'
            rw [← hcaller, Caller.found?, hfound] at hnone
            cases hnone
    · exact hkept id phase rest found hmember hfound

end Reachable

end AudioStudio.Transport
