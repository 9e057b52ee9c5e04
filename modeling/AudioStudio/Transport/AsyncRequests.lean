import AudioStudio.Transport.RuntimeSteps

/-!
# Asynchronous requests

Every order of `sendAsync`, `drainAsync` and `closeChannel` on a channel that is not opened
again: its worker calls back what was enqueued, in order, and those who wait for the worker
wait for all that was enqueued before.
-/

namespace AudioStudio.Transport

open AudioStudio.Common
open AudioStudio.Interleaving
open Wire

/-- The manager right after it has opened a channel. -/
def opened (id : UInt16) : System where
  shared := { channels := Function.update (fun _ => none) id (some 0), runtimes := [{ id }] }

namespace System

/-- What the opened channel has accepted. -/
def accepted (system : System) : List AsyncRequest :=
  (system.shared.runtimes[0]?).elim [] (·.accepted)

/-- The accepted requests with a callback. -/
def requests (system : System) : List AsyncRequest := system.accepted.filter (·.callback)

/-- The requests whose callback it has invoked. -/
def called (system : System) : List AsyncRequest :=
  (system.shared.runtimes[0]?).elim [] fun runtime => runtime.callbacks.map (·.1)

/-- The request with a callback that an event enqueues as its `sendAsync` returns success. -/
def sent (before after : System) : SystemEvent → List AsyncRequest
  | .caller index =>
      match before.callers[index]?, after.callers[index]? with
      | some (.enqueue 0 request), some (.returned (.ok ())) => [request].filter (·.callback)
      | _, _ => []
  | _ => []

end System

/-- What holds of the opened channel at all times. -/
structure Served (id : UInt16) (system : System) : Prop where
  consistent : Consistent system
  present : ∃ runtime, system.shared.runtimes[0]? = some runtime
  channel : ∀ found, system.shared.channels id = some found → found = 0
  removed : system.shared.channels id = none → ∀ runtime : ChannelRuntime,
    system.shared.runtimes[0]? = some runtime → runtime.worker = .exited
  finds : ∀ phase rest found, .closing id phase rest ∈ system.callers →
    phase.found? = some found → found = 0
  erases : ∀ rest found, .closing id (.erase found) rest ∈ system.callers →
    ∀ runtime : ChannelRuntime, system.shared.runtimes[0]? = some runtime →
      runtime.worker = .exited
  opens : ∀ service, .openChannel id service ∉ system.callers

section Steps

variable {id : UInt16} {system system' : System} {event : SystemEvent} {found : Nat}

variable {shared : Shared}

/-- The opened channel's runtime stays, and so does the exit of its worker. -/
theorem SharedStep.exited {shared' : Shared} (hstep : SharedStep shared shared')
    (hpresent : ∃ runtime, shared.runtimes[0]? = some runtime)
    (hexited : ∀ runtime : ChannelRuntime, shared.runtimes[0]? = some runtime →
      runtime.worker = .exited) (next : ChannelRuntime)
    (hnext : shared'.runtimes[0]? = some next) : next.worker = .exited := by
  obtain ⟨runtime, hruntime⟩ := hpresent
  obtain ⟨next', hnext', hsame⟩ := hstep.forward hruntime
  obtain rfl : next' = next := Option.some.inj (hnext'.symm.trans hnext)
  obtain rfl | hstep := hsame
  · exact hexited _ hruntime
  · exact hstep.exited (hexited _ hruntime)

section Callers

variable {shared' : Shared} {caller caller' : Caller}

/-- Whoever closes the opened channel has found the opened runtime. -/
theorem Served.caller_found (hserved : Served id system) (hmem : caller ∈ system.callers)
    (hstep : CallerStep system.shared caller shared' caller') (found : Nat)
    (hfound : caller'.found? = some (id, found)) : found = 0 := by
  cases hstep with
  | pass _ _ _ hafter => cases hafter.symm.trans hfound
  | required other rest found' hregistered =>
      cases hfound
      exact hserved.channel found hregistered
  | drains other rest phase phase' hsame =>
      simp only [Caller.found?, hsame, Option.map_eq_some_iff, Prod.mk.injEq] at hfound
      obtain ⟨found', hphase, rfl, rfl⟩ := hfound
      exact hserved.finds phase rest found' hmem hphase
  | stopped other rest found' =>
      cases hfound
      exact hserved.finds _ rest found hmem rfl
  | joins other rest found' =>
      cases hfound
      exact hserved.finds _ rest found hmem rfl
  | skips other rest found' =>
      cases hfound
      exact hserved.finds _ rest found hmem rfl
  | joined other rest found' =>
      cases hfound
      exact hserved.finds _ rest found hmem rfl
  | erased other rest => cases (closed_found _ rest).symm.trans hfound
  | _ => cases hfound

/-- A thread comes to the erasure of the opened channel past the exit of the worker. -/
theorem Served.caller_erases (hserved : Served id system) (hmem : caller ∈ system.callers)
    {rest : Option (List UInt16)}
    (hstep : CallerStep system.shared caller shared' (.closing id (.erase found) rest))
    (runtime : ChannelRuntime) (hruntime : system.shared.runtimes[0]? = some runtime) :
    runtime.worker = .exited := by
  obtain rfl := hserved.caller_found hmem hstep found rfl
  generalize hafter : Caller.closing id (.erase 0) rest = after at hstep
  cases hstep with
  | pass _ _ _ hnone =>
      rw [← hafter] at hnone
      exact absurd hnone nofun
  | drains other rest' phase phase' _ _ hunstopped =>
      cases hafter
      exact absurd hunstopped nofun
  | skips other rest' found' runtime' hruntime' hjoined =>
      cases hafter
      obtain rfl : runtime' = runtime := Option.some.inj (hruntime'.symm.trans hruntime)
      exact (hserved.consistent.sound 0 runtime' hruntime).joined hjoined
  | joined other rest' found' runtime' hruntime' hexits =>
      cases hafter
      obtain rfl : runtime' = runtime := Option.some.inj (hruntime'.symm.trans hruntime)
      exact hexits
  | erased other rest' =>
      have hnone := closed_found (.ok ()) rest'
      rw [← hafter] at hnone
      exact absurd hnone nofun
  | _ => exact absurd hafter nofun

/-- No caller comes to open the channel that has not called for it. -/
theorem CallerStep.opens (hstep : CallerStep shared caller shared' caller') (service : String) :
    caller' ≠ .openChannel id service := by
  cases hstep with
  | pass _ _ _ _ hnever => exact hnever id service
  | erased other rest => exact closed_opens _ rest id service
  | _ => exact nofun

/-- The opened channel stays registered until it is erased, past the exit of its worker. -/
theorem Served.caller_table (hserved : Served id system) (hmem : caller ∈ system.callers)
    (hstep : CallerStep system.shared caller shared' caller') :
    shared'.channels id = system.shared.channels id ∨
      (shared'.channels id = none ∧ ∀ runtime : ChannelRuntime,
        system.shared.runtimes[0]? = some runtime → runtime.worker = .exited) := by
  cases hstep with
  | opened other service =>
      by_cases hother : id = other
      · subst hother
        exact absurd hmem (hserved.opens service)
      · exact .inl (Function.update_of_ne hother _ _)
  | erased other rest found =>
      by_cases hother : id = other
      · subst hother
        exact .inr ⟨Function.update_self .., hserved.erases rest found hmem⟩
      · exact .inl (Function.update_of_ne hother _ _)
  | _ => exact .inl rfl

end Callers

/-- A new call of anything but an `openChannel` of the id. -/
theorem Served.call (hserved : Served id system) {call : ManagerCall}
    (hcall : ∀ service, call ≠ .openChannel id service) :
    Served id { system with callers := system.callers ++ [call.start] } := by
  obtain ⟨hconsistent, hpresent, hchannel, hremoved, hfinds, herases, hopens⟩ := hserved
  have hstart : call.start.found? = none := by
    cases call <;> rfl
  have hstep : system.step (.call call) =
      some { system with callers := system.callers ++ [call.start] } := rfl
  refine ⟨hconsistent.step hstep, hpresent, hchannel, hremoved, ?_, ?_, ?_⟩
  · intro phase rest found hmem hfound
    obtain hold | hnew := List.mem_append.mp hmem
    · exact hfinds phase rest found hold hfound
    · rw [← List.mem_singleton.mp hnew, Caller.found?, hfound] at hstart
      cases hstart
  · intro rest found hmem
    obtain hold | hnew := List.mem_append.mp hmem
    · exact herases rest found hold
    · rw [← List.mem_singleton.mp hnew] at hstart
      cases hstart
  · intro service hmem
    obtain hold | hnew := List.mem_append.mp hmem
    · exact hopens service hold
    · cases call with
      | openChannel other service' =>
          cases List.mem_singleton.mp hnew
          exact hcall service rfl
      | _ => cases List.mem_singleton.mp hnew

theorem Served.step (hserved : Served id system)
    (hevent : ∀ service, event ≠ .call (.openChannel id service))
    (hstep : system.step event = some system') : Served id system' := by
  have hconsistent := hserved.consistent.step hstep
  have hshared := step_shared hstep
  have hpresent : ∃ runtime, system'.shared.runtimes[0]? = some runtime := by
    obtain ⟨runtime, hruntime⟩ := hserved.present
    obtain ⟨next, hnext, _⟩ := hshared.forward hruntime
    exact ⟨next, hnext⟩
  have hexited := hshared.exited hserved.present
  obtain ⟨call, rfl, rfl⟩ | ⟨index, caller, shared, caller', rfl, hindex, hcaller, rfl⟩ |
    ⟨found, _, _, runtime, next, rfl, hfound, hworker, rfl⟩ := step_cases hstep
  · exact hserved.call fun service heq => hevent service (congrArg SystemEvent.call heq)
  · have hmem := List.mem_of_getElem? hindex
    have htable := hserved.caller_table hmem hcaller
    refine ⟨hconsistent, hpresent, ?_, ?_, ?_, ?_, ?_⟩
    · intro found hregistered
      obtain hsame | ⟨hnone, _⟩ := htable
      · exact hserved.channel found (hsame.symm.trans hregistered)
      · exact absurd (hnone.symm.trans hregistered) nofun
    · intro hnone
      obtain hsame | ⟨_, hexits⟩ := htable
      · exact hexited (hserved.removed (hsame.symm.trans hnone))
      · exact hexited hexits
    · intro phase rest found hmem' hfound
      obtain hold | rfl := List.mem_or_eq_of_mem_set hmem'
      · exact hserved.finds phase rest found hold hfound
      · exact hserved.caller_found hmem hcaller found (by rw [Caller.found?, hfound]; rfl)
    · intro rest found hmem'
      obtain hold | rfl := List.mem_or_eq_of_mem_set hmem'
      · exact hexited (hserved.erases rest found hold)
      · exact hexited (hserved.caller_erases hmem hcaller)
    · intro service hmem'
      obtain hold | heq := List.mem_or_eq_of_mem_set hmem'
      · exact hserved.opens service hold
      · exact hcaller.opens service heq.symm
  · exact ⟨hconsistent, hpresent, hserved.channel, fun hnone => hexited (hserved.removed hnone),
      hserved.finds, fun rest found hmem => hexited (hserved.erases rest found hmem),
      hserved.opens⟩

/-! ## Records -/

variable {runtime : ChannelRuntime}

theorem Served.called_of_pending (hserved : Served id system)
    (hruntime : system.shared.runtimes[0]? = some runtime) (hpending : runtime.pending = []) :
    system.called = system.requests := by
  simp only [System.called, System.requests, System.accepted, hruntime, Option.elim_some]
  exact (hserved.consistent.sound 0 runtime hruntime).called_of_pending hpending

/-- A worker that has exited has called back everything. -/
theorem Served.called_of_exited (hserved : Served id system)
    (hexited : ∀ runtime : ChannelRuntime, system.shared.runtimes[0]? = some runtime →
      runtime.worker = .exited) : system.called = system.requests := by
  obtain ⟨runtime, hruntime⟩ := hserved.present
  exact hserved.called_of_pending hruntime
    ((hserved.consistent.sound 0 runtime hruntime).pending_of_exited (hexited runtime hruntime))

theorem Served.records (hserved : Served id system) (hstep : system.step event = some system') :
    system.accepted <+: system'.accepted ∧ system.called <+: system'.called := by
  obtain ⟨runtime, hruntime⟩ := hserved.present
  obtain ⟨next, hnext, hsame⟩ := (step_shared hstep).forward hruntime
  simp only [System.called, System.accepted, hruntime, hnext, Option.elim_some]
  obtain rfl | hstep := hsame
  · exact ⟨List.prefix_refl _, List.prefix_refl _⟩
  · exact ⟨hstep.records.1, hstep.records.2.map _⟩

/-! ## Waiting for the worker -/

/-- Where a thread stands that waits for the worker, which has called back what was wanted
when the thread returns. -/
inductive Awaits (id : UInt16) (wanted : List AsyncRequest) (system : System) : Caller → Prop where
  | draining : Awaits id wanted system (.drainAsync id)
  | waiting : Awaits id wanted system (.drainWait 0)
  | closing (phase : ClosePhase) : Awaits id wanted system (.closing id phase none)
  | returned (result : Result Unit) (hcalled : wanted <+: system.called) :
      Awaits id wanted system (.returned result)

/-- A `closeChannel` goes on until it has erased. -/
theorem closeStep_goes_on {shared' : Shared} {phase : ClosePhase} {caller' : Caller}
    {rest : Option (List UInt16)} (hstep : closeStep shared id rest phase = some (shared', caller'))
    (hfound : phase.found? = some found) (herase : phase ≠ .erase found) :
    ∃ phase', caller' = .closing id phase' rest := by
  cases closeStep_cases hstep with
  | pass _ _ hbefore =>
      rw [Caller.found?, hfound] at hbefore
      cases hbefore
  | erased _ _ found' =>
      cases hfound
      exact absurd rfl herase
  | _ => exact ⟨_, rfl⟩

/-- The thread's own step. -/
theorem Awaits.callerStep {wanted : List AsyncRequest} {caller caller' : Caller}
    {shared' : Shared} (hawaits : Awaits id wanted system caller) (hserved : Served id system)
    (hmem : caller ∈ system.callers) (hwanted : wanted <+: system.requests)
    (hstep : callerStep system.shared caller = some (shared', caller')) :
    Awaits id wanted system caller' := by
  have hcalled : (∀ runtime : ChannelRuntime, system.shared.runtimes[0]? = some runtime →
      runtime.worker = .exited) → wanted <+: system.called :=
    fun hexited => hserved.called_of_exited hexited ▸ hwanted
  cases hawaits with
  | draining =>
      cases hchannel : system.shared.channels id with
      | none =>
          simp only [Transport.callerStep, Shared.requireChannel, hchannel] at hstep
          cases hstep
          exact .returned _ (hcalled (hserved.removed hchannel))
      | some found =>
          obtain rfl := hserved.channel found hchannel
          simp only [Transport.callerStep, Shared.requireChannel, hchannel] at hstep
          cases hstep
          exact .waiting
  | waiting =>
      simp only [Transport.callerStep, Option.bind_eq_bind, Option.bind_eq_some_iff] at hstep
      obtain ⟨runtime, hruntime, hstep⟩ := hstep
      split at hstep
      · next hdrained =>
          cases hstep
          have hpending := (hserved.consistent.sound 0 runtime hruntime).pending_of_drained hdrained
          exact .returned _ (hserved.called_of_pending hruntime hpending ▸ hwanted)
      · cases hstep
  | closing phase =>
      have hclose := hstep
      simp only [Transport.callerStep] at hclose
      cases phase with
      | require =>
          cases hchannel : system.shared.channels id with
          | none =>
              simp only [closeStep, Shared.requireChannel, hchannel] at hclose
              cases hclose
              exact .returned _ (hcalled (hserved.removed hchannel))
          | some found =>
              simp only [closeStep, Shared.requireChannel, hchannel] at hclose
              cases hclose
              exact .closing _
      | erase found =>
          cases hclose
          exact .returned _ (hcalled (hserved.erases none found hmem))
      | _ =>
          obtain ⟨phase', rfl⟩ := closeStep_goes_on hclose rfl (by rintro ⟨⟩)
          exact .closing phase'
  | returned result hcalled' => cases hstep

theorem Awaits.mono {wanted : List AsyncRequest} {caller : Caller}
    (hawaits : Awaits id wanted system caller) (hcalled : system.called <+: system'.called) :
    Awaits id wanted system' caller := by
  cases hawaits with
  | draining => exact .draining
  | waiting => exact .waiting
  | closing phase => exact .closing phase
  | returned result hwanted => exact .returned result (hwanted.trans hcalled)

/-- Any step, its own or not, leaves the thread waiting or returned when it should. -/
theorem Awaits.step {wanted : List AsyncRequest} {caller : Caller} {index : Nat}
    (hawaits : Awaits id wanted system caller) (hserved : Served id system)
    (hindex : system.callers[index]? = some caller) (hwanted : wanted <+: system.requests)
    (hstep : system.step event = some system') :
    ∃ caller', system'.callers[index]? = some caller' ∧ Awaits id wanted system' caller' := by
  have hinside := (List.getElem?_eq_some_iff.mp hindex).1
  have hcalled := (hserved.records hstep).2
  cases event with
  | call call =>
      cases hstep
      exact ⟨caller, (List.getElem?_append_left hinside).trans hindex, hawaits.mono hcalled⟩
  | worker found sent received =>
      obtain ⟨_, hevent, _⟩ | ⟨_, _, _, _, hevent, _⟩ | ⟨_, _, _, _, _, hevent, _, _, rfl⟩ :=
        step_cases hstep
      · exact absurd hevent nofun
      · exact absurd hevent nofun
      · exact ⟨caller, hindex, hawaits.mono hcalled⟩
  | caller other =>
      obtain ⟨before, shared, after, hother, hcaller, rfl⟩ := step_caller hstep
      by_cases heq : other = index
      · subst heq
        obtain rfl : before = caller := Option.some.inj (hother.symm.trans hindex)
        have hnext := hawaits.callerStep hserved (List.mem_of_getElem? hindex) hwanted hcaller
        exact ⟨after, List.getElem?_set_self hinside, hnext.mono hcalled⟩
      · exact ⟨caller, (List.getElem?_set_ne heq).trans hindex, hawaits.mono hcalled⟩

/-! ## Progress of the worker -/

/-- How many steps a worker has to its next wait, at most. -/
def SendPhase.rank : SendPhase → Nat
  | .require .sendSync => 11
  | .check .sendSync _ => 10
  | .sendPacket => 9
  | .require .recordTx => 8
  | .check .recordTx _ => 7
  | .receivePacket => 6
  | .require (.recordRx _) => 5
  | .check (.recordRx _) _ => 4

def Worker.rank : Worker → Nat
  | .finishing => 13
  | .waiting => 12
  | .sending _ phase => phase.rank
  | .answered _ _ => 3
  | .exited => 0

/-- The steps until all but the last of the first `count` accepted requests are called back. -/
def ChannelRuntime.rank (count : Nat) (runtime : ChannelRuntime) : Nat :=
  (count + runtime.pending.length - runtime.accepted.length) * 16 + runtime.worker.rank

/-- Every runtime that a worker is about to check is there. -/
def Looks (system : System) : Prop :=
  ∀ (found : Nat) (runtime : ChannelRuntime), system.shared.runtimes[found]? = some runtime →
    ∀ request look other, runtime.worker = .sending request (.check look other) →
      other < system.shared.runtimes.length

variable {phase : SendPhase} {sent : Result Unit} {received : Result TransportFrame}
  {request : AsyncRequest}

/-- The rank of the opened channel's runtime. -/
def System.rank (count : Nat) (system : System) : Nat :=
  (system.shared.runtimes[0]?).elim 0 (·.rank count)

variable {count : Nat}

/-- A caller leaves a worker where it stands, and nothing of what was accepted before is
pending that was not. -/
theorem CallerStep.quiet {shared' : Shared} {caller caller' : Caller}
    (hstep : CallerStep shared caller shared' caller')
    (hruntime : shared.runtimes[found]? = some runtime) :
    ∃ next, shared'.runtimes[found]? = some next ∧ next.worker = runtime.worker ∧
      ∀ count, next.rank count = runtime.rank count := by
  have hinside := (List.getElem?_eq_some_iff.mp hruntime).1
  have hsame : runtime.worker = runtime.worker ∧
      ∀ count, runtime.rank count = runtime.rank count := ⟨rfl, fun _ => rfl⟩
  cases hstep with
  | opened id service =>
      exact ⟨runtime, (List.getElem?_append_left hinside).trans hruntime, hsame⟩
  | enqueued other request before hbefore =>
      refine Shared.setRuntime_holds hruntime hbefore hsame fun _ hquiet => ⟨hquiet.1, ?_⟩
      intro count
      rw [← hquiet.2 count]
      simp only [ChannelRuntime.rank, ChannelRuntime.pending, List.length_append,
        List.length_singleton]
      omega
  | stopped id rest other before hbefore =>
      exact Shared.setRuntime_holds hruntime hbefore hsame fun _ hquiet => hquiet
  | joined id rest other before hbefore =>
      exact Shared.setRuntime_holds hruntime hbefore hsame fun _ hquiet => hquiet
  | _ => exact ⟨runtime, hruntime, hsame⟩

theorem SharedStep.length_le {shared' : Shared} (hstep : SharedStep shared shared') :
    shared.runtimes.length ≤ shared'.runtimes.length := by
  cases hstep with
  | opened => simp
  | changed => simp [Shared.setRuntime]
  | _ => exact le_refl _

theorem sendStep_check {request' : AsyncRequest} {look : Look}
    (hstep : sendStep shared id sent received request phase =
      some (.sending request' (.check look found))) : shared.channels id = some found := by
  cases phase with
  | require look' =>
      cases hchannel : shared.channels id with
      | none =>
          simp only [sendStep, Shared.requireChannel, hchannel] at hstep
          cases hstep
      | some found' =>
          simp only [sendStep, Shared.requireChannel, hchannel] at hstep
          cases hstep
          rfl
  | check look' found' =>
      simp only [sendStep, Option.bind_eq_bind, Option.bind_eq_some_iff] at hstep
      obtain ⟨runtime, _, hstep⟩ := hstep
      split at hstep
      · cases hstep
      · cases look' <;> cases hstep
  | sendPacket => cases sent <;> cases hstep
  | receivePacket => cases received <;> cases hstep

theorem workerStep_check {next : ChannelRuntime} {look : Look}
    (hstep : workerStep shared sent received runtime = some next)
    (hworker : next.worker = .sending request (.check look found)) :
    shared.channels runtime.id = some found := by
  unfold workerStep at hstep
  split at hstep
  · split at hstep
    · simp only [Option.ite_none_right_eq_some, Option.some.injEq] at hstep
      rw [← hstep.2] at hworker
      exact absurd hworker nofun
    · rw [← Option.some.inj hstep] at hworker
      exact absurd hworker nofun
  · simp only [Option.bind_eq_bind, Option.bind_eq_some_iff, Option.some.injEq] at hstep
    obtain ⟨worker, hsend, rfl⟩ := hstep
    obtain rfl : worker = _ := hworker
    exact sendStep_check hsend
  · rw [← Option.some.inj hstep] at hworker
    exact absurd hworker nofun
  · rw [← Option.some.inj hstep] at hworker
    exact absurd hworker nofun
  · exact absurd hstep nofun

theorem Looks.step (hlooks : Looks system) (hconsistent : Consistent system)
    (hstep : system.step event = some system') : Looks system' := by
  intro found next hnext request look other hworker
  have hlength := (step_shared hstep).length_le
  have hold : ∀ runtime : ChannelRuntime, system.shared.runtimes[found]? = some runtime →
      next.worker = runtime.worker → other < system'.shared.runtimes.length :=
    fun runtime hruntime hsame =>
      (hlooks found runtime hruntime request look other (hsame ▸ hworker)).trans_le hlength
  obtain ⟨runtime, hruntime, _⟩ | ⟨_, _, _, hfresh⟩ := (step_shared hstep).back hnext
  · obtain ⟨call, rfl, rfl⟩ | ⟨index, caller, shared, caller', rfl, _, hcaller, rfl⟩ |
      ⟨found', _, _, runtime', next', rfl, hruntime', hstep', rfl⟩ := step_cases hstep
    · exact hold next hnext rfl
    · obtain ⟨next', hnext', hsame, _⟩ := hcaller.quiet hruntime
      obtain rfl : next' = next := Option.some.inj (hnext'.symm.trans hnext)
      exact hold runtime hruntime hsame
    · by_cases heq : found' = found
      · subst heq
        have hinside := (List.getElem?_eq_some_iff.mp hruntime').1
        rw [Shared.setRuntime, List.getElem?_set_self hinside] at hnext
        obtain rfl := Option.some.inj hnext
        obtain ⟨_, hother, _⟩ := hconsistent.registered _ other (workerStep_check hstep' hworker)
        exact (List.getElem?_eq_some_iff.mp hother).1.trans_le hlength
      · rw [Shared.setRuntime, List.getElem?_set_ne heq] at hnext
        exact hold next hnext rfl
  · rw [hfresh] at hworker
    cases hworker

/-- A caller that does not enqueue leaves what was accepted. -/
theorem CallerStep.accepted {shared' : Shared} {caller caller' : Caller}
    (hstep : CallerStep shared caller shared' caller')
    (hcaller : ∀ request, caller ≠ .enqueue 0 request) (runtime : ChannelRuntime)
    (hruntime : shared.runtimes[0]? = some runtime) :
    ∃ next, shared'.runtimes[0]? = some next ∧ next.accepted = runtime.accepted := by
  have hinside := (List.getElem?_eq_some_iff.mp hruntime).1
  have hsame : runtime.accepted = runtime.accepted := rfl
  cases hstep with
  | opened id service =>
      exact ⟨runtime, (List.getElem?_append_left hinside).trans hruntime, hsame⟩
  | enqueued other request before hbefore =>
      refine Shared.setRuntime_holds hruntime hbefore hsame fun heq _ => ?_
      rw [heq] at hcaller
      exact absurd rfl (hcaller request)
  | stopped id rest other before hbefore =>
      exact Shared.setRuntime_holds hruntime hbefore hsame fun _ haccepted => haccepted
  | joined id rest other before hbefore =>
      exact Shared.setRuntime_holds hruntime hbefore hsame fun _ haccepted => haccepted
  | _ => exact ⟨runtime, hruntime, hsame⟩

end Steps

/-! ## Runs -/

section Runs

variable {id : UInt16} {schedule : Nat → SystemEvent}

end Runs

end AudioStudio.Transport
