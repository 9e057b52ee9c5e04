import AudioStudio.Transport.RuntimeSteps

/-!
# Channel lifetimes

`closeChannel` erases by id and joins without a lock.  Both are right in runs where no two
closers of an id are inside the join of one worker and no channel is re-opened under a closer
whose runtime another closer has already erased.
-/

namespace AudioStudio.Transport

open AudioStudio.Common
open AudioStudio.Interleaving
open Wire

/-! ## Closers -/

/-- Whether a thread is inside the join of a runtime's worker. -/
def Caller.joining (id : UInt16) (found : Nat) : Caller → Bool
  | .closing other (.join runtime) _ => other = id && runtime = found
  | _ => false

/-- Whether a thread has yet to erase an id under which it looked up a runtime. -/
def Caller.holding (id : UInt16) (caller : Caller) : Bool :=
  caller.found?.any (·.1 = id)

/-- The events under which `closeChannel` works: a closer only finds a worker joinable while
no other closer joins it, and an id is only opened while no closer holds a runtime of it
that is registered no more. -/
def orderly (id : UInt16) (system : System) : SystemEvent → Bool
  | .caller index =>
      match system.callers[index]? with
      | some (.closing other (.joinable found) _) =>
          other ≠ id || system.callers.all fun caller => !caller.joining id found
      | some (.openChannel other _) =>
          other ≠ id || (system.shared.channels id).isSome ||
            system.callers.all fun caller => !caller.holding id
      | _ => true
  | _ => true

/-- Closers erase what they closed, and what is registered no more was stopped and joined
once. -/
structure ClosesOwn (id : UInt16) (system : System) : Prop where
  erases : ∀ rest found, .closing id (.erase found) rest ∈ system.callers →
    (∀ other, system.shared.channels id = some other → other = found) ∧
      ∃ runtime, system.shared.runtimes[found]? = some runtime ∧ runtime.stopping = true ∧
        runtime.worker = .exited ∧ runtime.joined = 1
  removed : ∀ (found : Nat) (runtime : ChannelRuntime),
    system.shared.runtimes[found]? = some runtime → runtime.id = id →
      system.shared.channels id ≠ some found →
        runtime.stopping = true ∧ runtime.worker = .exited ∧ runtime.joined = 1

/-! ## The invariant -/

structure Kept (id : UInt16) (system : System) : Prop where
  holds : ∀ caller ∈ system.callers, ∀ found, caller.found? = some (id, found) →
    ∀ other, system.shared.channels id = some other → other = found
  erases : ∀ rest found (runtime : ChannelRuntime),
    .closing id (.erase found) rest ∈ system.callers →
      system.shared.runtimes[found]? = some runtime → runtime.joined = 1
  joins : ∀ (found : Nat) (runtime : ChannelRuntime),
    system.shared.runtimes[found]? = some runtime → runtime.id = id →
      runtime.joined + system.callers.countP (·.joining id found) ≤ 1
  removed : ∀ (found : Nat) (runtime : ChannelRuntime),
    system.shared.runtimes[found]? = some runtime → runtime.id = id →
      system.shared.channels id ≠ some found → runtime.joined = 1

section Steps

variable {id : UInt16} {system : System} {shared' : Shared}

theorem kept_initial (id : UInt16) : Kept id {} where
  holds := by
    intro caller hmem
    exact absurd hmem List.not_mem_nil
  erases := by
    intro rest found runtime hmem
    exact absurd hmem List.not_mem_nil
  joins := by
    intro found runtime hfound
    exact absurd hfound (by simp)
  removed := by
    intro found runtime hfound
    exact absurd hfound (by simp)

variable {found : Nat} {caller : Caller}

theorem joining_found (hjoining : caller.joining id found = true) :
    caller.found? = some (id, found) := by
  cases caller with
  | closing other phase rest =>
      cases phase with
      | join runtime =>
          simp only [Caller.joining, Bool.and_eq_true, decide_eq_true_eq] at hjoining
          rw [hjoining.1, hjoining.2]
          rfl
      | _ => exact absurd hjoining nofun
  | _ => exact absurd hjoining nofun

theorem not_joining (hfound : caller.found? ≠ some (id, found)) : caller.joining id found = false :=
  Bool.eq_false_of_not_eq_true fun hjoining => hfound (joining_found hjoining)

/-- A step that joins nothing and leaves the channel registered as it is keeps the invariant,
if its caller neither joins nor erases next. -/
theorem Kept.frame (hkept : Kept id system) {callers' : List Caller}
    (hchannels : shared'.channels id = system.shared.channels id)
    (hruntimes : ∀ (found : Nat) (next : ChannelRuntime), shared'.runtimes[found]? = some next →
      next.id = id → ∃ runtime, system.shared.runtimes[found]? = some runtime ∧
        runtime.id = id ∧ next.joined = runtime.joined)
    (hids : ∀ rest found, .closing id (.erase found) rest ∈ system.callers →
      ∃ next, shared'.runtimes[found]? = some next ∧ next.id = id)
    (hcallers : ∀ caller ∈ callers', caller ∈ system.callers ∨
      ((∀ found, caller.found? = some (id, found) →
        ∀ other, system.shared.channels id = some other → other = found) ∧
      ∀ rest found, caller ≠ .closing id (.erase found) rest))
    (hjoining : ∀ found, callers'.countP (·.joining id found) ≤
      system.callers.countP (·.joining id found)) :
    Kept id { shared := shared', callers := callers' } where
  holds := by
    intro caller hmem found hfound other hother
    rw [hchannels] at hother
    obtain hcaller | hcaller := hcallers caller hmem
    · exact hkept.holds caller hcaller found hfound other hother
    · exact hcaller.1 found hfound other hother
  erases := by
    intro rest found next hmem hnext
    obtain hcaller | hcaller := hcallers _ hmem
    · obtain ⟨next', hnext', hid⟩ := hids rest found hcaller
      obtain rfl : next' = next := Option.some.inj (hnext'.symm.trans hnext)
      obtain ⟨runtime, hruntime, _, hjoined⟩ := hruntimes found next' hnext hid
      rw [hjoined]
      exact hkept.erases rest found runtime hcaller hruntime
    · exact absurd rfl (hcaller.2 rest found)
  joins := by
    intro found next hnext hid
    obtain ⟨runtime, hruntime, hid', hjoined⟩ := hruntimes found next hnext hid
    have hbound := hkept.joins found runtime hruntime hid'
    have hfewer := hjoining found
    dsimp only
    omega
  removed := by
    intro found next hnext hid hchannel
    obtain ⟨runtime, hruntime, hid', hjoined⟩ := hruntimes found next hnext hid
    rw [hjoined]
    exact hkept.removed found runtime hruntime hid' (hchannels ▸ hchannel)

/-- The runtimes of an id have been joined as often as before. -/
def JoinedSame (id : UInt16) (shared shared' : Shared) : Prop :=
  ∀ (found : Nat) (next : ChannelRuntime), shared'.runtimes[found]? = some next →
    next.id = id → ∃ runtime, shared.runtimes[found]? = some runtime ∧ runtime.id = id ∧
      next.joined = runtime.joined

variable {shared : Shared}

theorem joinedSame_of_eq (hruntimes : shared'.runtimes = shared.runtimes) :
    JoinedSame id shared shared' :=
  fun _ next hnext hid => ⟨next, hruntimes ▸ hnext, hid, rfl⟩

variable {runtime : ChannelRuntime}

theorem joinedSame_setRuntime {next : ChannelRuntime}
    (hfound : shared.runtimes[found]? = some runtime)
    (hsame : runtime.id = id → next.joined = runtime.joined) (hid : next.id = runtime.id) :
    JoinedSame id shared (shared.setRuntime found next) := by
  intro other next' hnext' hid'
  by_cases heq : found = other
  · subst heq
    have hinside := (List.getElem?_eq_some_iff.mp hfound).1
    rw [Shared.setRuntime, List.getElem?_set_self hinside] at hnext'
    obtain rfl : next = next' := Option.some.inj hnext'
    exact ⟨runtime, hfound, hid.symm.trans hid', hsame (hid.symm.trans hid')⟩
  · rw [Shared.setRuntime, List.getElem?_set_ne heq] at hnext'
    exact ⟨next', hnext', hid', rfl⟩

theorem joinedSame_opened {other : UInt16} (hother : other ≠ id) :
    JoinedSame id shared
      { channels := Function.update shared.channels other (some shared.runtimes.length)
        runtimes := shared.runtimes ++ [{ id := other }] } := by
  intro found next hnext hid
  rw [List.getElem?_append] at hnext
  split at hnext
  · exact ⟨next, hnext, hid, rfl⟩
  · have hfresh := List.mem_singleton.mp (List.mem_of_getElem? hnext)
    rw [hfresh] at hid
    exact absurd hid hother

/-- A caller that does not join next makes no more joins. -/
theorem countP_joining_set (callers : List Caller) (index : Nat)
    (hcaller : caller.joining id found = false) :
    (callers.set index caller).countP (·.joining id found) ≤
      callers.countP (·.joining id found) := by
  by_cases hindex : index < callers.length
  · rw [List.countP_set hindex, hcaller]
    simp
  · rw [List.set_eq_of_length_le (by omega)]

/-- `Kept.frame` for the step of one caller. -/
theorem Kept.frame_caller (hkept : Kept id system) (hconsistent : Consistent system)
    (hshared : SharedStep system.shared shared') {index : Nat} {caller' : Caller}
    (hchannels : shared'.channels id = system.shared.channels id)
    (hjoined : JoinedSame id system.shared shared')
    (hfound : ∀ found, caller'.found? = some (id, found) →
      ∀ other, system.shared.channels id = some other → other = found)
    (herase : ∀ rest found, caller' ≠ .closing id (.erase found) rest)
    (hquiet : ∀ found, caller'.joining id found = false) :
    Kept id { shared := shared', callers := system.callers.set index caller' } := by
  apply hkept.frame hchannels hjoined
  · intro rest found hmem
    obtain ⟨runtime, hruntime, hid, _⟩ := hshared.held (hconsistent.holds id _ rest found hmem rfl)
    exact ⟨runtime, hruntime, hid⟩
  · intro caller hmem
    obtain hcaller | rfl := List.mem_or_eq_of_mem_set hmem
    · exact .inl hcaller
    · exact .inr ⟨hfound, herase⟩
  · exact fun found => countP_joining_set _ _ (hquiet found)

/-- A new call holds nothing. -/
theorem Kept.call (hkept : Kept id system) (hconsistent : Consistent system)
    (call : ManagerCall) :
    Kept id { system with callers := system.callers ++ [call.start] } := by
  have hstart : call.start.found? = none := by
    cases call <;> rfl
  apply hkept.frame rfl (joinedSame_of_eq rfl)
  · intro rest found hmem
    obtain ⟨runtime, hruntime, hid, _⟩ := hconsistent.holds id _ rest found hmem rfl
    exact ⟨runtime, hruntime, hid⟩
  · intro caller hmem
    obtain hcaller | hcaller := List.mem_append.mp hmem
    · exact .inl hcaller
    · obtain rfl := List.mem_singleton.mp hcaller
      refine .inr ⟨fun found hfound => ?_, fun rest found heq => ?_⟩
      · rw [hstart] at hfound
        exact absurd hfound nofun
      · rw [heq] at hstart
        exact absurd hstart nofun
  · intro found
    have hquiet : call.start.joining id found = false :=
      not_joining (by rw [hstart]; exact nofun)
    simp [List.countP_append, hquiet]

/-- A worker neither joins nor closes. -/
theorem Kept.work (hkept : Kept id system) (hconsistent : Consistent system) {next : ChannelRuntime}
    (hfound : system.shared.runtimes[found]? = some runtime) (hstep : RuntimeStep runtime next)
    (hjoined : next.joined = runtime.joined) :
    Kept id { system with shared := system.shared.setRuntime found next } := by
  apply hkept.frame (by rfl) (joinedSame_setRuntime hfound (fun _ => hjoined) hstep.id_eq)
  · intro rest other hmem
    obtain ⟨runtime', hruntime, hid, _⟩ := (SharedStep.changed found runtime next hfound hstep).held
      (hconsistent.holds id _ rest other hmem rfl)
    exact ⟨runtime', hruntime, hid⟩
  · exact fun caller hmem => .inl hmem
  · exact fun _ => le_refl _

/-! ### The steps of closers -/

variable {index : Nat}

/-- An open finds no closer holding the id. -/
theorem Kept.open_channel (hkept : Kept id system) (hfree : system.shared.channels id = none)
    (hnone : ∀ caller ∈ system.callers, caller.holding id = false) :
    Kept id
      { shared :=
          { channels := Function.update system.shared.channels id
              (some system.shared.runtimes.length)
            runtimes := system.shared.runtimes ++ [{ id }] }
        callers := system.callers.set index (.returned (.ok ())) } := by
  have hfound : ∀ caller ∈ system.callers.set index (.returned (.ok ())),
      ∀ found, caller.found? ≠ some (id, found) := by
    intro caller hmem found hfound
    obtain hcaller | rfl := List.mem_or_eq_of_mem_set hmem
    · have hholding := hnone caller hcaller
      rw [Caller.holding, hfound] at hholding
      simp at hholding
    · exact absurd hfound nofun
  have hcount : ∀ found, (system.callers.set index (.returned (.ok ()))).countP
      (·.joining id found) = 0 := by
    intro found
    rw [List.countP_eq_zero]
    intro caller hmem
    rw [not_joining (hfound caller hmem found)]
    exact Bool.false_ne_true
  constructor
  · intro caller hmem found hholds
    exact absurd hholds (hfound caller hmem found)
  · intro rest found runtime hmem
    exact absurd rfl (hfound _ hmem found)
  · intro found runtime hruntime hid
    dsimp only at hruntime ⊢
    rw [hcount]
    rw [List.getElem?_append] at hruntime
    split at hruntime
    · have hbound := hkept.joins found runtime hruntime hid
      omega
    · rw [List.mem_singleton.mp (List.mem_of_getElem? hruntime)]
      exact Nat.zero_le 1
  · intro found runtime hruntime hid hchannel
    dsimp only at hruntime hchannel
    rw [Function.update_self] at hchannel
    rw [List.getElem?_append] at hruntime
    split at hruntime
    · exact hkept.removed found runtime hruntime hid (by rw [hfree]; exact nofun)
    · next hlength =>
        have hinside := (List.getElem?_eq_some_iff.mp hruntime).1
        rw [List.length_singleton] at hinside
        exact absurd (congrArg some (by omega)) hchannel

variable {rest : Option (List UInt16)}

/-- No other closer is inside the join that a closer begins. -/
theorem Kept.join_begins (hkept : Kept id system)
    (hcaller : system.callers[index]? = some (.closing id (.joinable found) rest))
    (hfound : system.shared.runtimes[found]? = some runtime) (hjoined : runtime.joined = 0)
    (hnone : ∀ caller ∈ system.callers, caller.joining id found = false) :
    Kept id { system with
      callers := system.callers.set index (.closing id (.join found) rest) } := by
  obtain ⟨hinside, hget⟩ := List.getElem?_eq_some_iff.mp hcaller
  constructor
  · intro caller hmem other hholds
    obtain hold | rfl := List.mem_or_eq_of_mem_set hmem
    · exact hkept.holds caller hold other hholds
    · exact hkept.holds _ (List.mem_of_getElem? hcaller) other hholds
  · intro rest' other runtime' hmem
    obtain hold | heq := List.mem_or_eq_of_mem_set hmem
    · exact hkept.erases rest' other runtime' hold
    · exact absurd heq nofun
  · intro other runtime' hruntime hid
    have hbound := hkept.joins other runtime' hruntime hid
    by_cases heq : other = found
    · subst heq
      obtain rfl : runtime = runtime' := Option.some.inj (hfound.symm.trans hruntime)
      have hcount : system.callers.countP (·.joining id other) = 0 := by
        rw [List.countP_eq_zero]
        intro caller hmem
        rw [hnone caller hmem]
        exact Bool.false_ne_true
      dsimp only
      rw [List.countP_set hinside, hcount, hjoined]
      split <;> split <;> omega
    · have hquiet : (Caller.closing id (.join found) rest).joining id other = false :=
        not_joining fun hfound' => heq (by
          obtain rfl : found = other := by simpa [Caller.found?, ClosePhase.found?] using hfound'
          rfl)
      have hfewer := countP_joining_set system.callers index hquiet
      dsimp only
      omega
  · exact hkept.removed

/-- A closer that finds its worker joined goes on to erase. -/
theorem Kept.join_skipped (hkept : Kept id system) (hconsistent : Consistent system)
    (hcaller : system.callers[index]? = some (.closing id (.joinable found) rest))
    (hfound : system.shared.runtimes[found]? = some runtime) (hjoined : runtime.joined ≠ 0) :
    Kept id { system with
      callers := system.callers.set index (.closing id (.erase found) rest) } := by
  have hmem := List.mem_of_getElem? hcaller
  obtain ⟨runtime', hfound', hid, _⟩ := hconsistent.holds id _ rest found hmem rfl
  obtain rfl : runtime = runtime' := Option.some.inj (hfound.symm.trans hfound')
  have hone : runtime.joined = 1 := by
    have hbound := hkept.joins found runtime hfound hid
    omega
  constructor
  · intro caller hmem' other hholds
    obtain hold | rfl := List.mem_or_eq_of_mem_set hmem'
    · exact hkept.holds caller hold other hholds
    · exact hkept.holds _ hmem other hholds
  · intro rest' other runtime' hmem' hruntime
    obtain hold | heq := List.mem_or_eq_of_mem_set hmem'
    · exact hkept.erases rest' other runtime' hold hruntime
    · cases heq
      obtain rfl : runtime = runtime' := Option.some.inj (hfound.symm.trans hruntime)
      exact hone
  · intro other runtime' hruntime hid'
    have hbound := hkept.joins other runtime' hruntime hid'
    have hquiet : (Caller.closing id (.erase found) rest).joining id other = false := rfl
    have hfewer := countP_joining_set system.callers index hquiet
    dsimp only
    omega
  · exact hkept.removed

/-- The one closer inside a join makes the first join. -/
theorem Kept.join_ends (hkept : Kept id system) (hconsistent : Consistent system)
    (hcaller : system.callers[index]? = some (.closing id (.join found) rest))
    (hfound : system.shared.runtimes[found]? = some runtime) :
    Kept id
      { shared := system.shared.setRuntime found { runtime with joined := runtime.joined + 1 }
        callers := system.callers.set index (.closing id (.erase found) rest) } := by
  have hmem := List.mem_of_getElem? hcaller
  obtain ⟨hinside, hget⟩ := List.getElem?_eq_some_iff.mp hcaller
  have hruntimes := (List.getElem?_eq_some_iff.mp hfound).1
  obtain ⟨runtime', hfound', hid, _⟩ := hconsistent.holds id _ rest found hmem rfl
  obtain rfl : runtime = runtime' := Option.some.inj (hfound.symm.trans hfound')
  have hbound := hkept.joins found runtime hfound hid
  have hself : (system.callers[index]).joining id found = true := by
    rw [hget]
    simp [Caller.joining]
  have hcount : 0 < system.callers.countP (·.joining id found) :=
    List.countP_pos_iff.mpr ⟨_, List.getElem_mem hinside, hself⟩
  constructor
  · intro caller hmem' other hholds
    obtain hold | rfl := List.mem_or_eq_of_mem_set hmem'
    · exact hkept.holds caller hold other hholds
    · exact hkept.holds _ hmem other hholds
  · intro rest' other runtime' hmem' hruntime
    dsimp only [Shared.setRuntime] at hruntime
    by_cases heq : found = other
    · subst heq
      rw [List.getElem?_set_self hruntimes] at hruntime
      obtain rfl := Option.some.inj hruntime
      dsimp only
      omega
    · rw [List.getElem?_set_ne heq] at hruntime
      obtain hold | hnew := List.mem_or_eq_of_mem_set hmem'
      · exact hkept.erases rest' other runtime' hold hruntime
      · cases hnew
        exact absurd rfl heq
  · intro other runtime' hruntime hid'
    dsimp only [Shared.setRuntime] at hruntime ⊢
    by_cases heq : found = other
    · subst heq
      rw [List.getElem?_set_self hruntimes] at hruntime
      obtain rfl := Option.some.inj hruntime
      have hquiet : (Caller.closing id (.erase found) rest).joining id found = false := rfl
      rw [List.countP_set hinside, hself, hquiet]
      simp only [if_true, Bool.false_eq_true, if_false]
      omega
    · rw [List.getElem?_set_ne heq] at hruntime
      have hother := hkept.joins other runtime' hruntime hid'
      have hquiet : (Caller.closing id (.erase found) rest).joining id other = false := rfl
      have hfewer := countP_joining_set system.callers index hquiet
      omega
  · intro other runtime' hruntime hid' hchannel
    dsimp only [Shared.setRuntime] at hruntime hchannel
    by_cases heq : found = other
    · subst heq
      have hone := hkept.removed found runtime hfound hid hchannel
      omega
    · rw [List.getElem?_set_ne heq] at hruntime
      exact hkept.removed other runtime' hruntime hid' hchannel

/-- What is erased is the closer's own runtime, joined before. -/
theorem Kept.erase_own (hkept : Kept id system)
    (hcaller : system.callers[index]? = some (.closing id (.erase found) rest)) :
    Kept id
      { shared := { system.shared with channels := Function.update system.shared.channels id none }
        callers := system.callers.set index (closed (.ok ()) rest) } := by
  have hmem := List.mem_of_getElem? hcaller
  have hnext := closed_found (.ok ()) rest
  constructor
  · intro caller _ found' _ other hother
    dsimp only at hother
    rw [Function.update_self] at hother
    exact absurd hother nofun
  · intro rest' other runtime hmem' hruntime
    obtain hold | heq := List.mem_or_eq_of_mem_set hmem'
    · exact hkept.erases rest' other runtime hold hruntime
    · rw [← heq] at hnext
      exact absurd hnext nofun
  · intro other runtime hruntime hid
    have hbound := hkept.joins other runtime hruntime hid
    have hquiet : (closed (.ok ()) rest).joining id other = false :=
      not_joining (by rw [hnext]; exact nofun)
    have hfewer := countP_joining_set system.callers index hquiet
    dsimp only
    omega
  · intro other runtime hruntime hid _
    by_cases hchannel : system.shared.channels id = some other
    · obtain rfl := hkept.holds _ hmem found rfl other hchannel
      exact hkept.erases rest other runtime hmem hruntime
    · exact hkept.removed other runtime hruntime hid hchannel

/-- Every orderly event keeps the invariant. -/
theorem Kept.step (hkept : Kept id system) (hconsistent : Consistent system)
    {event : SystemEvent} {system' : System} (horderly : orderly id system event = true)
    (hstep : system.step event = some system') : Kept id system' := by
  obtain ⟨call, rfl, rfl⟩ | ⟨index, caller, shared, caller', rfl, hindex, hcaller, rfl⟩ |
    ⟨found, sent, received, runtime, next, rfl, hfound, hworker, rfl⟩ := step_cases hstep
  · exact hkept.call hconsistent call
  · have hmem := List.mem_of_getElem? hindex
    have hshared := hcaller.toShared
    have hframe := @Kept.frame_caller id system shared hkept hconsistent hshared index caller'
    cases hcaller with
    | pass _ _ hbefore hafter _ =>
        refine hframe rfl (joinedSame_of_eq rfl) ?_ ?_ ?_
        · intro found hfound
          rw [hafter] at hfound
          cases hfound
        · rintro rest found rfl
          cases hafter
        · exact fun found => not_joining (by rw [hafter]; rintro ⟨⟩)
    | opened other service hfree =>
        by_cases hother : other = id
        · subst hother
          rw [orderly, hindex] at horderly
          apply hkept.open_channel hfree
          simpa [hfree] using horderly
        · refine hframe ?_ (joinedSame_opened hother) (by rintro _ ⟨⟩) (by rintro _ _ ⟨⟩) (fun _ => rfl)
          exact Function.update_of_ne (Ne.symm hother) _ _
    | enqueued found request runtime hfound hopen =>
        exact hframe rfl (joinedSame_setRuntime hfound (fun _ => rfl) rfl) (by rintro _ ⟨⟩)
          (by rintro _ _ ⟨⟩) (fun _ => rfl)
    | required other rest found hfound =>
        refine hframe rfl (joinedSame_of_eq rfl) ?_ (by rintro _ _ ⟨⟩) (fun _ => rfl)
        intro found' hholds other' hother'
        cases hholds
        exact Option.some.inj (hother'.symm.trans hfound)
    | drains other rest phase phase' hsame hbefore hafter =>
        refine hframe rfl (joinedSame_of_eq rfl) ?_ ?_ ?_
        · intro found hfound
          refine hkept.holds _ hmem found ?_
          rw [← hfound, Caller.found?, Caller.found?, hsame]
        · rintro rest' found heq
          cases heq
          cases hafter
        · intro found
          cases phase' <;> first | rfl | cases hafter
    | stopped other rest found runtime hfound =>
        refine hframe rfl (joinedSame_setRuntime hfound (fun _ => rfl) rfl) ?_
          (by rintro _ _ ⟨⟩) (fun _ => rfl)
        exact fun found' hholds => hkept.holds _ hmem found' hholds
    | joins other rest found runtime hfound hjoined =>
        by_cases hother : other = id
        · subst hother
          rw [orderly, hindex] at horderly
          exact hkept.join_begins hindex hfound hjoined (by simpa using horderly)
        · refine hframe rfl (joinedSame_of_eq rfl) ?_ (by rintro _ _ ⟨⟩) ?_
          · intro found' hholds
            cases hholds
            exact absurd rfl hother
          · exact fun found' => not_joining fun hholds => by cases hholds; exact hother rfl
    | skips other rest found runtime hfound hjoined =>
        by_cases hother : other = id
        · subst hother
          exact hkept.join_skipped hconsistent hindex hfound hjoined
        · refine hframe rfl (joinedSame_of_eq rfl) ?_ ?_ (fun _ => rfl)
          · exact fun found' hholds => hkept.holds _ hmem found' hholds
          · rintro rest' found' heq
            cases heq
            exact hother rfl
    | joined other rest found runtime hfound hexited =>
        by_cases hother : other = id
        · subst hother
          exact hkept.join_ends hconsistent hindex hfound
        · obtain ⟨runtime', hfound', hid, _⟩ := hconsistent.holds other _ rest found hmem rfl
          obtain rfl : runtime = runtime' := Option.some.inj (hfound.symm.trans hfound')
          refine hframe rfl (joinedSame_setRuntime hfound ?_ rfl) ?_ ?_ (fun _ => rfl)
          · exact fun hid' => absurd (hid.symm.trans hid') hother
          · exact fun found' hholds => hkept.holds _ hmem found' hholds
          · rintro rest' found' heq
            cases heq
            exact hother rfl
    | erased other rest found =>
        by_cases hother : other = id
        · subst hother
          exact hkept.erase_own hindex
        · have hnext := closed_found (.ok ()) rest
          refine hframe ?_ (joinedSame_of_eq rfl) ?_ ?_ ?_
          · exact Function.update_of_ne (Ne.symm hother) _ _
          · intro found' hholds
            rw [hnext] at hholds
            cases hholds
          · intro rest' found' heq
            rw [heq] at hnext
            cases hnext
          · exact fun found' => not_joining (by rw [hnext]; rintro ⟨⟩)
  · exact hkept.work hconsistent hfound (workerStep_cases hworker) (workerStep_leaves hworker).2

end Steps

/-! ## Runs -/

section Runs

variable {id : UInt16} {system system' : System} {event : SystemEvent}

theorem closesOwn_of_kept (hkept : Kept id system) (hconsistent : Consistent system) :
    ClosesOwn id system where
  erases := by
    intro rest found hmem
    obtain ⟨runtime, hfound, _, hstopping⟩ := hconsistent.holds id _ rest found hmem rfl
    have hone := hkept.erases rest found runtime hmem hfound
    have hexited := (hconsistent.sound found runtime hfound).joined (by omega)
    exact ⟨hkept.holds _ hmem found rfl, runtime, hfound, hstopping rfl, hexited, hone⟩
  removed := by
    intro found runtime hfound hid hchannel
    have hone := hkept.removed found runtime hfound hid hchannel
    have hsound := hconsistent.sound found runtime hfound
    have hexited := hsound.joined (by omega)
    exact ⟨(hsound.exited hexited).2, hexited, hone⟩

/-- Only an erase of its id takes a runtime out of the table. -/
theorem unregistered_by_erase {found : Nat} (hstep : system.step event = some system')
    (hbefore : system.shared.channels id = some found)
    (hafter : system'.shared.channels id ≠ some found) :
    ∃ index rest other, event = .caller index ∧
      system.callers[index]? = some (.closing id (.erase other) rest) := by
  obtain ⟨call, rfl, rfl⟩ | ⟨index, caller, shared, caller', rfl, hindex, hcaller, rfl⟩ |
    ⟨_, sent, received, runtime, next, rfl, _, _, rfl⟩ := step_cases hstep
  · exact absurd hbefore hafter
  · cases hcaller with
    | erased other rest other' =>
        by_cases hother : id = other
        · subst hother
          exact ⟨index, rest, other', rfl, hindex⟩
        · dsimp only at hafter
          rw [Function.update_of_ne hother] at hafter
          exact absurd hbefore hafter
    | opened other service hfree =>
        by_cases hother : id = other
        · subst hother
          exact absurd (hfree.symm.trans hbefore) nofun
        · dsimp only at hafter
          rw [Function.update_of_ne hother] at hafter
          exact absurd hbefore hafter
    | _ => exact absurd hbefore hafter
  · exact absurd hbefore hafter

end Runs

/-- In every run of orderly events closers remove only what they closed: a runtime stays
registered until a `closeChannel` that looked it up erases it, by then stopped and joined
once. -/
theorem close_removes_own (id : UInt16) (events : List SystemEvent)
    (horderly : allowed System.step (orderly id) {} events = true) :
    ClosesOwn id (run System.step {} events) ∧
      ∀ event next found, (run System.step {} events).step event = some next →
        (run System.step {} events).shared.channels id = some found →
          next.shared.channels id ≠ some found →
            ∃ index rest, event = .caller index ∧
              (run System.step {} events).callers[index]? =
                some (.closing id (.erase found) rest) := by
  have hinvariant : ∀ system event next, (Consistent system ∧ Kept id system) →
      orderly id system event = true → system.step event = some next →
        Consistent next ∧ Kept id next := by
    intro system event next hboth hevent hstep
    exact ⟨hboth.1.step hstep, hboth.2.step hboth.1 hevent hstep⟩
  obtain ⟨hconsistent, hkept⟩ :=
    run_invariant_of_allowed hinvariant ⟨consistent_initial, kept_initial id⟩ horderly
  have hcloses := closesOwn_of_kept hkept hconsistent
  refine ⟨hcloses, ?_⟩
  intro event next found hstep hbefore hafter
  obtain ⟨index, rest, other, rfl, hindex⟩ := unregistered_by_erase hstep hbefore hafter
  obtain ⟨hown, _⟩ := hcloses.erases rest other (List.mem_of_getElem? hindex)
  obtain rfl := hown found hbefore
  exact ⟨index, rest, rfl, hindex⟩

/-- One closer of a channel that is then opened again. -/
def reopening : List SystemEvent :=
  [.call (.openChannel 4 "audio"), .caller 0, .call (.closeChannel 4), .caller 1, .caller 1,
    .caller 1, .caller 1, .worker 0 (.ok ()) (.error (.unavailable "")), .caller 1, .caller 1,
    .caller 1, .call (.openChannel 4 "audio"), .caller 2]

/-- Two closers look up the same runtime; the second erases what was opened in between. -/
def closedTwice : List SystemEvent :=
  [.call (.openChannel 4 "audio"), .caller 0, .call (.closeChannel 4), .caller 1,
    .call (.closeChannel 4), .caller 2, .caller 1, .caller 1, .caller 1,
    .worker 0 (.ok ()) (.error (.unavailable "")), .caller 1, .caller 1, .caller 1,
    .call (.openChannel 4 "audio"), .caller 3, .caller 2, .caller 2, .caller 2, .caller 2,
    .caller 2]

theorem close_removes_other : ¬ClosesOwn 4 (run System.step {} closedTwice) := by
  intro hcloses
  have hremoved := hcloses.removed 1 { id := 4 } rfl rfl (by decide)
  exact absurd hremoved.1 (by decide)

theorem close_removes_own_reopening :
    allowed System.step (orderly 4) {} reopening = true ∧
      ClosesOwn 4 (run System.step {} reopening) :=
  ⟨by decide, (close_removes_own 4 reopening (by decide)).1⟩

end AudioStudio.Transport
