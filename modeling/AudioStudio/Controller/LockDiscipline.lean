import AudioStudio.Controller.Channels

/-!
# Channel locks

The life of a channel's mutex over register, open and close calls: it is created at
registration and destroyed at the first close, while each open may start a worker.
-/

namespace AudioStudio.Controller

/-! ## Calls -/

/-- A call with the success of the driver operation that it may issue. -/
inductive ChannelCall where
  | registerChannel (id : UInt16) (handler : ChannelHandler) (mutexCreated : Bool)
  | openChannel (id : UInt16) (threadCreated : Bool)
  | closeChannel (id : UInt16)
  deriving DecidableEq, Repr

/-- The channel table, the channels that were closed since their registration, and for
each id how many mutexes the driver has created and destroyed. -/
structure LockRun where
  channels : ChannelTable := []
  closed : List UInt16 := []
  created : UInt16 → Nat := fun _ => 0
  destroyed : UInt16 → Nat := fun _ => 0

namespace LockRun

def step (driver : DriverOps) (run : LockRun) : ChannelCall → LockRun
  | .registerChannel id handler mutexCreated =>
      let (ret, channels) := acTransportRegisterChannel driver mutexCreated id handler run.channels
      { run with
        channels
        created := if ret = 0 ∧ driver.mutexes then Function.update run.created id (run.created id + 1)
          else run.created }
  | .openChannel id threadCreated =>
      { run with channels := (acTransportOpenChannel driver threadCreated id run.channels).2 }
  | .closeChannel id =>
      match acTransportFindChannel run.channels id with
      | none => run
      | some channel =>
          { run with
            channels := joinChannel id (stopChannel id run.channels)
            closed := id :: run.closed
            destroyed :=
              if channel.mutexCreated then Function.update run.destroyed id (run.destroyed id + 1)
              else run.destroyed }

def steps (driver : DriverOps) (calls : List ChannelCall) : LockRun :=
  calls.foldl (step driver) {}

end LockRun

/-- Whether `ac_channel_lock` takes a lock; `ac_channel_unlock` releases it then. -/
def acChannelLock (driver : DriverOps) (channel : AcTransportChannel) : Bool :=
  channel.mutexCreated && driver.mutexes

/-- A worker works under the lock, and of the one mutex that a channel ever gets none is
destroyed twice and none is lost. -/
structure Disciplined (driver : DriverOps) (run : LockRun) : Prop where
  locked : ∀ id channel, acTransportFindChannel run.channels id = some channel →
    channel.threadStarted = true → driver.mutexes = true → acChannelLock driver channel = true
  once : ∀ id, run.created id ≤ 1 ∧
    run.destroyed id + (if (acTransportFindChannel run.channels id).any (·.mutexCreated) then 1
      else 0) = run.created id

/-- The call starts a worker for a channel that was closed before. -/
def Reopens (driver : DriverOps) (run : LockRun) (call : ChannelCall) : Prop :=
  ∃ id, call = .openChannel id true ∧ id ∈ run.closed ∧ driver.mutexes = true ∧
    driver.threads = true

/-! ## One channel -/

section Calls

variable {driver : DriverOps} {run : LockRun} {id other : UInt16}

/-- What is known of one channel after any calls. -/
inductive Tracked (driver : DriverOps) (run : LockRun) (id : UInt16) : Prop where
  | unknown (hfind : acTransportFindChannel run.channels id = none) (hclosed : id ∉ run.closed)
      (hcreated : run.created id = 0) (hdestroyed : run.destroyed id = 0)
  | live (channel : AcTransportChannel) (hfind : acTransportFindChannel run.channels id = some channel)
      (hclosed : id ∉ run.closed) (hmutex : channel.mutexCreated = driver.mutexes)
      (hcreated : run.created id = if driver.mutexes then 1 else 0)
      (hdestroyed : run.destroyed id = 0)
  | closed (channel : AcTransportChannel)
      (hfind : acTransportFindChannel run.channels id = some channel)
      (hclosed : id ∈ run.closed) (hmutex : channel.mutexCreated = false)
      (hcreated : run.created id = if driver.mutexes then 1 else 0)
      (hdestroyed : run.destroyed id = run.created id)

theorem tracked_initial (id : UInt16) : Tracked driver {} id :=
  .unknown rfl nofun rfl rfl

/-- Tracking depends only on what concerns the channel. -/
theorem Tracked.congr {run' : LockRun} (htracked : Tracked driver run id)
    (hfind : acTransportFindChannel run'.channels id = acTransportFindChannel run.channels id)
    (hclosed : id ∈ run'.closed ↔ id ∈ run.closed) (hcreated : run'.created id = run.created id)
    (hdestroyed : run'.destroyed id = run.destroyed id) : Tracked driver run' id := by
  cases htracked with
  | unknown hfind' hclosed' hcreated' hdestroyed' =>
      exact .unknown (hfind.trans hfind') (hclosed.not.mpr hclosed') (hcreated.trans hcreated')
        (hdestroyed.trans hdestroyed')
  | live channel hfind' hclosed' hmutex hcreated' hdestroyed' =>
      exact .live channel (hfind.trans hfind') (hclosed.not.mpr hclosed') hmutex
        (hcreated.trans hcreated') (hdestroyed.trans hdestroyed')
  | closed channel hfind' hclosed' hmutex hcreated' hdestroyed' =>
      exact .closed channel (hfind.trans hfind') (hclosed.mpr hclosed') hmutex
        (hcreated.trans hcreated') (hdestroyed.trans (hdestroyed'.trans hcreated.symm))

/-! ### What the calls do to the table -/

theorem find_register (driver : DriverOps) (id : UInt16) (handler : ChannelHandler)
    (mutexCreated : Bool) (channels : ChannelTable) :
    (acTransportRegisterChannel driver mutexCreated id handler channels = (-1, channels)) ∨
      (acTransportFindChannel channels id = none ∧
        acTransportRegisterChannel driver mutexCreated id handler channels =
          (0, channels ++ [{ id, handler, mutexCreated := driver.mutexes }])) := by
  unfold acTransportRegisterChannel
  split
  · exact .inl rfl
  · split
    · exact .inl rfl
    · next hfind =>
        split
        · exact .inl rfl
        · split
          · exact .inl rfl
          · exact .inr ⟨Option.not_isSome_iff_eq_none.mp hfind, rfl⟩

variable {channels : ChannelTable}

theorem find_append (other : UInt16) (channel : AcTransportChannel)
    (hfind : acTransportFindChannel channels channel.id = none) :
    acTransportFindChannel (channels ++ [channel]) other =
      if channel.id = other then some channel else acTransportFindChannel channels other := by
  unfold acTransportFindChannel at hfind ⊢
  rw [List.find?_append]
  split
  · next heq =>
      subst heq
      rw [hfind]
      simp
  · next hne => simp [hne]

/-- What an open makes of its channel. -/
def openedChannel (driver : DriverOps) (threadCreated : Bool) (channel : AcTransportChannel) :
    AcTransportChannel :=
  { channel with
    isOpen := channel.threadStarted || !driver.threads || threadCreated
    stopRequested := false
    threadStarted := channel.threadStarted || (driver.threads && threadCreated) }

/-- What a close makes of its channel. -/
def closedChannel (channel : AcTransportChannel) : AcTransportChannel :=
  { channel with
    isOpen := false
    stopRequested := true
    threadStarted := false
    mutexCreated := false
    queue := [] }

theorem find_open_self (driver : DriverOps) (threadCreated : Bool) (id : UInt16)
    (channels : ChannelTable) :
    acTransportFindChannel (acTransportOpenChannel driver threadCreated id channels).2 id =
      (acTransportFindChannel channels id).map (openedChannel driver threadCreated) := by
  cases hfind : acTransportFindChannel channels id with
  | none => simp only [acTransportOpenChannel, hfind, Option.map_none]
  | some channel =>
      simp only [acTransportOpenChannel, hfind]
      split
      · next hstarts =>
          split
          · next hcreated =>
              simp only
              rw [find_update (by intro channel; rfl), find_update (by intro channel; rfl), hfind]
              simp_all [openedChannel]
          · next hcreated =>
              simp only
              rw [find_update (by intro channel; rfl), find_update (by intro channel; rfl), hfind]
              simp_all [openedChannel]
      · next hstarts =>
          simp only
          rw [find_update (by intro channel; rfl), hfind]
          cases hthread : channel.threadStarted <;> simp_all [openedChannel]

theorem find_open_of_ne {threadCreated : Bool} (hother : other ≠ id) :
    acTransportFindChannel (acTransportOpenChannel driver threadCreated id channels).2 other =
      acTransportFindChannel channels other := by
  unfold acTransportOpenChannel
  split
  · rfl
  · split
    · split
      · simp only
        rw [find_update_of_ne hother (by intro channel; rfl),
          find_update_of_ne hother (by intro channel; rfl)]
      · simp only
        rw [find_update_of_ne hother (by intro channel; rfl),
          find_update_of_ne hother (by intro channel; rfl)]
    · simp only
      rw [find_update_of_ne hother (by intro channel; rfl)]

theorem find_close_self (id : UInt16) (channels : ChannelTable) :
    acTransportFindChannel (joinChannel id (stopChannel id channels)) id =
      (acTransportFindChannel channels id).map closedChannel := by
  unfold joinChannel stopChannel
  rw [find_update (by intro channel; rfl), find_update (by intro channel; rfl), Option.map_map]
  rfl

theorem find_close_of_ne (hother : other ≠ id) :
    acTransportFindChannel (joinChannel id (stopChannel id channels)) other =
      acTransportFindChannel channels other := by
  unfold joinChannel stopChannel
  rw [find_update_of_ne hother (by intro channel; rfl),
    find_update_of_ne hother (by intro channel; rfl)]

/-! ### One call -/

/-- A registration tracks its own channel, which was unknown when it succeeds. -/
theorem Tracked.register {handler : ChannelHandler} {mutexCreated : Bool}
    (htracked : Tracked driver run other) :
    Tracked driver (run.step driver (.registerChannel id handler mutexCreated)) other := by
  obtain hrefused | ⟨hunknown, hregistered⟩ :=
    find_register driver id handler mutexCreated run.channels
  · apply htracked.congr
    · simp [LockRun.step, hrefused]
    · simp [LockRun.step]
    · simp [LockRun.step, hrefused]
    · rfl
  · have hfind := find_append other { id, handler, mutexCreated := driver.mutexes } hunknown
    by_cases hother : id = other
    · subst hother
      rw [if_pos rfl] at hfind
      cases htracked with
      | unknown hfind' hclosed hcreated hdestroyed =>
          apply Tracked.live { id, handler, mutexCreated := driver.mutexes }
          · simp only [LockRun.step, hregistered, hfind]
          · exact hclosed
          · rfl
          · cases hmutexes : driver.mutexes <;>
              simp [LockRun.step, hregistered, hmutexes, hcreated]
          · exact hdestroyed
      | live channel hfind' => exact absurd (hunknown.symm.trans hfind') nofun
      | closed channel hfind' => exact absurd (hunknown.symm.trans hfind') nofun
    · rw [if_neg hother] at hfind
      apply htracked.congr
      · simp only [LockRun.step, hregistered, hfind]
      · exact Iff.rfl
      · cases hmutexes : driver.mutexes <;>
          simp [LockRun.step, hregistered, hmutexes, Function.update_of_ne (Ne.symm hother)]
      · rfl

theorem Tracked.open_channel {threadCreated : Bool} (htracked : Tracked driver run other) :
    Tracked driver (run.step driver (.openChannel id threadCreated)) other := by
  by_cases hother : other = id
  · subst hother
    have hfind := find_open_self driver threadCreated other run.channels
    cases htracked with
    | unknown hfind' hclosed hcreated hdestroyed =>
        rw [hfind'] at hfind
        exact .unknown hfind hclosed hcreated hdestroyed
    | live channel hfind' hclosed hmutex hcreated hdestroyed =>
        rw [hfind'] at hfind
        exact .live (openedChannel driver threadCreated channel) hfind hclosed hmutex hcreated
          hdestroyed
    | closed channel hfind' hclosed hmutex hcreated hdestroyed =>
        rw [hfind'] at hfind
        exact .closed (openedChannel driver threadCreated channel) hfind hclosed hmutex hcreated
          hdestroyed
  · apply htracked.congr
    · exact find_open_of_ne hother
    · exact Iff.rfl
    · rfl
    · rfl

/-- A close destroys the mutex of a live channel, and of a closed one nothing. -/
theorem Tracked.close (htracked : Tracked driver run other) :
    Tracked driver (run.step driver (.closeChannel id)) other := by
  cases hchannel : acTransportFindChannel run.channels id with
  | none =>
      have hstep : run.step driver (.closeChannel id) = run := by
        simp only [LockRun.step, hchannel]
      rwa [hstep]
  | some channel =>
      by_cases hother : other = id
      · subst hother
        have hfind := find_close_self other run.channels
        rw [hchannel, Option.map_some] at hfind
        cases htracked with
        | unknown hfind' => exact absurd (hchannel.symm.trans hfind') nofun
        | live channel' hfind' hclosed hmutex hcreated hdestroyed =>
            obtain rfl : channel = channel' := Option.some.inj (hchannel.symm.trans hfind')
            apply Tracked.closed (closedChannel channel)
            · simpa only [LockRun.step, hchannel] using hfind
            · simp [LockRun.step, hchannel]
            · rfl
            · simpa only [LockRun.step, hchannel] using hcreated
            · cases hmutexes : driver.mutexes <;>
                simp [LockRun.step, hchannel, hmutex, hmutexes, hcreated, hdestroyed]
        | closed channel' hfind' hclosed hmutex hcreated hdestroyed =>
            obtain rfl : channel = channel' := Option.some.inj (hchannel.symm.trans hfind')
            apply Tracked.closed (closedChannel channel)
            · simpa only [LockRun.step, hchannel] using hfind
            · simp [LockRun.step, hchannel]
            · rfl
            · simpa only [LockRun.step, hchannel] using hcreated
            · simpa [LockRun.step, hchannel, hmutex] using hdestroyed
      · apply htracked.congr
        · simpa only [LockRun.step, hchannel] using find_close_of_ne hother
        · simp [LockRun.step, hchannel, hother]
        · simp only [LockRun.step, hchannel]
        · cases hmutex : channel.mutexCreated <;>
            simp [LockRun.step, hchannel, hmutex, Function.update_of_ne hother]

theorem Tracked.step {call : ChannelCall} (htracked : Tracked driver run other) :
    Tracked driver (run.step driver call) other := by
  cases call with
  | registerChannel id handler mutexCreated => exact htracked.register
  | openChannel id threadCreated => exact htracked.open_channel
  | closeChannel id => exact htracked.close

/-! ## Runs -/

/-- Without a re-opening no closed channel has a worker. -/
def ClosedIdle (driver : DriverOps) (run : LockRun) : Prop :=
  ∀ id channel, id ∈ run.closed → acTransportFindChannel run.channels id = some channel →
    driver.mutexes = true → channel.threadStarted = false

/-- The mutex of a channel is accounted for, however the calls before went. -/
theorem Tracked.once (htracked : Tracked driver run id) :
    run.created id ≤ 1 ∧
      run.destroyed id + (if (acTransportFindChannel run.channels id).any (·.mutexCreated) then 1
        else 0) = run.created id := by
  cases htracked with
  | unknown hfind hclosed hcreated hdestroyed => simp [hfind, hcreated, hdestroyed]
  | live channel hfind hclosed hmutex hcreated hdestroyed =>
      cases hmutexes : driver.mutexes <;> simp [hfind, hcreated, hdestroyed, hmutex, hmutexes]
  | closed channel hfind hclosed hmutex hcreated hdestroyed =>
      cases hmutexes : driver.mutexes <;> simp [hfind, hcreated, hdestroyed, hmutex, hmutexes]

theorem disciplined_of_tracked (htracked : ∀ id, Tracked driver run id)
    (hidle : ClosedIdle driver run) : Disciplined driver run where
  once := fun id => (htracked id).once
  locked := by
    intro id channel hfind hstarted hmutexes
    cases htracked id with
    | unknown hfind' => exact absurd (hfind.symm.trans hfind') nofun
    | live channel' hfind' hclosed hmutex =>
        obtain rfl : channel = channel' := Option.some.inj (hfind.symm.trans hfind')
        simp [acChannelLock, hmutex, hmutexes]
    | closed channel' hfind' hclosed =>
        rw [hidle id channel hclosed hfind hmutexes] at hstarted
        exact absurd hstarted nofun

theorem ClosedIdle.step {call : ChannelCall} (hidle : ClosedIdle driver run)
    (htracked : ∀ id, Tracked driver run id) (hcall : ¬Reopens driver run call) :
    ClosedIdle driver (run.step driver call) := by
  intro other channel hclosed hfind hmutexes
  cases call with
  | registerChannel id handler mutexCreated =>
      have hbefore : acTransportFindChannel run.channels other = some channel := by
        obtain hrefused | ⟨hunknown, hregistered⟩ :=
          find_register driver id handler mutexCreated run.channels
        · simpa [LockRun.step, hrefused] using hfind
        · have happend := find_append other { id, handler, mutexCreated := driver.mutexes } hunknown
          have hne : id ≠ other := by
            rintro rfl
            cases htracked id with
            | unknown hfind' hfresh => exact hfresh hclosed
            | live channel' hfind' => exact absurd (hunknown.symm.trans hfind') nofun
            | closed channel' hfind' => exact absurd (hunknown.symm.trans hfind') nofun
          rw [if_neg hne] at happend
          rw [← happend]
          simpa only [LockRun.step, hregistered] using hfind
      exact hidle other channel hclosed hbefore hmutexes
  | openChannel id threadCreated =>
      by_cases hother : other = id
      · subst hother
        have hopened := find_open_self driver threadCreated other run.channels
        cases hbefore : acTransportFindChannel run.channels other with
        | none =>
            rw [hbefore, Option.map_none] at hopened
            exact absurd (hopened.symm.trans hfind) nofun
        | some before =>
            rw [hbefore, Option.map_some] at hopened
            obtain rfl : openedChannel driver threadCreated before = channel :=
              Option.some.inj (hopened.symm.trans hfind)
            have hstopped := hidle other before hclosed hbefore hmutexes
            have hfailed : (driver.threads && threadCreated) = false := by
              by_contra hcreates
              rw [Bool.not_eq_false, Bool.and_eq_true] at hcreates
              exact hcall ⟨other, by rw [hcreates.2], hclosed, hmutexes, hcreates.1⟩
            simp [openedChannel, hstopped, hfailed]
      · exact hidle other channel hclosed ((find_open_of_ne hother).symm.trans hfind) hmutexes
  | closeChannel id =>
      cases hbefore : acTransportFindChannel run.channels id with
      | none =>
          have hstep : run.step driver (.closeChannel id) = run := by
            simp only [LockRun.step, hbefore]
          rw [hstep] at hclosed hfind
          exact hidle other channel hclosed hfind hmutexes
      | some before =>
          simp only [LockRun.step, hbefore] at hclosed hfind
          by_cases hother : other = id
          · subst hother
            rw [find_close_self, hbefore] at hfind
            obtain rfl : closedChannel before = channel := Option.some.inj hfind
            rfl
          · rw [find_close_of_ne hother] at hfind
            exact hidle other channel ((List.mem_cons.mp hclosed).resolve_left hother) hfind
              hmutexes

/-- A re-opened channel has a worker and no mutex. -/
theorem not_disciplined_of_reopens {call : ChannelCall} (htracked : ∀ id, Tracked driver run id)
    (hcall : Reopens driver run call) : ¬Disciplined driver (run.step driver call) := by
  obtain ⟨id, rfl, hclosed, hmutexes, hthreads⟩ := hcall
  intro hdisciplined
  cases htracked id with
  | unknown hfind hfresh => exact hfresh hclosed
  | live channel hfind hfresh => exact hfresh hclosed
  | closed channel hfind _ hmutex =>
      have hopened := find_open_self driver true id run.channels
      rw [hfind, Option.map_some] at hopened
      have hlocked := hdisciplined.locked id _ hopened (by simp [openedChannel, hthreads]) hmutexes
      simp [acChannelLock, openedChannel, hmutex] at hlocked

theorem steps_append (before : List ChannelCall) (call : ChannelCall) :
    LockRun.steps driver (before ++ [call]) = (LockRun.steps driver before).step driver call := by
  unfold LockRun.steps
  rw [List.foldl_append, List.foldl_cons, List.foldl_nil]

theorem tracked_steps (calls : List ChannelCall) (id : UInt16) :
    Tracked driver (LockRun.steps driver calls) id := by
  induction calls using List.reverseRecOn with
  | nil => exact tracked_initial id
  | append_singleton before call ih =>
      rw [steps_append]
      exact ih.step

end Calls

/-- The lock discipline holds throughout a run if and only if no call of it starts a worker
for a channel that was closed before. -/
theorem lock_discipline (driver : DriverOps) (calls : List ChannelCall) :
    (∀ before, before <+: calls → Disciplined driver (LockRun.steps driver before)) ↔
      ∀ before call, before ++ [call] <+: calls →
        ¬Reopens driver (LockRun.steps driver before) call := by
  constructor
  · intro hdisciplined before call hprefix hreopens
    have hafter := hdisciplined (before ++ [call]) hprefix
    rw [steps_append] at hafter
    exact not_disciplined_of_reopens (tracked_steps before) hreopens hafter
  · intro hreopens before hprefix
    have hidle : ClosedIdle driver (LockRun.steps driver before) := by
      induction before using List.reverseRecOn with
      | nil =>
          intro id channel hclosed
          exact absurd hclosed nofun
      | append_singleton before call ih =>
          rw [steps_append]
          exact (ih ((List.prefix_append before [call]).trans hprefix)).step
            (tracked_steps before) (hreopens before call hprefix)
    exact disciplined_of_tracked (tracked_steps before) hidle

/-- The table after the audio stream's START, STOP and START again. -/
def restartedRun : LockRun :=
  LockRun.steps { mutexes := true, threads := true }
    [.registerChannel 4 .audioData true, .openChannel 4 true, .closeChannel 4,
      .openChannel 4 true]

theorem restarted_channel_unlocked :
    ¬Disciplined { mutexes := true, threads := true } restartedRun := by
  intro hdisciplined
  have hlocked := hdisciplined.locked 4
    { id := 4, handler := .audioData, threadStarted := true, isOpen := true } (by decide) rfl rfl
  exact absurd hlocked (by decide)

end AudioStudio.Controller
