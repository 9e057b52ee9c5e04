import AudioStudio.Simulator.Agreement
import AudioStudio.Simulator.Allocation

/-!
# Who owns a slot

Any number of sessions share the controller, and their calls interleave command by
command.  A slot is owned by the session that was told its id.  The two exchanges that
break this are those whose loss the host does not follow up: an OPEN that the controller
has granted, and a CLOSE that it never saw.
-/

namespace AudioStudio.Simulator

open AudioStudio.Common
open AudioStudio.Controller
open AudioStudio.Transport
open LittleEndian
open Wire

/-! ## The system -/

/-- The calls of a session, also before it has been opened. -/
inductive SessionAction where
  | openDevice (deviceName : Bytes)
  | opened (call : SessionCall)
  deriving DecidableEq, Repr

def SessionAction.opens : SessionAction → Bool
  | .openDevice _ => true
  | .opened _ => false

def SessionAction.run (session : SimulatorAudioSession) :
    SessionAction → HostProc SimulatorAudioSession
  | .openDevice deviceName => do
      let (_, session) ← session.openDevice deviceName
      pure session
  | .opened call => call.run session

/-- What a session is doing: nothing, or what is left of a call. -/
inductive Task where
  | idle (session : SimulatorAudioSession)
  | busy (action : SessionAction) (session : SimulatorAudioSession)
      (program : HostProc SimulatorAudioSession)

structure HostSystem (ι τ : Type) where
  tasks : ι → Task
  link : LinkWorld τ

/-- A session begins a call, has one command answered, or returns. -/
inductive HostEvent (ι : Type) where
  | begin (session : ι) (action : SessionAction)
  | act (session : ι) (outcome : LinkOutcome)
  | finish (session : ι)
  deriving DecidableEq, Repr

namespace HostSystem

variable {ι τ : Type} [DecidableEq ι]

def setTask (system : HostSystem ι τ) (i : ι) (task : Task) : HostSystem ι τ :=
  { system with tasks := Function.update system.tasks i task }

def step (environment : Environment τ) (system : HostSystem ι τ) :
    HostEvent ι → Option (HostSystem ι τ)
  | .begin i action =>
      match system.tasks i with
      | .idle session => some (system.setTask i (.busy action session (action.run session)))
      | .busy _ _ _ => none
  | .act i outcome =>
      match system.tasks i with
      | .busy action session (.call cmd next) =>
          match LinkWorld.handle environment outcome cmd system.link with
          | some (reply, link) =>
              some ({ system with link := link }.setTask i (.busy action session (next reply)))
          | none => none
      | _ => none
  | .finish i =>
      match system.tasks i with
      | .busy _ _ (.done session) => some (system.setTask i (.idle session))
      | _ => none

def runEvents (environment : Environment τ) :
    List (HostEvent ι) → HostSystem ι τ → Option (HostSystem ι τ)
  | [], system => some system
  | event :: events, system => (system.step environment event).bind (runEvents environment events)

end HostSystem

/-! ## Losses that are not followed up -/

/-- Of the exchanges, an OPEN may lose its response only if the controller refuses it,
and a CLOSE its request only if there is nothing to close. -/
def SafeCmd {τ : Type} (outcome : LinkOutcome) (world : LinkWorld τ) : HostCmd → Prop
  | .sendSync _ commandId payload _ =>
      (commandId = acTransportAudioOpen → outcome = .responseLost →
        OpenRefused world.controller.audio payload) ∧
      (commandId = acTransportAudioClose → outcome = .requestLost →
        acAudioFindStream world.controller.audio (word32 payload 0) = none)
  | _ => True

section Safe

variable {ι τ : Type} [DecidableEq ι]

def SafeEvent (system : HostSystem ι τ) : HostEvent ι → Prop
  | .act i outcome =>
      match system.tasks i with
      | .busy _ _ (.call cmd _) => SafeCmd outcome system.link cmd
      | _ => True
  | _ => True

/-- Every event is safe in the state that those before it lead to. -/
def SafeEvents (environment : Environment τ) : List (HostEvent ι) → HostSystem ι τ → Prop
  | [], _ => True
  | event :: events, system => SafeEvent system event ∧
      ∀ system', system.step environment event = some system' →
        SafeEvents environment events system'

end Safe

section Lossless

variable {ι τ : Type} [DecidableEq ι] {environment : Environment τ}

/-- The exchange that the event makes, if it makes one, is not lost. -/
def HostEvent.lossless : HostEvent ι → Bool
  | .act _ outcome => outcome = .delivered
  | _ => true

theorem safe_of_delivered {events : List (HostEvent ι)}
    (hlossless : ∀ event ∈ events, event.lossless = true) {system : HostSystem ι τ} :
    SafeEvents environment events system := by
  induction events generalizing system with
  | nil => trivial
  | cons event events ih =>
      refine ⟨?_, fun system' _ => ih fun other hmem => hlossless other (List.mem_cons_of_mem event hmem)⟩
      have hevent := hlossless event List.mem_cons_self
      cases event with
      | begin i action => trivial
      | finish i => trivial
      | act i outcome =>
          obtain rfl : outcome = .delivered := of_decide_eq_true hevent
          unfold SafeEvent
          dsimp only
          split
          · next cmd _ _ => cases cmd <;> first | trivial | exact ⟨nofun, nofun⟩
          · trivial

end Lossless

/-! ## What a session holds -/

/-- The slots that a session owns, and whether it has asked for one. -/
structure Holding where
  slots : Set SlotIndex
  asked : Bool := false

/-- What a command does to the slots of the session that gives it. -/
def allocation : Effect HostReply Holding
  | .sendSync _ commandId payload _, before, reply, after =>
      if commandId = acTransportAudioOpen then
        after.asked = true ∧ (after.slots = before.slots ∨ ∃ index frame,
          reply = .ok frame ∧ frame.flags &&& kTransportFrameError = 0 ∧
          frame.payload = le32 (slotId index) ∧ after.slots = insert index before.slots)
      else after.asked = before.asked ∧
        after.slots = before.slots \ {index | FreedBy commandId payload index}
  | _, before, _, after => after = before

/-- The session knows the slots that it owns. -/
structure Owns (session : SimulatorAudioSession) (slots : Set SlotIndex) : Prop where
  held : ∀ index ∈ slots, session.isOpen = true ∧ session.streamId = slotId index
  manager : session.isOpen = true → session.hasManager = true

section Programs

variable {session session' : SimulatorAudioSession} {holding after : Holding}

theorem Owns.same (howns : Owns session holding.slots) (hopen : session'.isOpen = session.isOpen)
    (hid : session'.streamId = session.streamId)
    (hmanager : session'.hasManager = session.hasManager) : Owns session' holding.slots where
  held := fun index hmem => by
    rw [hopen, hid]
    exact howns.held index hmem
  manager := fun hisOpen => by
    rw [hmanager]
    exact howns.manager (hopen ▸ hisOpen)

variable {commandId : UInt16}

theorem allocation_same {channelId : UInt16} {payload : Bytes} {timeoutMs : UInt32}
    (hopen : commandId ≠ acTransportAudioOpen) (hclose : commandId ≠ acTransportAudioClose)
    {reply : Result TransportFrame}
    (heffect : allocation (.sendSync channelId commandId payload timeoutMs) holding reply after) :
    after = holding := by
  unfold allocation at heffect
  dsimp only at heffect
  rw [if_neg hopen] at heffect
  have hnone : {index | FreedBy commandId payload index} = (∅ : Set SlotIndex) :=
    Set.eq_empty_of_forall_notMem fun _ hfreed => hclose hfreed.1
  rw [hnone, Set.sdiff_empty] at heffect
  cases holding
  cases after
  simp only at heffect
  rw [heffect.1, heffect.2]

/-- An exchange of another command than OPEN and CLOSE. -/
theorem control_keeps (hopen : commandId ≠ acTransportAudioOpen)
    (hclose : commandId ≠ acTransportAudioClose) (payload : Bytes) (fallback : String) :
    (control commandId payload fallback).Ensures allocation holding
      fun _ after => after = holding := by
  unfold control exchange
  refine Proc.ensures_request_bind.mpr ?_
  intro reply after heffect
  obtain rfl := allocation_same hopen hclose heffect
  cases reply with
  | error status => exact rfl
  | ok frame =>
      dsimp only
      cases transportPayloadStatus frame fallback with
      | error status => exact rfl
      | ok => exact rfl

/-- A call that asks for nothing leaves the slots with the session. -/
abbrev Kept (holding : Holding) (session : SimulatorAudioSession) (after : Holding) : Prop :=
  after = holding ∧ Owns session holding.slots

theorem prepare_owns (howns : Owns session holding.slots) (params : AudioStreamParams) :
    (session.prepare params).Ensures allocation holding
      fun result after => Kept holding result.2 after := by
  unfold SimulatorAudioSession.prepare
  split
  · exact ⟨rfl, howns⟩
  cases validateStreamParams params with
  | error status => exact ⟨rfl, howns⟩
  | ok =>
      refine (control_keeps (by decide) (by decide) _ _).bind ?_
      rintro response _ rfl
      cases response with
      | error status => exact ⟨rfl, howns.same rfl rfl rfl⟩
      | ok frame => exact ⟨rfl, howns.same rfl rfl rfl⟩

theorem start_owns (howns : Owns session holding.slots) :
    session.start.Ensures allocation holding fun result after => Kept holding result.2 after := by
  unfold SimulatorAudioSession.start
  split
  · exact ⟨rfl, howns⟩
  split
  · exact ⟨rfl, howns⟩
  refine (control_keeps (by decide) (by decide) _ _).bind ?_
  rintro response _ rfl
  cases response with
  | error status => exact ⟨rfl, howns⟩
  | ok frame =>
      dsimp only
      split
      · exact ⟨rfl, howns⟩
      refine Proc.ensures_request_bind.mpr ?_
      rintro status _ rfl
      cases status with
      | ok => exact ⟨rfl, howns.same rfl rfl rfl⟩
      | error status =>
          refine Proc.ensures_request_bind.mpr ?_
          intro reply after heffect
          obtain rfl := allocation_same (by decide) (by decide) heffect
          exact ⟨rfl, howns.same rfl rfl rfl⟩

theorem stop_owns (howns : Owns session holding.slots) :
    session.stop.Ensures allocation holding fun result after =>
      Kept holding result.2 after ∧ result.2.streamId = session.streamId := by
  unfold SimulatorAudioSession.stop
  dsimp only
  split
  · exact ⟨⟨rfl, howns⟩, rfl⟩
  split
  · exact ⟨⟨rfl, howns.same rfl rfl rfl⟩, rfl⟩
  refine (control_keeps (by decide) (by decide) _ _).bind ?_
  rintro response _ rfl
  cases response with
  | error status => exact ⟨⟨rfl, howns⟩, rfl⟩
  | ok frame =>
      dsimp only
      split
      · refine Proc.ensures_request_bind.mpr ?_
        rintro _ _ rfl
        exact ⟨⟨rfl, howns.same rfl rfl rfl⟩, rfl⟩
      · exact ⟨⟨rfl, howns.same rfl rfl rfl⟩, rfl⟩

theorem stopIfRunning_owns (howns : Owns session holding.slots) :
    session.stopIfRunning.Ensures allocation holding fun session' after =>
      Kept holding session' after ∧ session'.streamId = session.streamId := by
  unfold SimulatorAudioSession.stopIfRunning
  split
  · exact (stop_owns howns).bind fun _ _ hkept => hkept
  · exact ⟨⟨rfl, howns⟩, rfl⟩

theorem closeDataChannel_owns (howns : Owns session holding.slots) :
    session.closeDataChannel.Ensures allocation holding fun session' after =>
      Kept holding session' after ∧ session'.streamId = session.streamId := by
  unfold SimulatorAudioSession.closeDataChannel
  split
  · refine Proc.ensures_request_bind.mpr ?_
    rintro _ _ rfl
    exact ⟨⟨rfl, howns.same rfl rfl rfl⟩, rfl⟩
  · exact ⟨⟨rfl, howns⟩, rfl⟩

/-- A closed session has no slot. -/
structure Emptied (holding : Holding) (session : SimulatorAudioSession) (after : Holding) :
    Prop where
  isOpen : session.isOpen = false
  slots : after.slots = ∅
  asked : after.asked = holding.asked

theorem release_ensures :
    session.release.Ensures allocation holding fun _ after => after = holding := by
  unfold SimulatorAudioSession.release
  split
  · refine Proc.ensures_request_bind.mpr ?_
    rintro _ _ rfl
    exact rfl
  · exact rfl

/-- What a session that gives up its stream id has left. -/
theorem disconnect_empties (howns : Owns session holding.slots) :
    session.disconnect.Ensures allocation holding fun _ after =>
      after.slots = ∅ ∧ after.asked = holding.asked := by
  unfold SimulatorAudioSession.disconnect
  refine (stopIfRunning_owns howns).bind ?_
  rintro stopped _ ⟨⟨rfl, hstopped⟩, _⟩
  refine (closeDataChannel_owns hstopped).bind ?_
  rintro quiet owned ⟨⟨rfl, hquiet⟩, _⟩
  split
  · refine Proc.ensures_request_bind.mpr ?_
    rintro reply after heffect
    have hempty : after.slots = ∅ ∧ after.asked = owned.asked := by
      unfold allocation at heffect
      dsimp only at heffect
      rw [if_neg (by decide)] at heffect
      refine ⟨?_, heffect.1⟩
      rw [heffect.2]
      refine Set.sdiff_eq_empty.mpr fun index hmem => ⟨rfl, ?_⟩
      rw [(hquiet.held index hmem).2]
    refine release_ensures.mono ?_
    rintro _ _ rfl
    exact hempty
  · next hid =>
      have hempty : owned.slots = ∅ := Set.eq_empty_of_forall_notMem fun index hmem => by
        have hheld := (hquiet.held index hmem).2
        exact slotId_ne_zero index (hheld.symm.trans (not_not.mp hid))
      refine release_ensures.mono ?_
      rintro _ _ rfl
      exact ⟨hempty, rfl⟩

theorem close_empties (howns : Owns session holding.slots) :
    session.close.Ensures allocation holding fun session' after =>
      Emptied holding session' after := by
  unfold SimulatorAudioSession.close
  split
  · exact (disconnect_empties howns).bind fun _ _ hempty => ⟨rfl, hempty.1, hempty.2⟩
  · next hmanager =>
      have hempty : holding.slots = ∅ := Set.eq_empty_of_forall_notMem fun index hmem =>
        hmanager (howns.manager (howns.held index hmem).1)
      exact ⟨rfl, hempty, rfl⟩

theorem Owns.of_empty (hslots : holding.slots = ∅)
    (hmanager : session.isOpen = true → session.hasManager = true) :
    Owns session holding.slots :=
  ⟨fun index hmem => absurd hmem (hslots ▸ Set.notMem_empty index), hmanager⟩

theorem giveUp_owns (hclosed : session.isOpen = false) (hslots : holding.slots = ∅)
    (status : Status) : (session.giveUp status).Ensures allocation holding
      fun result after => Owns result.2 after.slots := by
  unfold SimulatorAudioSession.giveUp
  refine Proc.ensures_request_bind.mpr ?_
  rintro _ _ rfl
  exact Owns.of_empty hslots fun hopen => absurd (hclosed.symm.trans hopen) Bool.false_ne_true

theorem openDevice_owns (howns : Owns session holding.slots) (deviceName : Bytes) :
    (session.openDevice deviceName).Ensures allocation holding
      fun result after => Owns result.2 after.slots := by
  unfold SimulatorAudioSession.openDevice
  split
  · exact howns
  refine (close_empties howns).bind ?_
  rintro closed empty ⟨hclosed, hslots, _⟩
  have hstill : ∀ session' : SimulatorAudioSession, session'.isOpen = closed.isOpen →
      Owns session' empty.slots := fun session' hsame =>
    Owns.of_empty hslots fun hopen =>
      absurd ((hsame.trans hclosed).symm.trans hopen) Bool.false_ne_true
  dsimp only
  refine Proc.ensures_request_bind.mpr ?_
  rintro configured _ rfl
  split
  · exact hstill _ rfl
  refine Proc.ensures_request_bind.mpr ?_
  rintro status _ rfl
  cases status with
  | error status => exact hstill _ rfl
  | ok =>
      dsimp only
      unfold control exchange
      rw [Proc.bind_assoc]
      refine Proc.ensures_request_bind.mpr ?_
      intro reply after heffect
      unfold allocation at heffect
      dsimp only at heffect
      rw [if_pos rfl, hslots] at heffect
      obtain ⟨_, hnone | ⟨index, frame, rfl, hflags, hpayload, hslot⟩⟩ := heffect
      · cases reply with
        | error status => exact giveUp_owns (by exact hclosed) hnone status
        | ok frame =>
            dsimp only
            cases transportPayloadStatus frame "audio open failed" with
            | error status => exact giveUp_owns (by exact hclosed) hnone status
            | ok =>
                dsimp only [Proc.pure_eq, Proc.done_bind]
                split
                · exact giveUp_owns (by exact hclosed) hnone _
                · exact Owns.of_empty hnone fun _ => rfl
      · dsimp only
        unfold transportPayloadStatus
        rw [if_pos hflags]
        dsimp only [Proc.pure_eq, Proc.done_bind]
        rw [hpayload, if_neg (by simp)]
        refine ⟨fun other hmem => ⟨rfl, ?_⟩, fun _ => rfl⟩
        rw [hslot] at hmem
        obtain rfl | hmem := hmem
        · exact word32_le32 (slotId other) []
        · exact absurd hmem (Set.notMem_empty other)

/-- What a call may leave: only one that opens asks for a slot. -/
def Leaves (action : SessionAction) (session : SimulatorAudioSession) (after : Holding) : Prop :=
  Owns session after.slots ∧ (after.asked = true → action.opens = true)

theorem Kept.leaves {action : SessionAction} (hkept : Kept holding session after)
    (hasked : holding.asked = false) : Leaves action session after := by
  obtain ⟨rfl, howns⟩ := hkept
  exact ⟨howns, fun hopened => absurd (hasked.symm.trans hopened) Bool.false_ne_true⟩

theorem action_leaves (howns : Owns session holding.slots) (hasked : holding.asked = false)
    (action : SessionAction) :
    (action.run session).Ensures allocation holding (Leaves action) := by
  cases action with
  | openDevice deviceName =>
      exact (openDevice_owns howns deviceName).bind fun _ _ howns' => ⟨howns', fun _ => rfl⟩
  | opened call =>
      cases call with
      | prepare params =>
          exact (prepare_owns howns params).bind fun _ _ hkept => hkept.leaves hasked
      | start => exact (start_owns howns).bind fun _ _ hkept => hkept.leaves hasked
      | stop => exact (stop_owns howns).bind fun _ _ hkept => hkept.1.leaves hasked
      | close =>
          refine (close_empties howns).mono ?_
          rintro closed after ⟨hclosed, hslots, hsame⟩
          refine ⟨Owns.of_empty hslots fun hopen =>
            absurd (hclosed.symm.trans hopen) Bool.false_ne_true, fun hopened => ?_⟩
          exact absurd ((hsame.trans hasked).symm.trans hopened) Bool.false_ne_true

/-- Every command can be answered, and what has been asked for stays so. -/
theorem exists_allocation (cmd : HostCmd) (hasked : holding.asked = true) :
    ∃ reply after, allocation cmd holding reply after ∧ after.asked = true := by
  cases cmd with
  | isDataLinkConfigured => exact ⟨true, holding, rfl, hasked⟩
  | acquireAudioControlChannel => exact ⟨.ok (), holding, rfl, hasked⟩
  | releaseAudioControlChannel => exact ⟨(), holding, rfl, hasked⟩
  | openChannel id service => exact ⟨.ok (), holding, rfl, hasked⟩
  | closeChannel id => exact ⟨(), holding, rfl, hasked⟩
  | sendSync channelId commandId payload timeoutMs =>
      by_cases hopen : commandId = acTransportAudioOpen
      · refine ⟨.error LinkWorld.timedOut, { holding with asked := true }, ?_, rfl⟩
        exact (if_pos hopen).mpr ⟨rfl, Or.inl rfl⟩
      · refine ⟨.error LinkWorld.timedOut,
          { holding with slots := holding.slots \ {index | FreedBy commandId payload index} }, ?_,
          hasked⟩
        exact (if_neg hopen).mpr ⟨rfl, rfl⟩

/-- Who has asked for a slot is in a call that opens. -/
theorem asked_opens {action : SessionAction} {program : HostProc SimulatorAudioSession}
    (hleaves : program.Ensures allocation holding (Leaves action)) (hasked : holding.asked = true) :
    action.opens = true := by
  induction program generalizing holding with
  | done session => exact hleaves.2 hasked
  | call cmd next ih =>
      obtain ⟨reply, after, heffect, hstill⟩ := exists_allocation cmd hasked
      exact ih reply (hleaves reply after heffect) hstill
  | fault => exact hleaves.elim
  | spent => exact hleaves.elim

variable {cmd : HostCmd} {reply : HostReply cmd}

theorem allocation_subset (heffect : allocation cmd holding reply after) :
    after.slots ⊆ holding.slots ∨ after.asked = true := by
  cases cmd with
  | sendSync channelId commandId payload timeoutMs =>
      by_cases hopen : commandId = acTransportAudioOpen
      · exact Or.inr ((if_pos hopen).mp heffect).1
      · refine Or.inl ?_
        rw [((if_neg hopen).mp heffect).2]
        exact Set.sdiff_subset
  | _ =>
      obtain rfl : after = holding := heffect
      exact Or.inl subset_rfl

end Programs

/-! ## One command -/

section Commands

variable {τ : Type} {environment : Environment τ} {outcome : LinkOutcome}
  {world world' : LinkWorld τ}

theorem acquire_controller : world.acquireAudioControlChannel.2.controller = world.controller := by
  unfold LinkWorld.acquireAudioControlChannel
  split
  · split <;> rfl
  · rfl

theorem openChannel_controller (id : UInt16) (service : String) :
    (world.openChannel id service).2.controller = world.controller := by
  unfold LinkWorld.openChannel
  split <;> rfl

/-- The session that gives a command and the slots, side by side: what the controller has
given out is either the session's, or was out before and not the session's. -/
structure Follows {τ : Type} (cmd : HostCmd) (reply : HostReply cmd) (holding after : Holding)
    (world world' : LinkWorld τ) : Prop where
  effect : allocation cmd holding reply after
  numbered : Numbered world'.controller.control
  covered : ∀ index, world'.Allocated index →
    index ∈ after.slots ∨ world.Allocated index ∧ index ∉ holding.slots

/-- A command that does not reach the controller. -/
theorem Follows.of_same (hnumbered : Numbered world.controller.control) {cmd : HostCmd}
    {reply : HostReply cmd} {holding : Holding} (heffect : allocation cmd holding reply holding)
    (hsame : world'.controller = world.controller) : Follows cmd reply holding holding world world' where
  effect := heffect
  numbered := hsame ▸ hnumbered
  covered := fun index hallocated => by
    unfold LinkWorld.Allocated at hallocated
    rw [hsame] at hallocated
    by_cases hmem : index ∈ holding.slots
    · exact Or.inl hmem
    · exact Or.inr ⟨hallocated, hmem⟩

theorem sendSync_follows (hnumbered : Numbered world.controller.control) {channelId commandId : UInt16}
    {payload : Bytes} {timeoutMs : UInt32} {response : Result TransportFrame}
    (hsafe : SafeCmd outcome world (.sendSync channelId commandId payload timeoutMs))
    (hnumbered' : Numbered world'.controller.control)
    (hexchanged : Exchanged outcome commandId payload world world' response) (holding : Holding) :
    ∃ after, Follows (.sendSync channelId commandId payload timeoutMs) response holding after
      world world' := by
  cases hexchanged with
  | kept hkept =>
      have hstays : ∀ index, world'.Allocated index → ¬ FreedBy commandId payload index := by
        intro index hallocated hfreed
        obtain ⟨hbefore, hlost⟩ := hkept index hallocated
        have hnone := hsafe.2 hfreed.1 (hlost hfreed)
        refine find_none hnumbered hnone index hbefore ?_
        rw [hfreed.2]
        exact (word32_le32 (slotId index) []).symm
      by_cases hopen : commandId = acTransportAudioOpen
      · refine ⟨{ holding with asked := true }, (if_pos hopen).mpr ⟨rfl, Or.inl rfl⟩, hnumbered', ?_⟩
        intro index hallocated
        by_cases hmem : index ∈ holding.slots
        · exact Or.inl hmem
        · exact Or.inr ⟨(hkept index hallocated).1, hmem⟩
      · refine ⟨{ holding with slots := holding.slots \ {index | FreedBy commandId payload index} },
          (if_neg hopen).mpr ⟨rfl, rfl⟩, hnumbered', ?_⟩
        intro index hallocated
        by_cases hmem : index ∈ holding.slots
        · exact Or.inl ⟨hmem, hstays index hallocated⟩
        · exact Or.inr ⟨(hkept index hallocated).1, hmem⟩
  | given index hopen haccepted hgiven hlearns =>
      have harrives : outcome ≠ .responseLost := fun hlost => haccepted (hsafe.1 hopen hlost)
      obtain ⟨frame, hresponse, hflags, hpayload⟩ := hlearns harrives
      refine ⟨⟨insert index holding.slots, true⟩, (if_pos hopen).mpr
        ⟨rfl, Or.inr ⟨index, frame, hresponse, hflags, hpayload, rfl⟩⟩, hnumbered', ?_⟩
      intro other hallocated
      by_cases hmem : other ∈ holding.slots
      · exact Or.inl (Set.mem_insert_of_mem index hmem)
      · rcases hgiven other hallocated with rfl | hbefore
        · exact Or.inl (Set.mem_insert other holding.slots)
        · exact Or.inr ⟨hbefore, hmem⟩

theorem handle_follows (hnumbered : Numbered world.controller.control) {cmd : HostCmd}
    (hsafe : SafeCmd outcome world cmd) {reply : HostReply cmd}
    (hhandle : LinkWorld.handle environment outcome cmd world = some (reply, world'))
    (holding : Holding) : ∃ after, Follows cmd reply holding after world world' := by
  cases cmd with
  | isDataLinkConfigured =>
      cases hhandle
      exact ⟨holding, Follows.of_same hnumbered rfl rfl⟩
  | acquireAudioControlChannel =>
      have hlast : world.acquireAudioControlChannel.2 = world' :=
        congrArg Prod.snd (Option.some.inj hhandle)
      exact ⟨holding, Follows.of_same hnumbered rfl (hlast ▸ acquire_controller)⟩
  | releaseAudioControlChannel =>
      cases hhandle
      exact ⟨holding, Follows.of_same hnumbered rfl release_controller⟩
  | openChannel id service =>
      have hlast : (world.openChannel id service).2 = world' :=
        congrArg Prod.snd (Option.some.inj hhandle)
      exact ⟨holding, Follows.of_same hnumbered rfl (hlast ▸ openChannel_controller id service)⟩
  | closeChannel id =>
      cases hhandle
      exact ⟨holding, Follows.of_same hnumbered rfl rfl⟩
  | sendSync channelId commandId payload timeoutMs =>
      unfold LinkWorld.handle at hhandle
      dsimp only at hhandle
      split at hhandle
      · obtain ⟨hnumbered', hexchanged⟩ := sendSync_exchanged hnumbered hhandle
        exact sendSync_follows hnumbered hsafe hnumbered' hexchanged holding
      · cases hhandle

end Commands

/-! ## Runs -/

/-- The stream id of the slot is that of the open session. -/
def SimulatorAudioSession.Holds (session : SimulatorAudioSession) (index : SlotIndex) : Prop :=
  session.isOpen = true ∧ session.streamId = slotId index

/-- The session holds the slot.  In a call it held the slot when the call began, unless
the call is one that opens. -/
def Task.Holds (index : SlotIndex) : Task → Prop
  | .idle session => session.Holds index
  | .busy action session _ => session.Holds index ∨ action.opens = true

/-- What a task is to do with the slots it owns. -/
def Task.Accounts (holding : Holding) : Task → Prop
  | .idle session => Owns session holding.slots
  | .busy action session program => program.Ensures allocation holding (Leaves action) ∧
      ∀ index ∈ holding.slots, session.Holds index ∨ action.opens = true

variable {task : Task}

theorem Task.Accounts.holds {holding : Holding} (haccounts : task.Accounts holding)
    {index : SlotIndex} (hmem : index ∈ holding.slots) : task.Holds index := by
  cases task with
  | idle session => exact haccounts.held index hmem
  | busy action session program => exact haccounts.2 index hmem

section Runs

variable {ι τ : Type} [DecidableEq ι] {environment : Environment τ}
  {system system' : HostSystem ι τ}

/-- Every slot that is given out is owned by a session. -/
structure Accounted {ι τ : Type} (system : HostSystem ι τ) (owned : ι → Holding) : Prop where
  numbered : Numbered system.link.controller.control
  covered : ∀ index, system.link.Allocated index → ∃ i, index ∈ (owned i).slots
  accounts : ∀ i, (system.tasks i).Accounts (owned i)

variable {owned : ι → Holding}

/-- One session has gone on, and the link with it. -/
theorem Accounted.update (haccounted : Accounted system owned) (i : ι)
    {holding : Holding} (htask : task.Accounts holding) {link : LinkWorld τ}
    (hnumbered : Numbered link.controller.control)
    (hcovered : ∀ index, link.Allocated index → index ∈ holding.slots ∨
      system.link.Allocated index ∧ index ∉ (owned i).slots) :
    Accounted ({ system with link := link }.setTask i task) (Function.update owned i holding) where
  numbered := hnumbered
  covered := fun index hallocated => by
    rcases hcovered index hallocated with hmem | ⟨hbefore, hnot⟩
    · exact ⟨i, by rwa [Function.update_self]⟩
    · obtain ⟨j, hmem⟩ := haccounted.covered index hbefore
      have hother : j ≠ i := by
        rintro rfl
        exact hnot hmem
      exact ⟨j, by rwa [Function.update_of_ne hother]⟩
  accounts := fun j => by
    unfold HostSystem.setTask
    dsimp only
    by_cases hother : j = i
    · subst hother
      rwa [Function.update_self, Function.update_self]
    · rw [Function.update_of_ne hother, Function.update_of_ne hother]
      exact haccounted.accounts j

/-- A task that changes nothing at the link. -/
theorem Accounted.setTask (haccounted : Accounted system owned) (i : ι) {holding : Holding}
    (htask : task.Accounts holding) (hsame : holding.slots = (owned i).slots) :
    Accounted (system.setTask i task) (Function.update owned i holding) := by
  refine haccounted.update i htask haccounted.numbered fun index hallocated => ?_
  rw [hsame]
  by_cases hmem : index ∈ (owned i).slots
  · exact Or.inl hmem
  · exact Or.inr ⟨hallocated, hmem⟩

theorem step_accounted (haccounted : Accounted system owned) {event : HostEvent ι}
    (hsafe : SafeEvent system event) (hstep : system.step environment event = some system') :
    ∃ owned', Accounted system' owned' := by
  cases event with
  | begin i action =>
      have haccounts := haccounted.accounts i
      unfold HostSystem.step at hstep
      dsimp only at hstep
      cases htask : system.tasks i with
      | busy _ _ _ =>
          rw [htask] at hstep
          cases hstep
      | idle session =>
          rw [htask] at hstep haccounts
          cases hstep
          have hstart : Task.Accounts ⟨(owned i).slots, false⟩
              (.busy action session (action.run session)) :=
            ⟨action_leaves (by exact haccounts) rfl action,
              fun index hmem => Or.inl (haccounts.held index hmem)⟩
          exact ⟨_, haccounted.setTask i hstart rfl⟩
  | act i outcome =>
      have haccounts := haccounted.accounts i
      unfold HostSystem.step at hstep
      unfold SafeEvent at hsafe
      dsimp only at hstep hsafe
      cases htask : system.tasks i with
      | idle session =>
          rw [htask] at hstep
          cases hstep
      | busy action session program =>
          rw [htask] at hstep hsafe haccounts
          cases program with
          | call cmd next =>
              dsimp only at hstep hsafe
              cases hhandle : LinkWorld.handle environment outcome cmd system.link with
              | none =>
                  rw [hhandle] at hstep
                  cases hstep
              | some answer =>
                  obtain ⟨reply, link⟩ := answer
                  rw [hhandle] at hstep
                  cases hstep
                  obtain ⟨after, heffect, hnumbered, hcovered⟩ :=
                    handle_follows haccounted.numbered hsafe hhandle (owned i)
                  have hleaves := haccounts.1 reply after heffect
                  have hgoes : Task.Accounts after (.busy action session (next reply)) := by
                    refine ⟨hleaves, fun index hmem => ?_⟩
                    rcases allocation_subset heffect with hsubset | hasked
                    · exact haccounts.2 index (hsubset hmem)
                    · exact Or.inr (asked_opens hleaves hasked)
                  exact ⟨_, haccounted.update i hgoes hnumbered hcovered⟩
          | _ => cases hstep
  | finish i =>
      have haccounts := haccounted.accounts i
      unfold HostSystem.step at hstep
      dsimp only at hstep
      cases htask : system.tasks i with
      | idle session =>
          rw [htask] at hstep
          cases hstep
      | busy action session program =>
          rw [htask] at hstep haccounts
          cases program with
          | done session' =>
              cases hstep
              have hreturns : Task.Accounts (owned i) (.idle session') := haccounts.1.1
              exact ⟨_, haccounted.setTask i hreturns rfl⟩
          | _ => cases hstep

theorem events_accounted {events : List (HostEvent ι)} (haccounted : Accounted system owned)
    (hsafe : SafeEvents environment events system)
    (hrun : HostSystem.runEvents environment events system = some system') :
    ∃ owned', Accounted system' owned' := by
  induction events generalizing system owned with
  | nil =>
      cases hrun
      exact ⟨owned, haccounted⟩
  | cons event events ih =>
      obtain ⟨middle, hstep, hrest⟩ := Option.bind_eq_some_iff.mp hrun
      obtain ⟨owned', haccounted'⟩ := step_accounted haccounted hsafe.1 hstep
      exact ih haccounted' (hsafe.2 middle hstep) hrest

/-- Nothing is given out, and every session is closed. -/
structure Initial {ι τ : Type} (system : HostSystem ι τ) : Prop where
  numbered : Numbered system.link.controller.control
  free : ∀ index, ¬ system.link.Allocated index
  closed : ∀ i, ∃ session, system.tasks i = .idle session ∧ session.isOpen = false

omit [DecidableEq ι] in
theorem Initial.accounted (hinitial : Initial system) : Accounted system fun _ => ⟨∅, false⟩ where
  numbered := hinitial.numbered
  covered := fun index hallocated => absurd hallocated (hinitial.free index)
  accounts := fun i => by
    obtain ⟨session, htask, hclosed⟩ := hinitial.closed i
    rw [htask]
    exact ⟨fun _ hmem => absurd hmem (Set.notMem_empty _),
      fun hopen => absurd (hclosed.symm.trans hopen) Bool.false_ne_true⟩

/-- In every run of safe events each slot that is given out is held by a session; so all
slots are free when all sessions are closed. -/
theorem no_slot_leaked (hinitial : Initial system) (events : List (HostEvent ι))
    (hsafe : SafeEvents environment events system)
    (hrun : HostSystem.runEvents environment events system = some system') :
    (∀ index, system'.link.Allocated index → ∃ i, (system'.tasks i).Holds index) ∧
      ((∀ i, ∃ session, system'.tasks i = .idle session ∧ session.isOpen = false) →
        ∀ index, ¬ system'.link.Allocated index) := by
  obtain ⟨owned, haccounted⟩ := events_accounted hinitial.accounted hsafe hrun
  have hheld : ∀ index, system'.link.Allocated index → ∃ i, (system'.tasks i).Holds index := by
    intro index hallocated
    obtain ⟨i, hmem⟩ := haccounted.covered index hallocated
    exact ⟨i, (haccounted.accounts i).holds hmem⟩
  refine ⟨hheld, fun hclosed index hallocated => ?_⟩
  obtain ⟨i, hholds⟩ := hheld index hallocated
  obtain ⟨session, htask, hshut⟩ := hclosed i
  rw [htask] at hholds
  exact absurd (hshut.symm.trans hholds.1) Bool.false_ne_true

end Runs

/-! ## A lost response -/

/-- One session over a link that is up, before its first call. -/
def startSystem : HostSystem Unit Unit where
  tasks := fun _ => .idle { direction := acTransportAudioDirectionPlayback }
  link := { controller := { audio := acAudioInit, surroundings := () },
            manager := { datalink := some { caps := {} } } }

theorem startSystem_initial : Initial startSystem where
  numbered := (by decide : ∀ index, (startSystem.link.controller.control index).id = slotId index ∧
    (startSystem.link.controller.control index).dataChannelId = dataChannel index)
  free := (by decide : ∀ index, ¬ (startSystem.link.controller.control index).allocated = true)
  closed := fun _ => ⟨_, rfl, rfl⟩

/-- A stream is opened and closed. -/
def cleanRun : List (HostEvent Unit) :=
  [.begin () (.openDevice (asciiBytes "pcm")), .act () .delivered, .act () .delivered,
    .act () .delivered, .finish (), .begin () (.opened .close), .act () .delivered,
    .act () .delivered, .finish ()]

/-- OPEN loses its response. -/
def lossyRun : List (HostEvent Unit) :=
  [.begin () (.openDevice (asciiBytes "pcm")), .act () .delivered, .act () .delivered,
    .act () .responseLost, .act () .delivered, .finish ()]

def Task.closed : Task → Bool
  | .idle session => !session.isOpen
  | .busy _ _ _ => false

theorem Task.closed_iff :
    task.closed = true ↔ ∃ session, task = .idle session ∧ session.isOpen = false := by
  cases task with
  | idle session =>
      constructor
      · intro hclosed
        exact ⟨session, rfl, by simpa [Task.closed] using hclosed⟩
      · rintro ⟨_, ⟨⟩, hclosed⟩
        simpa [Task.closed] using hclosed
  | busy _ _ _ => exact iff_of_false nofun nofun

/-- Whether the session is closed after the events, and whether the first slot is given out. -/
def seenAfter (events : List (HostEvent Unit)) : Option (Bool × Bool) :=
  (HostSystem.runEvents quiet events startSystem).map fun system =>
    ((system.tasks ()).closed, (system.link.controller.control firstSlot).allocated)

/-- The same stream, without a loss: all slots are free again. -/
theorem no_slot_leaked_example : ∃ system,
    HostSystem.runEvents quiet cleanRun startSystem = some system ∧
      ∀ index, ¬ system.link.Allocated index := by
  have hseen : seenAfter cleanRun = some (true, false) := by decide +kernel
  obtain ⟨system, hrun, hviews⟩ := Option.map_eq_some_iff.mp hseen
  refine ⟨system, hrun, (no_slot_leaked startSystem_initial cleanRun ?_ hrun).2 fun _ =>
    Task.closed_iff.mp (congrArg Prod.fst hviews)⟩
  exact safe_of_delivered (by decide)

/-- The session gives up, and the controller keeps the slot for it. -/
theorem lost_open_leaks : Initial startSystem ∧ ∃ system,
    HostSystem.runEvents quiet lossyRun startSystem = some system ∧
      (∀ i, ∃ session, system.tasks i = .idle session ∧ session.isOpen = false) ∧
      system.link.Allocated firstSlot := by
  have hseen : seenAfter lossyRun = some (true, true) := by decide +kernel
  obtain ⟨system, hrun, hviews⟩ := Option.map_eq_some_iff.mp hseen
  exact ⟨startSystem_initial, system, hrun,
    fun _ => Task.closed_iff.mp (congrArg Prod.fst hviews), congrArg Prod.snd hviews⟩

end AudioStudio.Simulator
