import AudioStudio.Audio.Registry

/-!
# What holds of the registry in every order of steps

Every session is in one place: with the creation that constructed it, in the map of its
direction, with the remove that took it, or closed.
-/

namespace AudioStudio.Audio

open AudioStudio.Common
open AudioStudio.Rpc (StreamDirection AudioServiceConfig validateStream)
open LittleEndian

/-! ## Where sessions are -/

/-- The session that a call holds, and the stage that it holds it in. -/
def CallState.holds : CallState → Option (Nat × Stage)
  | .register session => some (session, .constructed)
  | .discard session => some (session, .lost)
  | .closing session => some (session, .leaving)
  | _ => none

/-- The stages in which a call holds the session. -/
def Stage.IsHeld : Stage → Prop
  | .constructed | .lost | .leaving => True
  | _ => False

/-- The stages of a session that a map has taken, and of one that none takes. -/
def Stage.isRegistered : Stage → Bool
  | .live | .leaving | .removed => true
  | _ => false

def Stage.isLost : Stage → Bool
  | .lost | .discarded => true
  | _ => false

/-- A call that has decided what it returns. -/
def CallState.decided : CallState → Bool
  | .discard _ | .closing _ | .finished => true
  | _ => false

namespace AudioService

variable (service : AudioService)

def stageOf (session : Nat) : Option Stage := service.sessions[session]?.map (·.stage)

/-- How many calls hold a session in a stage. -/
def holders (session : Nat) (stage : Stage) : Nat :=
  service.calls.countP fun call => decide (call.holds = some (session, stage))

def sessionsOf : StreamDirection → Bytes → Option Nat
  | .playback => service.playbackSessions
  | .capture => service.captureSessions

/-- A session that a map ought to hold under an id. -/
def LiveAs (session : Nat) (direction : StreamDirection) (id : Bytes) : Prop :=
  ∃ object, service.sessions[session]? = some object ∧ object.stage = .live ∧
    object.stream.direction = direction ∧ object.stream.id = id

end AudioService

/-- The counters of a session follow its stage. -/
structure SessionObject.Sound (object : SessionObject) : Prop where
  closed : object.closed = true ↔ object.stage = .discarded ∨ object.stage = .removed
  removals : object.removals = if object.stage = .removed then 1 else 0
  deviceCloses : object.deviceCloses = if object.closed && object.hasDevice then 1 else 0

structure AudioService.Sound (service : AudioService) : Prop where
  tally : ∀ session stage, stage.IsHeld →
    service.holders session stage = if service.stageOf session = some stage then 1 else 0
  objects : ∀ object ∈ service.sessions, object.Sound
  maps : ∀ direction id session,
    service.sessionsOf direction id = some session ↔ service.LiveAs session direction id
  unique : ∀ session other direction direction' id, service.LiveAs session direction id →
    service.LiveAs other direction' id → session = other
  created : ∀ call id session, ⟨call, .created id session⟩ ∈ service.log →
    (service.stageOf session).any (·.isRegistered) = true
  lost : ∀ call id session, ⟨call, .lost id session⟩ ∈ service.log →
    (service.stageOf session).any (·.isLost) = true
  decides : ∀ call, service.log.countP (fun record => decide (record.call = call)) =
    if (service.calls[call]?).any (·.decided) then 1 else 0

/-! ## Lemmas -/

@[simp] theorem SessionObject.close_stream (object : SessionObject) : object.close.stream = object.stream := by
  unfold SessionObject.close
  split <;> rfl

variable {object : SessionObject}

theorem SessionObject.Sound.close_deviceCloses (hsound : object.Sound)
    (hopen : object.closed = false) :
    object.close.closed = true ∧ object.close.hasDevice = object.hasDevice ∧
      object.close.deviceCloses = if object.hasDevice then 1 else 0 := by
  have hnone := hsound.deviceCloses
  rw [hopen, Bool.false_and] at hnone
  simp [SessionObject.close, hopen, hnone]

/-- A session of a stage that is not closed is open. -/
theorem SessionObject.Sound.open_of_stage (hsound : object.Sound)
    (hdiscarded : object.stage ≠ .discarded) (hremoved : object.stage ≠ .removed) :
    object.closed = false := by
  rw [← Bool.not_eq_true, hsound.closed, not_or]
  exact ⟨hdiscarded, hremoved⟩

theorem SessionObject.Sound.setStage {stage : Stage} (hsound : object.Sound)
    (hdiscarded : object.stage ≠ .discarded) (hremoved : object.stage ≠ .removed)
    (hdiscarded' : stage ≠ .discarded) (hremoved' : stage ≠ .removed) :
    (object.setStage stage).Sound := by
  have hopen := hsound.open_of_stage hdiscarded hremoved
  constructor
  · refine iff_of_false ?_ (not_or.mpr ⟨hdiscarded', hremoved'⟩)
    exact Bool.not_eq_true _ ▸ hopen
  · have hcount := hsound.removals
    rw [if_neg hremoved] at hcount
    exact hcount.trans (if_neg hremoved').symm
  · exact hsound.deviceCloses

namespace AudioService

variable {service : AudioService} {index session other : Nat} {call call' : CallState}

theorem countP_set_add {α : Type} {items : List α} {index : Nat} {old : α}
    (hold : items[index]? = some old) (new : α) (p : α → Bool) :
    (items.set index new).countP p + (if p old then 1 else 0) =
      items.countP p + (if p new then 1 else 0) := by
  obtain ⟨hlt, rfl⟩ := List.getElem?_eq_some_iff.mp hold
  rw [List.countP_set hlt]
  have hpos : p items[index] = true → 0 < items.countP p :=
    fun hp => List.countP_pos_iff.mpr ⟨_, List.getElem_mem hlt, hp⟩
  by_cases hbefore : p items[index] = true
  · have hcount := hpos hbefore
    rw [if_pos hbefore]
    omega
  · rw [if_neg hbefore, Nat.sub_zero, Nat.add_zero]

variable {service' : AudioService}

/-- A session changes hands when the call that held it lets go of it in the same step. -/
theorem tally_set (htally : ∀ session stage, stage.IsHeld →
      service.holders session stage = if service.stageOf session = some stage then 1 else 0)
    (hcall : service.calls[index]? = some call)
    (hcalls : service'.calls = service.calls.set index call')
    (hstages : ∀ session stage, stage.IsHeld →
      (if call.holds = some (session, stage) then 1 else 0) +
          (if service'.stageOf session = some stage then 1 else 0) =
        (if service.stageOf session = some stage then 1 else 0) +
          (if call'.holds = some (session, stage) then 1 else 0))
    (session : Nat) (stage : Stage) (hheld : stage.IsHeld) :
    service'.holders session stage = if service'.stageOf session = some stage then 1 else 0 := by
  have hset := countP_set_add hcall call' fun call => decide (call.holds = some (session, stage))
  have hbefore := htally session stage hheld
  have hmoved := hstages session stage hheld
  unfold holders at hbefore ⊢
  rw [hcalls]
  simp only [decide_eq_true_eq] at hset
  omega

variable {stage : Stage}

/-- The call that holds a session tells its stage. -/
theorem Sound.stage_of_holds (hsound : service.Sound) (hcall : service.calls[index]? = some call)
    (hheld : stage.IsHeld) (hholds : call.holds = some (session, stage)) :
    service.stageOf session = some stage := by
  by_contra hother
  have hnone := hsound.tally session stage hheld
  rw [if_neg hother, holders, List.countP_eq_zero] at hnone
  exact hnone call (List.mem_of_getElem? hcall) (decide_eq_true hholds)

theorem stageOf_modify (change : SessionObject → SessionObject) (stage : Stage)
    (hstage : ∀ object, (change object).stage = stage) :
    (service.modifySession session change).stageOf other =
      if session = other then (service.stageOf other).map fun _ => stage
      else service.stageOf other := by
  unfold stageOf modifySession
  rw [List.getElem?_modify]
  split
  · cases service.sessions[other]? with
    | none => rfl
    | some object => exact congrArg some (hstage object)
  · cases service.sessions[other]? <;> rfl

variable {direction : StreamDirection} {id : Bytes}

theorem liveAs_modify {change : SessionObject → SessionObject}
    (hstage : ∀ object, (change object).stage = stage)
    (hstream : ∀ object, (change object).stream = object.stream) :
    (service.modifySession session change).LiveAs other direction id ↔
      if session = other then stage = .live ∧ ∃ object, service.sessions[other]? = some object ∧
        object.stream.direction = direction ∧ object.stream.id = id
      else service.LiveAs other direction id := by
  unfold LiveAs modifySession
  simp only [List.getElem?_modify]
  by_cases hsame : session = other
  · subst hsame
    cases service.sessions[session]? with
    | none => simp
    | some object => simp [hstage, hstream]
  · simp [hsame]

theorem sessionsOf_setSession (direction direction' : StreamDirection) (id id' : Bytes)
    (value : Option Nat) :
    (service.setSession direction id value).sessionsOf direction' id' =
      if direction = direction' ∧ id = id' then value else service.sessionsOf direction' id' := by
  cases direction <;> cases direction' <;>
    simp [setSession, sessionsOf, Function.update_apply, eq_comm]

theorem hasSessionLocked_eq_false :
    service.hasSessionLocked id = false ↔ ∀ direction, service.sessionsOf direction id = none := by
  unfold hasSessionLocked
  rw [Bool.or_eq_false_iff, Option.isSome_eq_false_iff, Option.isSome_eq_false_iff,
    Option.isNone_iff_eq_none, Option.isNone_iff_eq_none]
  constructor
  · rintro ⟨hplayback, hcapture⟩ (_ | _)
    · exact hplayback
    · exact hcapture
  · exact fun hnone => ⟨hnone .playback, hnone .capture⟩

/-! ## Steps -/

variable {records : List Record}

/-- Every call decides once. -/
theorem decides_set
    (hdecides : ∀ call, service.log.countP (fun record => decide (record.call = call)) =
      if (service.calls[call]?).any (·.decided) then 1 else 0)
    (hcall : service.calls[index]? = some call)
    (hcalls : service'.calls = service.calls.set index call')
    (hlog : service'.log = service.log ++ records)
    (hown : ∀ record ∈ records, record.call = index)
    (hcount : records.length + (if call.decided then 1 else 0) = if call'.decided then 1 else 0)
    (position : Nat) :
    service'.log.countP (fun record => decide (record.call = position)) =
      if (service'.calls[position]?).any (·.decided) then 1 else 0 := by
  rw [hlog, hcalls, List.countP_append, hdecides]
  obtain ⟨hlt, -⟩ := List.getElem?_eq_some_iff.mp hcall
  by_cases hsame : index = position
  · subst hsame
    have hall : records.countP (fun record => decide (record.call = index)) = records.length :=
      List.countP_eq_length.mpr fun record hmem => decide_eq_true (hown record hmem)
    rw [hall, hcall, List.getElem?_set_self hlt]
    simp only [Option.any_some]
    omega
  · have hnone : records.countP (fun record => decide (record.call = position)) = 0 :=
      List.countP_eq_zero.mpr fun record hmem hposition =>
        hsame ((hown record hmem).symm.trans (of_decide_eq_true hposition))
    rw [hnone, List.getElem?_set_ne hsame, Nat.add_zero]

theorem decides_append
    (hdecides : ∀ call, service.log.countP (fun record => decide (record.call = call)) =
      if (service.calls[call]?).any (·.decided) then 1 else 0)
    (hcalls : service'.calls = service.calls ++ [call'])
    (hlog : service'.log = service.log ++ records)
    (hown : ∀ record ∈ records, record.call = service.calls.length)
    (hcount : records.length = if call'.decided then 1 else 0) (position : Nat) :
    service'.log.countP (fun record => decide (record.call = position)) =
      if (service'.calls[position]?).any (·.decided) then 1 else 0 := by
  rw [hlog, hcalls, List.countP_append, hdecides]
  by_cases hsame : service.calls.length = position
  · subst hsame
    have hall : records.countP (fun record => decide (record.call = service.calls.length)) =
        records.length :=
      List.countP_eq_length.mpr fun record hmem => decide_eq_true (hown record hmem)
    rw [hall, hcount, List.getElem?_eq_none le_rfl, List.getElem?_concat_length]
    simp
  · have hnone : records.countP (fun record => decide (record.call = position)) = 0 :=
      List.countP_eq_zero.mpr fun record hmem hposition =>
        hsame ((hown record hmem).symm.trans (of_decide_eq_true hposition))
    rw [hnone, Nat.add_zero]
    obtain hless | hgreater := Nat.lt_or_gt_of_ne hsame
    · rw [List.getElem?_eq_none (Nat.le_of_lt hless), List.getElem?_eq_none]
      rw [List.length_append, List.length_singleton]
      exact hless
    · rw [List.getElem?_append_left hgreater]

theorem holders_append (hcalls : service'.calls = service.calls ++ [call'])
    (hfree : call'.holds = none) :
    service'.holders session stage = service.holders session stage := by
  rw [holders, hcalls, List.countP_append, List.countP_singleton, hfree]
  simp [holders]

/-- Records that say nothing about a session. -/
def Plain (records : List Record) : Prop :=
  ∀ record ∈ records, ∀ id session,
    record.outcome ≠ .created id session ∧ record.outcome ≠ .lost id session

theorem plain_nil : Plain [] := nofun

theorem plain_singleton {outcome : CallOutcome}
    (houtcome : ∀ id session, outcome ≠ .created id session ∧ outcome ≠ .lost id session) :
    Plain [⟨index, outcome⟩] := by
  intro record hmem id session
  obtain rfl := List.mem_singleton.mp hmem
  exact houtcome id session

theorem own_singleton {outcome : CallOutcome} :
    ∀ record ∈ [(⟨index, outcome⟩ : Record)], record.call = index := by
  intro record hmem
  obtain rfl := List.mem_singleton.mp hmem
  rfl

/-- Sessions and maps stay. -/
theorem Sound.frame {service' : AudioService} {records : List Record} (hsound : service.Sound)
    (hsessions : service'.sessions = service.sessions)
    (hplayback : service'.playbackSessions = service.playbackSessions)
    (hcapture : service'.captureSessions = service.captureSessions)
    (hlog : service'.log = service.log ++ records) (hplain : Plain records)
    (htally : ∀ session stage, stage.IsHeld →
      service'.holders session stage = if service'.stageOf session = some stage then 1 else 0)
    (hdecides : ∀ call, service'.log.countP (fun record => decide (record.call = call)) =
      if (service'.calls[call]?).any (·.decided) then 1 else 0) : service'.Sound := by
  have hstage : ∀ session, service'.stageOf session = service.stageOf session := by
    intro session
    rw [stageOf, hsessions, stageOf]
  have hlive : ∀ session direction id,
      service'.LiveAs session direction id ↔ service.LiveAs session direction id := by
    intro session direction id
    rw [LiveAs, hsessions, LiveAs]
  constructor
  · exact htally
  · rw [hsessions]
    exact hsound.objects
  · intro direction id session
    rw [hlive, ← hsound.maps]
    cases direction with
    | playback => rw [sessionsOf, hplayback, sessionsOf]
    | capture => rw [sessionsOf, hcapture, sessionsOf]
  · intro session other direction direction' id hfirst hsecond
    exact hsound.unique session other direction direction' id ((hlive _ _ _).mp hfirst)
      ((hlive _ _ _).mp hsecond)
  · intro call id session hmem
    rw [hlog, List.mem_append] at hmem
    rw [hstage]
    exact hmem.elim (hsound.created call id session) fun hnew =>
      absurd rfl (hplain _ hnew id session).1
  · intro call id session hmem
    rw [hlog, List.mem_append] at hmem
    rw [hstage]
    exact hmem.elim (hsound.lost call id session) fun hnew =>
      absurd rfl (hplain _ hnew id session).2
  · exact hdecides

/-- A call begins, and may be refused at once. -/
theorem Sound.begin (hsound : service.Sound) (hsessions : service'.sessions = service.sessions)
    (hplayback : service'.playbackSessions = service.playbackSessions)
    (hcapture : service'.captureSessions = service.captureSessions)
    (hcalls : service'.calls = service.calls ++ [call']) (hfree : call'.holds = none)
    (hlog : service'.log = service.log ++ records) (hplain : Plain records)
    (hown : ∀ record ∈ records, record.call = service.calls.length)
    (hcount : records.length = if call'.decided then 1 else 0) : service'.Sound := by
  refine hsound.frame hsessions hplayback hcapture hlog hplain ?_ ?_
  · intro session stage hheld
    rw [holders_append hcalls hfree, stageOf, hsessions]
    exact hsound.tally session stage hheld
  · exact decides_append hsound.decides hcalls hlog hown hcount

/-- A call goes on without a session. -/
theorem Sound.goOn (hsound : service.Sound) (hcall : service.calls[index]? = some call)
    (hsessions : service'.sessions = service.sessions)
    (hplayback : service'.playbackSessions = service.playbackSessions)
    (hcapture : service'.captureSessions = service.captureSessions)
    (hcalls : service'.calls = service.calls.set index call') (hbefore : call.holds = none)
    (hfree : call'.holds = none) (hlog : service'.log = service.log ++ records)
    (hplain : Plain records) (hown : ∀ record ∈ records, record.call = index)
    (hcount : records.length + (if call.decided then 1 else 0) = if call'.decided then 1 else 0) :
    service'.Sound := by
  refine hsound.frame hsessions hplayback hcapture hlog hplain ?_ ?_
  · refine tally_set hsound.tally hcall hcalls fun session stage _ => ?_
    rw [hbefore, hfree, stageOf, hsessions, stageOf]
    simp
  · exact decides_set hsound.decides hcall hcalls hlog hown hcount

/-- A creation constructs its session. -/
theorem Sound.construct {stream : Rpc.AudioStream} {hasDevice : Bool} (hsound : service.Sound)
    (hcall : service.calls[index]? = some (.opening stream)) :
    (service.construct index stream hasDevice).Sound := by
  have hstage : ∀ session, (service.construct index stream hasDevice).stageOf session =
      if service.sessions.length = session then some .constructed else service.stageOf session := by
    intro session
    rw [stageOf, AudioService.construct, setCall, List.getElem?_append]
    split_ifs with hless hsame hsame
    · omega
    · rfl
    · subst hsame
      rw [Nat.sub_self]
      rfl
    · rw [stageOf, List.getElem?_eq_none (by simp; omega), List.getElem?_eq_none (by omega)]
  have hnone : service.stageOf service.sessions.length = none := by
    rw [stageOf, List.getElem?_eq_none le_rfl]
    rfl
  have hlive : ∀ session direction id,
      (service.construct index stream hasDevice).LiveAs session direction id ↔
        service.LiveAs session direction id := by
    intro session direction id
    unfold LiveAs AudioService.construct setCall
    constructor
    · rintro ⟨object, hobject, hlive, hdirection, hid⟩
      rw [List.getElem?_append] at hobject
      split_ifs at hobject with hless
      · exact ⟨object, hobject, hlive, hdirection, hid⟩
      · rw [List.getElem?_singleton] at hobject
        split_ifs at hobject
        cases hobject
        cases hlive
    · rintro ⟨object, hobject, hrest⟩
      have hless := (List.getElem?_eq_some_iff.mp hobject).1
      exact ⟨object, (List.getElem?_append_left hless).trans hobject, hrest⟩
  constructor
  · refine tally_set hsound.tally hcall rfl fun session stage hheld => ?_
    rw [hstage]
    by_cases hsame : service.sessions.length = session
    · subst hsame
      rw [if_pos rfl, hnone]
      simp [CallState.holds]
    · rw [if_neg hsame]
      simp [CallState.holds, hsame]
  · intro object hmem
    obtain hmem | hmem := List.mem_append.mp hmem
    · exact hsound.objects object hmem
    · rw [List.mem_singleton] at hmem
      subst hmem
      constructor
      · simp
      · rfl
      · rfl
  · intro direction id session
    rw [hlive, ← hsound.maps]
    cases direction <;> rfl
  · intro session other direction direction' id hfirst hsecond
    exact hsound.unique session other direction direction' id ((hlive _ _ _).mp hfirst)
      ((hlive _ _ _).mp hsecond)
  · intro call id session hmem
    have hkept := hsound.created call id session hmem
    rw [hstage]
    split_ifs with hsame
    · rw [← hsame, hnone] at hkept
      cases hkept
    · exact hkept
  · intro call id session hmem
    have hkept := hsound.lost call id session hmem
    rw [hstage]
    split_ifs with hsame
    · rw [← hsame, hnone] at hkept
      cases hkept
    · exact hkept
  · exact decides_set hsound.decides hcall rfl (List.append_nil _).symm nofun rfl

variable {before after : Stage}

/-- A session changes its stage, together with the call that holds it and the map. -/
theorem Sound.change {change : SessionObject → SessionObject} (hsound : service.Sound)
    (hcall : service.calls[index]? = some call)
    (hbefore : service.stageOf session = some before)
    (hafter : ∀ object, (change object).stage = after)
    (hkeeps : ∀ object, object.Sound → object.stage = before → (change object).Sound)
    (hsessions : service'.sessions = (service.modifySession session change).sessions)
    (hcalls : service'.calls = service.calls.set index call')
    (hholds : ∀ other stage, stage.IsHeld →
      (call.holds = some (other, stage) ↔ session = other ∧ before = stage))
    (hholds' : ∀ other stage, stage.IsHeld →
      (call'.holds = some (other, stage) ↔ session = other ∧ after = stage))
    (hregistered : before.isRegistered = true → after.isRegistered = true)
    (hlost : before.isLost = true → after.isLost = true)
    (hmaps : ∀ direction id other, service'.sessionsOf direction id = some other ↔
      (service.modifySession session change).LiveAs other direction id)
    (hunique : ∀ first second direction direction' id,
      (service.modifySession session change).LiveAs first direction id →
        (service.modifySession session change).LiveAs second direction' id → first = second)
    (hlog : service'.log = service.log ++ records)
    (hrecords : ∀ record ∈ records, ∀ id other,
      (record.outcome = .created id other → session = other ∧ after.isRegistered = true) ∧
        (record.outcome = .lost id other → session = other ∧ after.isLost = true))
    (hown : ∀ record ∈ records, record.call = index)
    (hcount : records.length + (if call.decided then 1 else 0) = if call'.decided then 1 else 0) :
    service'.Sound := by
  have hstage : ∀ other, service'.stageOf other =
      if session = other then some after else service.stageOf other := by
    intro other
    have hmodified : (service.modifySession session change).stageOf other = _ :=
      stageOf_modify change after hafter
    rw [stageOf, hsessions]
    unfold stageOf at hmodified ⊢
    rw [hmodified]
    split_ifs with hsame
    · subst hsame
      unfold stageOf at hbefore
      rw [hbefore]
      rfl
    · rfl
  have hlive : ∀ other direction id, service'.LiveAs other direction id ↔
      (service.modifySession session change).LiveAs other direction id := by
    intro other direction id
    rw [LiveAs, hsessions, LiveAs]
  constructor
  · refine tally_set hsound.tally hcall hcalls fun other stage hheld => ?_
    rw [hstage]
    simp only [hholds other stage hheld, hholds' other stage hheld]
    by_cases hsame : session = other
    · subst hsame
      simp only [true_and, if_true, hbefore, Option.some.injEq]
    · simp [hsame]
  · rw [hsessions]
    intro object hmem
    obtain ⟨position, hposition⟩ := List.mem_iff_getElem?.mp hmem
    rw [modifySession, List.getElem?_modify] at hposition
    by_cases hsame : session = position
    · subst hsame
      simp only [if_true] at hposition
      obtain ⟨old, hold, rfl⟩ := Option.map_eq_some_iff.mp hposition
      have holdStage : old.stage = before := by
        rw [stageOf, hold] at hbefore
        exact Option.some.inj hbefore
      exact hkeeps old (hsound.objects old (List.mem_of_getElem? hold)) holdStage
    · simp only [if_neg hsame, Option.map_eq_map, Option.map_id'] at hposition
      exact hsound.objects object (List.mem_of_getElem? hposition)
  · intro direction id other
    rw [hlive, hmaps]
  · intro first second direction direction' id hfirst hsecond
    exact hunique first second direction direction' id ((hlive _ _ _).mp hfirst)
      ((hlive _ _ _).mp hsecond)
  · intro call id other hmem
    rw [hlog, List.mem_append] at hmem
    rw [hstage]
    obtain hmem | hmem := hmem
    · have hkept := hsound.created call id other hmem
      split_ifs with hsame
      · subst hsame
        rw [hbefore] at hkept
        exact hregistered hkept
      · exact hkept
    · obtain ⟨rfl, hnew⟩ := (hrecords _ hmem id other).1 rfl
      rw [if_pos rfl]
      exact hnew
  · intro call id other hmem
    rw [hlog, List.mem_append] at hmem
    rw [hstage]
    obtain hmem | hmem := hmem
    · have hkept := hsound.lost call id other hmem
      split_ifs with hsame
      · subst hsame
        rw [hbefore] at hkept
        exact hlost hkept
      · exact hkept
    · obtain ⟨rfl, hnew⟩ := (hrecords _ hmem id other).2 rfl
      rw [if_pos rfl]
      exact hnew
  · exact decides_set hsound.decides hcall hcalls hlog hown hcount

/-- What was not live and does not become live is in no map before and behind the step. -/
theorem liveAs_quiet {change : SessionObject → SessionObject}
    (hbefore : service.stageOf session = some before) (hquiet : before ≠ .live)
    (hafter : ∀ object, (change object).stage = after) (hquiet' : after ≠ .live)
    (hstream : ∀ object, (change object).stream = object.stream) :
    (service.modifySession session change).LiveAs other direction id ↔
      service.LiveAs other direction id := by
  rw [liveAs_modify hafter hstream]
  split_ifs with hsame
  · subst hsame
    refine iff_of_false (fun hlive => hquiet' hlive.1) ?_
    rintro ⟨object, hobject, hlive, -⟩
    rw [stageOf, hobject] at hbefore
    exact hquiet ((Option.some.inj hbefore).symm.trans hlive)
  · rfl

/-- A session that no map takes, holds or gives up changes its stage. -/
theorem Sound.changeQuiet {change : SessionObject → SessionObject}
    (hsound : service.Sound)
    (hcall : service.calls[index]? = some call)
    (hbefore : service.stageOf session = some before) (hquiet : before ≠ .live)
    (hafter : ∀ object, (change object).stage = after) (hquiet' : after ≠ .live)
    (hstream : ∀ object, (change object).stream = object.stream)
    (hkeeps : ∀ object, object.Sound → object.stage = before → (change object).Sound)
    (hsessions : service'.sessions = (service.modifySession session change).sessions)
    (hplayback : service'.playbackSessions = service.playbackSessions)
    (hcapture : service'.captureSessions = service.captureSessions)
    (hcalls : service'.calls = service.calls.set index call')
    (hholds : ∀ other stage, stage.IsHeld →
      (call.holds = some (other, stage) ↔ session = other ∧ before = stage))
    (hholds' : ∀ other stage, stage.IsHeld →
      (call'.holds = some (other, stage) ↔ session = other ∧ after = stage))
    (hregistered : before.isRegistered = true → after.isRegistered = true)
    (hlost : before.isLost = true → after.isLost = true)
    (hlog : service'.log = service.log ++ records)
    (hrecords : ∀ record ∈ records, ∀ id other,
      (record.outcome = .created id other → session = other ∧ after.isRegistered = true) ∧
        (record.outcome = .lost id other → session = other ∧ after.isLost = true))
    (hown : ∀ record ∈ records, record.call = index)
    (hcount : records.length + (if call.decided then 1 else 0) = if call'.decided then 1 else 0) :
    service'.Sound := by
  refine hsound.change hcall hbefore hafter hkeeps hsessions hcalls hholds hholds' hregistered hlost
    ?_ ?_ hlog hrecords hown hcount
  · intro direction id other
    rw [liveAs_quiet hbefore hquiet hafter hquiet' hstream, ← hsound.maps]
    cases direction with
    | playback => rw [sessionsOf, hplayback, sessionsOf]
    | capture => rw [sessionsOf, hcapture, sessionsOf]
  · intro first second direction direction' id hfirst hsecond
    rw [liveAs_quiet hbefore hquiet hafter hquiet' hstream] at hfirst hsecond
    exact hsound.unique first second direction direction' id hfirst hsecond

/-! ### The sections of a call -/

theorem Sound.lose {stream : Rpc.AudioStream} (hsound : service.Sound)
    (hcall : service.calls[index]? = some (.register session)) :
    (((service.modifySession session (·.setStage .lost)).setCall index (.discard session)).record
      index (.lost stream.id session)).Sound := by
  have hbefore : service.stageOf session = some .constructed :=
    hsound.stage_of_holds hcall trivial rfl
  have hafter : ∀ object : SessionObject, (object.setStage .lost).stage = .lost := fun _ => rfl
  refine hsound.changeQuiet hcall hbefore nofun hafter nofun (fun _ => rfl) ?_ rfl rfl rfl
    rfl ?_ ?_ nofun (fun _ => rfl) rfl ?_ own_singleton rfl
  · intro object hobject hstage
    exact hobject.setStage (by simp [hstage]) (by simp [hstage]) nofun nofun
  · exact fun other stage _ => Option.some_inj.trans Prod.mk_inj
  · exact fun other stage _ => Option.some_inj.trans Prod.mk_inj
  · intro record hmem id other
    obtain rfl := List.mem_singleton.mp hmem
    exact ⟨nofun, fun heq => by cases heq; exact ⟨rfl, rfl⟩⟩

theorem Sound.discard (hsound : service.Sound)
    (hcall : service.calls[index]? = some (.discard session)) :
    ((service.modifySession session SessionObject.destroy).setCall index .finished).Sound := by
  have hbefore : service.stageOf session = some .lost :=
    hsound.stage_of_holds hcall trivial rfl
  have hafter : ∀ object : SessionObject, (object.destroy).stage = .discarded := fun _ => rfl
  refine hsound.changeQuiet hcall hbefore nofun hafter nofun SessionObject.close_stream ?_ rfl rfl rfl rfl
    ?_ ?_ nofun (fun _ => rfl) (List.append_nil _).symm nofun nofun rfl
  · intro object hobject hstage
    have hopen := hobject.open_of_stage (by simp [hstage]) (by simp [hstage])
    obtain ⟨hclosed, hdevice, hcloses⟩ := hobject.close_deviceCloses hopen
    constructor
    · exact iff_of_true hclosed (.inl rfl)
    · have hcount := hobject.removals
      rw [hstage] at hcount
      simpa [SessionObject.destroy, SessionObject.close, hopen] using hcount
    · change object.close.deviceCloses = if object.close.closed && object.close.hasDevice then 1 else 0
      rw [hcloses, hclosed, hdevice, Bool.true_and]
  · exact fun other stage _ => Option.some_inj.trans Prod.mk_inj
  · intro other stage hheld
    refine iff_of_false nofun ?_
    rintro ⟨-, rfl⟩
    exact hheld

theorem Sound.closing (hsound : service.Sound)
    (hcall : service.calls[index]? = some (.closing session)) :
    ((service.modifySession session SessionObject.closeRemoved).setCall index .finished).Sound := by
  have hbefore : service.stageOf session = some .leaving :=
    hsound.stage_of_holds hcall trivial rfl
  have hafter : ∀ object : SessionObject, (object.closeRemoved).stage = .removed := fun _ => rfl
  refine hsound.changeQuiet hcall hbefore nofun hafter nofun SessionObject.close_stream ?_ rfl rfl rfl rfl
    ?_ ?_ (fun _ => rfl) nofun (List.append_nil _).symm nofun nofun rfl
  · intro object hobject hstage
    have hopen := hobject.open_of_stage (by simp [hstage]) (by simp [hstage])
    obtain ⟨hclosed, hdevice, hcloses⟩ := hobject.close_deviceCloses hopen
    constructor
    · exact iff_of_true hclosed (.inr rfl)
    · have hcount := hobject.removals
      rw [hstage] at hcount
      exact congrArg (· + 1) hcount
    · change object.close.deviceCloses = if object.close.closed && object.close.hasDevice then 1 else 0
      rw [hcloses, hclosed, hdevice, Bool.true_and]
  · exact fun other stage _ => Option.some_inj.trans Prod.mk_inj
  · intro other stage hheld
    refine iff_of_false nofun ?_
    rintro ⟨-, rfl⟩
    exact hheld

theorem Sound.emplace {object : SessionObject} (hsound : service.Sound)
    (hcall : service.calls[index]? = some (.register session))
    (hobject : service.sessions[session]? = some object)
    (hfree : service.hasSessionLocked object.stream.id = false) :
    ((((service.setSession object.stream.direction object.stream.id
      (some session)).modifySession session (·.setStage .live)).setCall index .finished).record index
        (.created object.stream.id session)).Sound := by
  have hbefore : service.stageOf session = some .constructed :=
    hsound.stage_of_holds hcall trivial rfl
  have hafter : ∀ object : SessionObject, (object.setStage .live).stage = .live := fun _ => rfl
  have hnone := hasSessionLocked_eq_false.mp hfree
  have hnotLive : ∀ direction id, ¬service.LiveAs session direction id := by
    rintro direction id ⟨other, hother, hlive, -⟩
    rw [stageOf, hother] at hbefore
    exact nomatch (Option.some.inj hbefore).symm.trans hlive
  have hlive : ∀ other direction id,
      (service.modifySession session (·.setStage .live)).LiveAs other direction id ↔
        if session = other then object.stream.direction = direction ∧ object.stream.id = id
        else service.LiveAs other direction id := by
    intro other direction id
    rw [liveAs_modify hafter (fun _ => rfl)]
    split_ifs with hsame
    · subst hsame
      rw [hobject]
      simp
    · rfl
  have hstill : ∀ other direction, ¬service.LiveAs other direction object.stream.id := by
    intro other direction hother
    have hheld := (hsound.maps _ _ _).mpr hother
    rw [hnone direction] at hheld
    cases hheld
  have hsessions : (service.setSession object.stream.direction object.stream.id
      (some session)).sessions = service.sessions := by
    unfold setSession
    split <;> rfl
  have hcalls : (service.setSession object.stream.direction object.stream.id
      (some session)).calls = service.calls := by
    unfold setSession
    split <;> rfl
  have hlog : (service.setSession object.stream.direction object.stream.id
      (some session)).log = service.log := by
    unfold setSession
    split <;> rfl
  refine hsound.change hcall hbefore hafter ?_
    (congrArg (·.modify session (·.setStage .live)) hsessions)
    (congrArg (·.set index .finished) hcalls) ?_ ?_ (fun _ => rfl) nofun ?_ ?_
    (congrArg (· ++ _) hlog) ?_ own_singleton rfl
  · intro other hother hstage
    exact hother.setStage (by simp [hstage]) (by simp [hstage]) nofun nofun
  · exact fun other stage _ => Option.some_inj.trans Prod.mk_inj
  · intro other stage hheld
    refine iff_of_false nofun ?_
    rintro ⟨-, rfl⟩
    exact hheld
  · intro direction id other
    rw [hlive]
    change (service.setSession object.stream.direction object.stream.id
      (some session)).sessionsOf direction id = some other ↔ _
    rw [sessionsOf_setSession]
    by_cases hsame : session = other
    · subst hsame
      rw [if_pos rfl]
      split_ifs with hkey
      · exact iff_of_true rfl hkey
      · refine iff_of_false (fun hheld => ?_) hkey
        exact hnotLive direction id ((hsound.maps _ _ _).mp hheld)
    · rw [if_neg hsame]
      split_ifs with hkey
      · obtain ⟨rfl, rfl⟩ := hkey
        refine iff_of_false (fun heq => hsame (Option.some.inj heq)) (hstill other _)
      · exact hsound.maps direction id other
  · intro first second direction direction' id hfirst hsecond
    rw [hlive] at hfirst hsecond
    split_ifs at hfirst hsecond with hsame hsame' hsame'
    · exact hsame.symm.trans hsame'
    · obtain ⟨-, rfl⟩ := hfirst
      exact absurd hsecond (hstill second direction')
    · obtain ⟨-, rfl⟩ := hsecond
      exact absurd hfirst (hstill first direction)
    · exact hsound.unique first second direction direction' id hfirst hsecond
  · intro record hmem id other
    obtain rfl := List.mem_singleton.mp hmem
    exact ⟨fun heq => by cases heq; exact ⟨rfl, rfl⟩, nofun⟩

theorem Sound.take (hsound : service.Sound) (hcall : service.calls[index]? = some (.remove id))
    (hheld : service.sessionsOf direction id = some session) :
    (service.take index session direction id).Sound := by
  have hlive := (hsound.maps _ _ _).mp hheld
  have hbefore : service.stageOf session = some .live := by
    obtain ⟨object, hobject, hstage, -⟩ := hlive
    rw [stageOf, hobject]
    exact congrArg some hstage
  have hafter : ∀ object : SessionObject, (object.setStage .leaving).stage = .leaving :=
    fun _ => rfl
  have hothers : ∀ other direction id,
      (service.modifySession session (·.setStage .leaving)).LiveAs other direction id ↔
        session ≠ other ∧ service.LiveAs other direction id := by
    intro other direction id
    rw [liveAs_modify hafter (fun _ => rfl)]
    split_ifs with hsame
    · exact iff_of_false nofun (fun hother => hother.1 hsame)
    · exact (and_iff_right hsame).symm
  have hsessions : (service.setSession direction id none).sessions = service.sessions := by
    unfold setSession
    split <;> rfl
  have hcalls : (service.setSession direction id none).calls = service.calls := by
    unfold setSession
    split <;> rfl
  have hlog : (service.setSession direction id none).log = service.log := by
    unfold setSession
    split <;> rfl
  refine hsound.change hcall hbefore hafter ?_
    (congrArg (·.modify session (·.setStage .leaving)) hsessions)
    (congrArg (·.set index (.closing session)) hcalls) ?_ ?_ (fun _ => rfl) nofun ?_ ?_
    (congrArg (· ++ _) hlog) ?_ own_singleton rfl
  · intro other hother hstage
    exact hother.setStage (by simp [hstage]) (by simp [hstage]) nofun nofun
  · intro other stage hheld
    refine iff_of_false nofun ?_
    rintro ⟨-, rfl⟩
    exact hheld
  · exact fun other stage _ => Option.some_inj.trans Prod.mk_inj
  · intro direction' id' other
    rw [hothers]
    change (service.setSession direction id none).sessionsOf direction' id' = some other ↔ _
    rw [sessionsOf_setSession]
    split_ifs with hkey
    · obtain ⟨rfl, rfl⟩ := hkey
      refine iff_of_false nofun fun hother => hother.1 ?_
      exact hsound.unique session other direction direction id hlive hother.2
    · rw [hsound.maps]
      refine (and_iff_right_of_imp fun hother hsame => hkey ?_).symm
      subst hsame
      obtain ⟨first, hfirst, -, hdirection, hid⟩ := hlive
      obtain ⟨second, hsecond, -, hdirection', hid'⟩ := hother
      obtain rfl := Option.some.inj (hfirst.symm.trans hsecond)
      exact ⟨hdirection.symm.trans hdirection', hid.symm.trans hid'⟩
  · intro first second direction direction' id hfirst hsecond
    exact hsound.unique first second direction direction' id ((hothers _ _ _).mp hfirst).2
      ((hothers _ _ _).mp hsecond).2
  · intro record hmem id other
    obtain rfl := List.mem_singleton.mp hmem
    exact ⟨nofun, nofun⟩

/-! ### All steps -/

theorem Sound.create (hsound : service.Sound) (config : AudioServiceConfig)
    (direction : StreamDirection) (stream : Rpc.AudioStream) :
    (service.create config direction stream).Sound := by
  unfold AudioService.create
  split
  · exact hsound.begin rfl rfl rfl rfl rfl rfl (plain_singleton fun _ _ => ⟨nofun, nofun⟩)
      own_singleton rfl
  · split_ifs
    · exact hsound.begin rfl rfl rfl rfl rfl rfl (plain_singleton fun _ _ => ⟨nofun, nofun⟩)
        own_singleton rfl
    · exact hsound.begin rfl rfl rfl rfl rfl (List.append_nil _).symm plain_nil nofun rfl

theorem Sound.proceed {config : AudioServiceConfig} {device : Result Bool} {next : AudioService}
    (hsound : service.Sound) (hcall : service.calls[index]? = some call)
    (hnext : service.proceed config index device call = some next) : next.Sound := by
  cases call with
  | check stream =>
      simp only [AudioService.proceed] at hnext
      split_ifs at hnext
      · cases hnext
        exact hsound.goOn hcall rfl rfl rfl rfl rfl rfl rfl
          (plain_singleton fun _ _ => ⟨nofun, nofun⟩) own_singleton rfl
      · cases hnext
        exact hsound.goOn hcall rfl rfl rfl rfl rfl rfl (List.append_nil _).symm plain_nil nofun rfl
  | opening stream =>
      simp only [AudioService.proceed] at hnext
      split_ifs at hnext
      · cases device with
        | error status =>
            cases hnext
            exact hsound.goOn hcall rfl rfl rfl rfl rfl rfl rfl
              (plain_singleton fun _ _ => ⟨nofun, nofun⟩) own_singleton rfl
        | ok hasDevice =>
            cases hnext
            exact hsound.construct hcall
      · cases hnext
        exact hsound.construct hcall
  | register session =>
      simp only [AudioService.proceed] at hnext
      split at hnext
      · cases hnext
      · next object hobject =>
        cases hnext
        unfold AudioService.register
        split_ifs with htaken
        · exact hsound.lose hcall
        · exact hsound.emplace hcall hobject (Bool.eq_false_of_not_eq_true htaken)
  | discard session =>
      cases hnext
      exact hsound.discard hcall
  | remove id =>
      simp only [AudioService.proceed] at hnext
      split at hnext
      · next session hsession =>
        cases hnext
        have hheld : service.sessionsOf .playback id = some session := hsession
        exact hsound.take hcall hheld
      · split at hnext
        · next session hsession =>
          cases hnext
          have hheld : service.sessionsOf .capture id = some session := hsession
          exact hsound.take hcall hheld
        · cases hnext
          exact hsound.goOn hcall rfl rfl rfl rfl rfl rfl rfl
            (plain_singleton fun _ _ => ⟨nofun, nofun⟩) own_singleton rfl
  | closing session =>
      cases hnext
      exact hsound.closing hcall
  | finished => cases hnext

theorem Sound.step {config : AudioServiceConfig} {event : ServiceEvent} {next : AudioService}
    (hsound : service.Sound) (hnext : service.step config event = some next) : next.Sound := by
  cases event with
  | begin call =>
      cases call with
      | createPlaybackSession stream =>
          cases hnext
          exact hsound.create config .playback stream
      | createCaptureSession stream =>
          cases hnext
          exact hsound.create config .capture stream
      | remove id =>
          cases hnext
          exact hsound.begin rfl rfl rfl rfl rfl (List.append_nil _).symm plain_nil nofun rfl
  | advance index device =>
      rw [AudioService.step] at hnext
      split at hnext
      · cases hnext
      · next call hcall => exact hsound.proceed hcall hnext

end AudioService

end AudioStudio.Audio
