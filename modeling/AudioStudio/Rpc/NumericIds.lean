import AudioStudio.Rpc.RuntimeContext

/-!
# Numbers of sessions

What holds of the maps of the context in every order of steps, and when the sessions
they name are live.
-/

namespace AudioStudio.Rpc

open AudioStudio.LittleEndian

/-! ## The maps -/

/-- The number that is drawn after `drawn` others. -/
def numberAfter (drawn : Nat) : UInt32 := UInt32.ofNat (1 + drawn)

theorem numberAfter_ne {earlier later : Nat} (hlt : earlier < later) (hlater : later < 2 ^ 32) :
    numberAfter earlier ≠ numberAfter later := by
  intro heq
  have hnumbers := congrArg UInt32.toNat heq
  simp only [numberAfter, UInt32.toNat_ofNat'] at hnumbers
  omega

theorem numberAfter_succ (drawn : Nat) : numberAfter drawn + 1 = numberAfter (drawn + 1) := by
  rw [numberAfter, numberAfter, ← Nat.add_assoc, UInt32.ofNat_add (1 + drawn) 1]
  rfl

/-- The two maps of sessions are inverse, and every number that they hold or that was
given out belongs to one session. -/
structure RpcRuntimeContext.Paired (context : RpcRuntimeContext)
    (issued : List (UInt32 × Bytes)) : Prop where
  counter : context.nextId = numberAfter context.drawn
  inverse : ∀ id number,
    context.sessionIds id = some number ↔ context.numericSessions number = some id
  held : ∀ id number, context.sessionIds id = some number → (number, id) ∈ issued
  drawn : ∀ number id, (number, id) ∈ issued → ∃ before < context.drawn, number = numberAfter before
  unique : ∀ number id other, (number, id) ∈ issued → (number, other) ∈ issued → id = other

namespace RpcRuntimeContext.Paired

variable {context : RpcRuntimeContext} {issued : List (UInt32 × Bytes)}

/-- A number that is drawn now was never given out. -/
theorem fresh (hpaired : context.Paired issued) (hdrawn : context.drawn < 2 ^ 32) (id : Bytes) :
    (context.nextId, id) ∉ issued := by
  intro hissued
  obtain ⟨before, hbefore, heq⟩ := hpaired.drawn _ _ hissued
  rw [hpaired.counter] at heq
  exact numberAfter_ne hbefore hdrawn heq.symm

/-- Drawing a number alone leaves the maps as they are. -/
theorem draw (hpaired : context.Paired issued) : context.draw.2.Paired issued where
  counter := by
    change context.nextId + 1 = _
    rw [hpaired.counter, numberAfter_succ]
    rfl
  inverse := hpaired.inverse
  held := hpaired.held
  drawn number id hissued := by
    obtain ⟨before, hbefore, hnumber⟩ := hpaired.drawn number id hissued
    exact ⟨before, Nat.lt_succ_of_lt hbefore, hnumber⟩
  unique := hpaired.unique

theorem numericStreamId (hpaired : context.Paired issued) (id : Bytes) :
    (context.numericStreamId id).2.Paired issued := by
  unfold RpcRuntimeContext.numericStreamId
  split
  · exact hpaired
  · exact
      { counter := hpaired.draw.counter
        inverse := hpaired.draw.inverse
        held := hpaired.draw.held
        drawn := hpaired.draw.drawn
        unique := hpaired.draw.unique }

/-- No map holds a number that is drawn now. -/
theorem numericSessions_fresh (hpaired : context.Paired issued) (hdrawn : context.drawn < 2 ^ 32) :
    context.numericSessions context.nextId = none := by
  cases hheld : context.numericSessions context.nextId with
  | none => rfl
  | some id =>
      have hsession := (hpaired.inverse id context.nextId).mpr hheld
      exact absurd (hpaired.held id _ hsession) (hpaired.fresh hdrawn id)

/-- The number that a session has already is given out again. -/
theorem again (hpaired : context.Paired issued) {id : Bytes} {number : UInt32}
    (hheld : context.sessionIds id = some number) : context.Paired ((number, id) :: issued) where
  counter := hpaired.counter
  inverse := hpaired.inverse
  held other number hother := List.mem_cons_of_mem _ (hpaired.held other number hother)
  drawn := by
    intro given other hissued
    rcases List.mem_cons.mp hissued with heq | hbefore
    · cases heq
      exact hpaired.drawn number id (hpaired.held id number hheld)
    · exact hpaired.drawn given other hbefore
  unique := by
    intro given first second hfirst hsecond
    have hissued : ∀ other, (given, other) ∈ (number, id) :: issued → (given, other) ∈ issued := by
      intro other hother
      rcases List.mem_cons.mp hother with heq | hbefore
      · cases heq
        exact hpaired.held id number hheld
      · exact hbefore
    exact hpaired.unique given first second (hissued first hfirst) (hissued second hsecond)

/-- A number that no one was given is given to a session that has none. -/
theorem give (hpaired : context.Paired issued) (hdrawn : context.drawn < 2 ^ 32) {id : Bytes}
    (hnone : context.sessionIds id = none) :
    { context.draw.2 with
      sessionIds := Function.update context.sessionIds id (some context.nextId)
      numericSessions := Function.update context.numericSessions context.nextId (some id) }.Paired
        ((context.nextId, id) :: issued) where
  counter := hpaired.draw.counter
  inverse := by
    intro other number
    dsimp only
    have hinverse := hpaired.inverse other number
    have hfresh := hpaired.numericSessions_fresh hdrawn
    by_cases hid : other = id <;> by_cases hnumber : number = context.nextId
    · rw [hid, hnumber, Function.update_self, Function.update_self]
      exact iff_of_true rfl rfl
    · rw [hid, Function.update_self, Function.update_of_ne hnumber, ← hid, ← hinverse, hid, hnone]
      refine iff_of_false (fun heq => hnumber (Option.some.inj heq).symm) nofun
    · rw [hnumber, Function.update_self, Function.update_of_ne hid, ← hnumber, hinverse, hnumber,
        hfresh]
      exact iff_of_false nofun fun heq => hid (Option.some.inj heq).symm
    · rw [Function.update_of_ne hid, Function.update_of_ne hnumber]
      exact hinverse
  held := by
    intro other number hheld
    dsimp only at hheld
    by_cases hid : other = id
    · rw [hid, Function.update_self] at hheld
      cases hheld
      rw [hid]
      exact List.mem_cons_self
    · rw [Function.update_of_ne hid] at hheld
      exact List.mem_cons_of_mem _ (hpaired.held other number hheld)
  drawn := by
    intro number other hissued
    rcases List.mem_cons.mp hissued with heq | hbefore
    · cases heq
      exact ⟨context.drawn, Nat.lt_succ_self _, hpaired.counter⟩
    · exact hpaired.draw.drawn number other hbefore
  unique := by
    intro number first second hfirst hsecond
    rcases List.mem_cons.mp hfirst with heq | hfirst <;>
      rcases List.mem_cons.mp hsecond with heq' | hsecond
    · cases heq
      cases heq'
      rfl
    · cases heq
      exact absurd hsecond (hpaired.fresh hdrawn second)
    · cases heq'
      exact absurd hfirst (hpaired.fresh hdrawn first)
    · exact hpaired.unique number first second hfirst hsecond

theorem numericSessionId (hpaired : context.Paired issued) (id : Bytes)
    (hdrawn : (context.numericSessionId id).2.drawn < 2 ^ 32) :
    (context.numericSessionId id).2.Paired (((context.numericSessionId id).1, id) :: issued) := by
  unfold RpcRuntimeContext.numericSessionId at hdrawn ⊢
  split at hdrawn
  · next number hheld => exact hpaired.again hheld
  · next hnone =>
      have hbefore : context.drawn < 2 ^ 32 := Nat.lt_of_succ_lt hdrawn
      have hfresh : context.draw.2.numericSessions context.draw.1 = none :=
        hpaired.numericSessions_fresh hbefore
      dsimp only
      rw [hfresh]
      exact hpaired.give hbefore hnone

theorem releaseSession (hpaired : context.Paired issued) (id : Bytes) :
    (context.releaseSession id).Paired issued where
  counter := hpaired.counter
  inverse := by
    intro other number
    have hinverse := hpaired.inverse other number
    unfold RpcRuntimeContext.releaseSession
    dsimp only
    by_cases hid : other = id
    · subst hid
      rw [Function.update_self]
      refine iff_of_false nofun fun hheld => ?_
      cases hsession : context.sessionIds other with
      | none =>
          rw [hsession] at hheld hinverse
          exact absurd (hinverse.mpr hheld) nofun
      | some held =>
          rw [hsession] at hheld hinverse
          dsimp only at hheld
          by_cases hnumber : number = held
          · rw [hnumber, Function.update_self] at hheld
            cases hheld
          · rw [Function.update_of_ne hnumber] at hheld
            exact hnumber (Option.some.inj (hinverse.mpr hheld)).symm
    · rw [Function.update_of_ne hid]
      cases hsession : context.sessionIds id with
      | none => exact hinverse
      | some held =>
          dsimp only
          by_cases hnumber : number = held
          · have hid' := (hpaired.inverse id held).mp hsession
            rw [hnumber] at hinverse ⊢
            rw [Function.update_self, hinverse, hid']
            exact iff_of_false (fun heq => hid (Option.some.inj heq).symm) nofun
          · rw [Function.update_of_ne hnumber]
            exact hinverse
  held := by
    intro other number hheld
    unfold RpcRuntimeContext.releaseSession at hheld
    dsimp only at hheld
    by_cases hid : other = id
    · rw [hid, Function.update_self] at hheld
      cases hheld
    · rw [Function.update_of_ne hid] at hheld
      exact hpaired.held other number hheld
  drawn := hpaired.drawn
  unique := hpaired.unique

end RpcRuntimeContext.Paired

/-! ## Steps -/

namespace SessionServer

open RpcRuntimeContext

variable {server next : SessionServer} {index : Nat} {accepts : Bool} {call : SessionCall}
  {event : SessionEvent}

/-- What a step does with the context, and the numbers that it gives out. -/
inductive Uses (server next : SessionServer) : Prop where
  | nothing (hcontext : next.context = server.context) (hissued : next.issued = server.issued)
  | draws (hcontext : next.context = server.context.draw.2) (hissued : next.issued = server.issued)
  | session (id : Bytes) (hcontext : next.context = (server.context.numericSessionId id).2)
      (hissued : next.issued = ((server.context.numericSessionId id).1, id) :: server.issued)
  | stream (id : Bytes) (hcontext : next.context = (server.context.numericStreamId id).2)
      (hissued : next.issued = server.issued)
  | releases (id : Bytes) (hcontext : next.context = server.context.releaseSession id)
      (hissued : next.issued = server.issued)

theorem proceed_uses (hnext : server.proceed index accepts call = some next) :
    server.Uses next := by
  cases call with
  | chooseId direction sessionId =>
      cases hnext
      exact .draws rfl rfl
  | create id =>
      rw [proceed] at hnext
      split at hnext
      · cases hnext
        exact .nothing rfl rfl
      · cases hnext
        exact .nothing rfl rfl
  | createdToJson id =>
      cases hnext
      exact .session id rfl rfl
  | descriptorJson id =>
      cases hnext
      exact .stream id rfl rfl
  | resultToJson id =>
      cases hnext
      exact .session id rfl rfl
  | listedToJson ids =>
      cases ids with
      | nil =>
          cases hnext
          exact .nothing rfl rfl
      | cons id ids =>
          cases hnext
          exact .session id rfl rfl
  | remove id =>
      rw [proceed] at hnext
      split at hnext
      · cases hnext
        exact .nothing rfl rfl
      · cases hnext
        exact .nothing rfl rfl
  | release id =>
      cases hnext
      exact .releases id rfl rfl
  | finished => cases hnext
  | getCreated _ | start _ | sessionResult _ | list | getStream _ | getStats _ =>
      cases hnext
      exact .nothing rfl rfl

theorem step_uses (hnext : server.step event = some next) : server.Uses next := by
  cases event with
  | request request =>
      cases hnext
      exact .nothing rfl rfl
  | advance index accepts =>
      rw [step] at hnext
      split at hnext
      · cases hnext
      · exact proceed_uses hnext

theorem numericSessionId_drawn (context : RpcRuntimeContext) (id : Bytes) :
    context.drawn ≤ (context.numericSessionId id).2.drawn := by
  unfold RpcRuntimeContext.numericSessionId
  split
  · exact Nat.le_refl _
  · exact Nat.le_succ _

theorem numericStreamId_drawn (context : RpcRuntimeContext) (id : Bytes) :
    context.drawn ≤ (context.numericStreamId id).2.drawn := by
  unfold RpcRuntimeContext.numericStreamId
  split
  · exact Nat.le_refl _
  · exact Nat.le_succ _

theorem Uses.drawn_le (huses : server.Uses next) : server.context.drawn ≤ next.context.drawn := by
  cases huses with
  | nothing hcontext _ => rw [hcontext]
  | draws hcontext _ =>
      rw [hcontext]
      exact Nat.le_succ _
  | session id hcontext _ =>
      rw [hcontext]
      exact numericSessionId_drawn _ id
  | stream id hcontext _ =>
      rw [hcontext]
      exact numericStreamId_drawn _ id
  | releases id hcontext _ => rw [hcontext]; rfl

/-- As long as no number is drawn twice, every step keeps the maps paired. -/
theorem Uses.paired (huses : server.Uses next) (hdrawn : next.context.drawn < 2 ^ 32)
    (hpaired : server.context.Paired server.issued) : next.context.Paired next.issued := by
  cases huses with
  | nothing hcontext hissued =>
      rw [hcontext, hissued]
      exact hpaired
  | draws hcontext hissued =>
      rw [hcontext, hissued]
      exact hpaired.draw
  | session id hcontext hissued =>
      rw [hcontext] at hdrawn
      rw [hcontext, hissued]
      exact hpaired.numericSessionId id hdrawn
  | stream id hcontext hissued =>
      rw [hcontext, hissued]
      exact hpaired.numericStreamId id
  | releases id hcontext hissued =>
      rw [hcontext, hissued]
      exact hpaired.releaseSession id

/-! ## Live sessions -/

/-- A map of the context holds the session. -/
def Mapped (server : SessionServer) (id : Bytes) : Prop :=
  server.context.sessionIds id ≠ none ∨ server.context.streamIds id ≠ none

/-- A session of the maps is live, or a method is about to release it. -/
def Accounted (server : SessionServer) : Prop :=
  ∀ id, server.Mapped id → id ∈ server.audio ∨ .release id ∈ server.calls

/-- The session for which a method is about to draw a number. -/
def drawsFor (server : SessionServer) : SessionCall → Option Bytes
  | .createdToJson id | .resultToJson id | .listedToJson (id :: _) =>
      if server.context.sessionIds id = none then some id else none
  | .descriptorJson id => if server.context.streamIds id = none then some id else none
  | _ => none

/-- A number is drawn for a session that is live or about to be released. -/
def drawsForLive (server : SessionServer) : SessionEvent → Bool
  | .request _ => true
  | .advance index _ =>
      match server.calls[index]?.bind server.drawsFor with
      | none => true
      | some id => decide (id ∈ server.audio ∨ .release id ∈ server.calls)

theorem Accounted.later (haccounted : server.Accounted)
    (hmapped : ∀ id, next.Mapped id →
      server.Mapped id ∨ id ∈ next.audio ∨ .release id ∈ next.calls)
    (haudio : ∀ id ∈ server.audio, id ∈ next.audio ∨ .release id ∈ next.calls)
    (hcalls : ∀ id, .release id ∈ server.calls → next.Mapped id → .release id ∈ next.calls) :
    next.Accounted := by
  intro id hid
  rcases hmapped id hid with hbefore | hdone
  · rcases haccounted id hbefore with hlive | hrelease
    · exact haudio id hlive
    · exact .inr (hcalls id hrelease hid)
  · exact hdone

variable {id : Bytes}

theorem release_mem_set {calls : List SessionCall} (new : SessionCall)
    (hcall : calls[index]? = some call) (hother : call ≠ .release id)
    (hrelease : .release id ∈ calls) : .release id ∈ calls.set index new := by
  obtain ⟨position, hposition⟩ := List.mem_iff_getElem?.mp hrelease
  refine List.mem_iff_getElem?.mpr ⟨position, ?_⟩
  rw [List.getElem?_set_ne, hposition]
  rintro rfl
  rw [hcall] at hposition
  exact hother (Option.some.inj hposition)

theorem mem_set_self {calls : List SessionCall} (new : SessionCall)
    (hcall : calls[index]? = some call) : new ∈ calls.set index new := by
  have hlength : index < calls.length := (List.getElem?_eq_some_iff.mp hcall).1
  exact List.mem_set hlength new

/-- A step that leaves the maps alone and removes no session. -/
theorem Accounted.quiet (haccounted : server.Accounted) (hcall : server.calls[index]? = some call)
    (hother : ∀ id, call ≠ .release id) {context : RpcRuntimeContext} {audio : List Bytes}
    {issued : List (UInt32 × Bytes)} {new : SessionCall}
    (hsession : context.sessionIds = server.context.sessionIds)
    (hstream : context.streamIds = server.context.streamIds)
    (haudio : ∀ id ∈ server.audio, id ∈ audio) :
    ({ context, audio, calls := server.calls.set index new, issued } :
      SessionServer).Accounted := by
  refine haccounted.later (fun id hmapped => ?_) (fun id hid => .inl (haudio id hid))
    fun id hrelease _ => release_mem_set new hcall (hother id) hrelease
  rw [Mapped, hsession, hstream] at hmapped
  exact .inl hmapped

theorem drawsForLive_advance (hcall : server.calls[index]? = some call)
    (hfor : server.drawsFor call = some id)
    (hdraws : server.drawsForLive (.advance index accepts) = true) :
    id ∈ server.audio ∨ .release id ∈ server.calls := by
  rw [drawsForLive, hcall, Option.bind_some, hfor] at hdraws
  exact of_decide_eq_true hdraws

/-- A step whose context has one more session at most, for which it drew a number. -/
theorem Accounted.drawing (haccounted : server.Accounted)
    (hcall : server.calls[index]? = some call) (hother : ∀ id, call ≠ .release id) (id : Bytes)
    {context : RpcRuntimeContext} {issued : List (UInt32 × Bytes)} {new : SessionCall}
    (hmapped : ∀ other, context.sessionIds other ≠ none ∨ context.streamIds other ≠ none →
      server.Mapped other ∨ (other = id ∧ server.drawsFor call = some id))
    (hdraws : server.drawsForLive (.advance index accepts) = true) :
    ({ context, audio := server.audio, calls := server.calls.set index new, issued } :
      SessionServer).Accounted := by
  refine haccounted.later (fun other hnow => ?_) (fun other hid => .inl hid)
    fun other hrelease _ => release_mem_set new hcall (hother other) hrelease
  rcases hmapped other hnow with hbefore | ⟨rfl, hfor⟩
  · exact .inl hbefore
  · rcases drawsForLive_advance hcall hfor hdraws with hlive | hrelease
    · exact .inr (.inl hlive)
    · exact .inr (.inr (release_mem_set new hcall (hother other) hrelease))

theorem numericSessionId_mapped {context : RpcRuntimeContext} {other : Bytes}
    (hmapped : (context.numericSessionId id).2.sessionIds other ≠ none ∨
      (context.numericSessionId id).2.streamIds other ≠ none) :
    (context.sessionIds other ≠ none ∨ context.streamIds other ≠ none) ∨
      (other = id ∧ context.sessionIds id = none) := by
  unfold RpcRuntimeContext.numericSessionId at hmapped
  split at hmapped
  · exact .inl hmapped
  · next hnone =>
      change Function.update context.sessionIds id (some context.nextId) other ≠ none ∨ _ at hmapped
      by_cases hsame : other = id
      · exact .inr ⟨hsame, hnone⟩
      · rw [Function.update_of_ne hsame] at hmapped
        exact .inl hmapped

theorem numericStreamId_mapped {context : RpcRuntimeContext} {other : Bytes}
    (hmapped : (context.numericStreamId id).2.sessionIds other ≠ none ∨
      (context.numericStreamId id).2.streamIds other ≠ none) :
    (context.sessionIds other ≠ none ∨ context.streamIds other ≠ none) ∨
      (other = id ∧ context.streamIds id = none) := by
  unfold RpcRuntimeContext.numericStreamId at hmapped
  split at hmapped
  · exact .inl hmapped
  · next hnone =>
      change _ ∨ Function.update context.streamIds id (some context.nextId) other ≠ none at hmapped
      by_cases hsame : other = id
      · exact .inr ⟨hsame, hnone⟩
      · rw [Function.update_of_ne hsame] at hmapped
        exact .inl hmapped

/-- A step that asks for the number of a session. -/
theorem Accounted.toJson (haccounted : server.Accounted) (hcall : server.calls[index]? = some call)
    (hother : ∀ id, call ≠ .release id)
    (hfor : server.drawsFor call = if server.context.sessionIds id = none then some id else none)
    (hdraws : server.drawsForLive (.advance index accepts) = true) (new : SessionCall) :
    ((server.streamToJson id).setCall index new).Accounted := by
  refine haccounted.drawing hcall hother id (fun other hmapped => ?_) hdraws
  rcases numericSessionId_mapped hmapped with hbefore | ⟨hsame, hnone⟩
  · exact .inl hbefore
  · exact .inr ⟨hsame, hfor.trans (if_pos hnone)⟩

/-- A step that asks for the number of a stream. -/
theorem Accounted.descriptorJson (haccounted : server.Accounted)
    (hcall : server.calls[index]? = some (.descriptorJson id))
    (hdraws : server.drawsForLive (.advance index accepts) = true) (new : SessionCall) :
    ((server.streamDescriptorJson id).setCall index new).Accounted := by
  refine haccounted.drawing hcall nofun id (fun other hmapped => ?_) hdraws
  rcases numericStreamId_mapped hmapped with hbefore | ⟨hsame, hnone⟩
  · exact .inl hbefore
  · exact .inr ⟨hsame, if_pos hnone⟩

/-- The remove of a session that is live, before its release. -/
theorem Accounted.remove (haccounted : server.Accounted)
    (hcall : server.calls[index]? = some (.remove id)) :
    ({ server with audio := server.audio.filter (· ≠ id) }.setCall index (.release id)).Accounted := by
  refine haccounted.later (fun other hmapped => .inl hmapped) (fun other hid => ?_)
    fun other hrelease _ => release_mem_set _ hcall nofun hrelease
  by_cases hsame : other = id
  · rw [hsame]
    exact .inr (mem_set_self _ hcall)
  · exact .inl (List.mem_filter.mpr ⟨hid, decide_eq_true hsame⟩)

theorem Accounted.release (haccounted : server.Accounted)
    (hcall : server.calls[index]? = some (.release id)) :
    ({ server with context := server.context.releaseSession id }.setCall index
      .finished).Accounted := by
  have hkept : ∀ other, ({ server with context := server.context.releaseSession id }.setCall index
      .finished).Mapped other → other ≠ id ∧ server.Mapped other := by
    intro other hmapped
    unfold Mapped setCall RpcRuntimeContext.releaseSession at hmapped
    dsimp only at hmapped
    by_cases hsame : other = id
    · rw [hsame, Function.update_self, Function.update_self] at hmapped
      rcases hmapped with habsent | habsent
      · exact absurd rfl habsent
      · exact absurd rfl habsent
    · rw [Function.update_of_ne hsame, Function.update_of_ne hsame] at hmapped
      exact ⟨hsame, hmapped⟩
  refine haccounted.later (fun other hmapped => .inl (hkept other hmapped).2)
    (fun other hid => .inl hid) fun other hrelease hmapped => ?_
  refine release_mem_set _ hcall (fun heq => ?_) hrelease
  cases heq
  exact (hkept id hmapped).1 rfl

theorem proceed_accounted (haccounted : server.Accounted)
    (hcall : server.calls[index]? = some call)
    (hdraws : server.drawsForLive (.advance index accepts) = true)
    (hnext : server.proceed index accepts call = some next) : next.Accounted := by
  cases call with
  | create id =>
      rw [proceed] at hnext
      split at hnext
      · cases hnext
        exact haccounted.quiet hcall nofun rfl rfl fun other hid =>
          List.mem_append_left _ hid
      · cases hnext
        exact haccounted.quiet hcall nofun rfl rfl fun _ hid => hid
  | createdToJson id =>
      cases hnext
      exact haccounted.toJson hcall nofun rfl hdraws _
  | descriptorJson id =>
      cases hnext
      exact haccounted.descriptorJson hcall hdraws _
  | resultToJson id =>
      cases hnext
      exact haccounted.toJson hcall nofun rfl hdraws _
  | listedToJson ids =>
      cases ids with
      | nil =>
          cases hnext
          exact haccounted.quiet hcall nofun rfl rfl fun _ hid => hid
      | cons id ids =>
          cases hnext
          exact haccounted.toJson hcall nofun rfl hdraws _
  | remove id =>
      rw [proceed] at hnext
      split at hnext
      · cases hnext
        exact haccounted.remove hcall
      · cases hnext
        exact haccounted.quiet hcall nofun rfl rfl fun _ hid => hid
  | release id =>
      cases hnext
      exact haccounted.release hcall
  | finished => cases hnext
  | chooseId _ _ | getCreated _ | start _ | sessionResult _ | list | getStream _ | getStats _ =>
      cases hnext
      exact haccounted.quiet hcall nofun rfl rfl fun _ hid => hid

theorem step_accounted (haccounted : server.Accounted)
    (hdraws : server.drawsForLive event = true) (hnext : server.step event = some next) :
    next.Accounted := by
  cases event with
  | request request =>
      cases hnext
      exact haccounted.later (fun id hmapped => .inl hmapped) (fun id hid => .inl hid)
        fun id hrelease _ => List.mem_append_left _ hrelease
  | advance index accepts =>
      rw [step] at hnext
      split at hnext
      · cases hnext
      · next call hcall => exact proceed_accounted haccounted hcall hdraws hnext

/-! ## Runs -/

theorem paired_empty : (({} : SessionServer).context).Paired [] where
  counter := rfl
  inverse _ _ := iff_of_false nofun nofun
  held _ _ hheld := nomatch hheld
  drawn _ _ hissued := nomatch hissued
  unique _ _ _ hissued := nomatch hissued

theorem paired_run (events : List SessionEvent)
    (hdrawn : (Interleaving.run step {} events).context.drawn < 2 ^ 32) :
    (Interleaving.run step {} events).context.Paired (Interleaving.run step {} events).issued := by
  have hinvariant : ∀ server event next, (server.context.drawn < 2 ^ 32 →
      server.context.Paired server.issued) → step server event = some next →
        next.context.drawn < 2 ^ 32 → next.context.Paired next.issued := by
    intro server event next hpaired hnext hdrawn
    have huses := step_uses hnext
    exact huses.paired hdrawn (hpaired (huses.drawn_le.trans_lt hdrawn))
  exact Interleaving.run_invariant hinvariant events (fun _ => paired_empty) hdrawn

theorem accounted_run {events : List SessionEvent}
    (hallowed : Interleaving.allowed step drawsForLive {} events = true) :
    (Interleaving.run step {} events).Accounted := by
  have hempty : ({} : SessionServer).Accounted := by
    rintro id (hmapped | hmapped)
    · exact absurd rfl hmapped
    · exact absurd rfl hmapped
  exact Interleaving.run_invariant_of_allowed
    (fun _ _ _ haccounted hdraws hnext => step_accounted haccounted hdraws hnext) hempty hallowed

/-- No method is in progress. -/
def Quiet (server : SessionServer) : Prop :=
  ∀ call ∈ server.calls, call = .finished

/-- The session is in one of the three maps. -/
def Named (server : SessionServer) (id : Bytes) : Prop :=
  server.context.sessionIds id ≠ none ∨ server.context.streamIds id ≠ none ∨
    ∃ number, server.context.numericSessions number = some id

/-- Every session of the maps is live when no method is in progress. -/
def NamesLive (server : SessionServer) : Prop :=
  server.Quiet → ∀ id, server.Named id → id ∈ server.audio

theorem Accounted.namesLive (haccounted : server.Accounted)
    (hpaired : server.context.Paired server.issued) : server.NamesLive := by
  intro hquiet id hnamed
  have hmapped : server.Mapped id := by
    rcases hnamed with hsession | hstream | ⟨number, hnumber⟩
    · exact .inl hsession
    · exact .inr hstream
    · left
      rw [(hpaired.inverse id number).mpr hnumber]
      exact nofun
  rcases haccounted id hmapped with hlive | hrelease
  · exact hlive
  · cases hquiet _ hrelease

/-- In every order of steps, as long as fewer than 2^32 ids are drawn: the maps of
sessions and numbers are inverse, and a number that was given out for a session
resolves to no other one.  Where a number is drawn only for a session that is live or
about to be released, every session of the maps is live when no method is in progress. -/
theorem numeric_ids_track (events : List SessionEvent)
    (hdrawn : (Interleaving.run step {} events).context.drawn < 2 ^ 32) :
    let server := Interleaving.run step {} events
    (∀ id number, server.context.sessionIds id = some number ↔
      server.context.numericSessions number = some id) ∧
    (∀ number id other, (number, id) ∈ server.issued →
      server.context.sessionIdForNumeric number = some other → other = id) ∧
    (Interleaving.allowed step drawsForLive {} events = true → server.NamesLive) := by
  intro server
  have hpaired := paired_run events hdrawn
  refine ⟨hpaired.inverse, fun number id other hissued hother => ?_, fun hallowed => ?_⟩
  · have hheld := hpaired.held other number ((hpaired.inverse other number).mpr hother)
    exact hpaired.unique number other id hheld hissued
  · exact (accounted_run hallowed).namesLive hpaired

/-- A creation that runs to its end. -/
def createdSession : List SessionEvent :=
  .request (.create .playback (some (asciiBytes "a"))) :: List.replicate 5 (.advance 0 true)

theorem numeric_ids_track_example :
    (Interleaving.run step {} createdSession).context.drawn < 2 ^ 32 ∧
      Interleaving.allowed step drawsForLive {} createdSession = true ∧
      (Interleaving.run step {} createdSession).NamesLive := by
  have hdrawn : (Interleaving.run step {} createdSession).context.drawn < 2 ^ 32 := by
    decide
  have hallowed : Interleaving.allowed step drawsForLive {} createdSession = true := by
    decide
  exact ⟨hdrawn, hallowed, (numeric_ids_track createdSession hdrawn).2.2 hallowed⟩

/-- A listing that has its snapshot while a close removes and releases the session. -/
def listedWhileClosed : List SessionEvent :=
  createdSession ++
    [.request .listSessions, .advance 1 true, .request (.closeSession (asciiBytes "a")),
      .advance 2 true, .advance 2 true, .advance 1 true, .advance 1 true]

/-- The listing gives a number to the session that is gone. -/
theorem listed_session_stays :
    (Interleaving.run step {} listedWhileClosed).context.drawn < 2 ^ 32 ∧
      ¬ (Interleaving.run step {} listedWhileClosed).NamesLive := by
  refine ⟨by decide, fun hlive => ?_⟩
  have hquiet : (Interleaving.run step {} listedWhileClosed).Quiet := by
    unfold Quiet
    decide
  have hmapped : (Interleaving.run step {} listedWhileClosed).context.sessionIds
      (asciiBytes "a") ≠ none := by decide
  have hgone : asciiBytes "a" ∉ (Interleaving.run step {} listedWhileClosed).audio := by
    decide
  exact hgone (hlive hquiet _ (.inl hmapped))

end SessionServer

end AudioStudio.Rpc
