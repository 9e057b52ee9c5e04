import Mathlib.Data.List.Infix

/-!
# Two parties on a lossy link

Each party is a function from what has happened to it to the messages it has
sent so far.  The link keeps one queue for each direction.  It may lose any
queued message and let any time pass, but it never reorders, alters or
duplicates.
-/

namespace AudioStudio

/-- What can happen to a party: a message arrives, or an upset (a time-out, a
failed read) does. -/
inductive Arrival (Msg Upset : Type) where
  | message (msg : Msg)
  | upset (upset : Upset)
  deriving DecidableEq, Repr

namespace Arrival

variable {Msg Upset : Type}

def messages (history : List (Arrival Msg Upset)) : List Msg :=
  history.filterMap fun
    | .message msg => some msg
    | .upset _ => none

@[simp] theorem messages_nil : messages ([] : List (Arrival Msg Upset)) = [] := rfl

@[simp] theorem messages_message_cons (msg : Msg) (history : List (Arrival Msg Upset)) :
    messages (.message msg :: history) = msg :: messages history := rfl

@[simp] theorem messages_upset_cons (upset : Upset) (history : List (Arrival Msg Upset)) :
    messages (.upset upset :: history) = messages history := rfl

theorem mem_messages {history : List (Arrival Msg Upset)} {msg : Msg} :
    msg ∈ messages history ↔ .message msg ∈ history := by
  rw [messages, List.mem_filterMap]
  constructor
  · rintro ⟨event, hmem, hevent⟩
    cases event with
    | message other => cases hevent; exact hmem
    | upset upset => cases hevent
  · exact fun hmem => ⟨.message msg, hmem, rfl⟩

@[simp] theorem messages_append (front back : List (Arrival Msg Upset)) :
    messages (front ++ back) = messages front ++ messages back :=
  List.filterMap_append

end Arrival

/-- A party only ever adds to what it has sent. -/
structure Party (Event Msg : Type) where
  sends : List Event → List Msg
  sends_prefix : ∀ history event, sends history <+: sends (history ++ [event])

/-- The messages that one more event makes a party send. -/
def Party.answers {Event Msg : Type} (party : Party Event Msg) (history : List Event)
    (event : Event) : List Msg :=
  (party.sends (history ++ [event])).drop (party.sends history).length

theorem Party.sends_snoc {Event Msg : Type} (party : Party Event Msg)
    (history : List Event) (event : Event) :
    party.sends (history ++ [event]) = party.sends history ++ party.answers history event := by
  obtain ⟨suffix, hsuffix⟩ := party.sends_prefix history event
  rw [Party.answers, ← hsuffix, List.drop_left]

namespace Link

variable {Msg UL UR : Type}

structure State (Msg UL UR : Type) where
  leftHistory : List (Arrival Msg UL)
  rightHistory : List (Arrival Msg UR)
  toRight : List Msg
  toLeft : List Msg

inductive Action (UL UR : Type) where
  | deliverRight
  | deliverLeft
  | loseRight (index : Nat)
  | loseLeft (index : Nat)
  | upsetRight (upset : UR)
  | upsetLeft (upset : UL)
  deriving DecidableEq, Repr

variable (left : Party (Arrival Msg UL) Msg) (right : Party (Arrival Msg UR) Msg)

def start : State Msg UL UR where
  leftHistory := []
  rightHistory := []
  toRight := left.sends []
  toLeft := right.sends []

variable {left right}

/-- An event at the left party, whose answers join the queue to the right. -/
def State.atLeft (left : Party (Arrival Msg UL) Msg) (state : State Msg UL UR)
    (event : Arrival Msg UL) : State Msg UL UR :=
  { state with
    leftHistory := state.leftHistory ++ [event]
    toRight := state.toRight ++ left.answers state.leftHistory event }

def State.atRight (right : Party (Arrival Msg UR) Msg) (state : State Msg UL UR)
    (event : Arrival Msg UR) : State Msg UL UR :=
  { state with
    rightHistory := state.rightHistory ++ [event]
    toLeft := state.toLeft ++ right.answers state.rightHistory event }

variable (left right) in
/-- One step; delivering from an empty queue is not possible. -/
def step (state : State Msg UL UR) : Action UL UR → Option (State Msg UL UR)
  | .deliverRight =>
      match state.toRight with
      | [] => none
      | msg :: rest => some ({ state with toRight := rest }.atRight right (.message msg))
  | .deliverLeft =>
      match state.toLeft with
      | [] => none
      | msg :: rest => some ({ state with toLeft := rest }.atLeft left (.message msg))
  | .loseRight index => some { state with toRight := state.toRight.eraseIdx index }
  | .loseLeft index => some { state with toLeft := state.toLeft.eraseIdx index }
  | .upsetRight upset => some (state.atRight right (.upset upset))
  | .upsetLeft upset => some (state.atLeft left (.upset upset))

variable (left right) in
/-- States of the runs in which every step is allowed. -/
inductive Reach (allowed : State Msg UL UR → Action UL UR → Prop) : State Msg UL UR → Prop where
  | start : Reach allowed (start left right)
  | step {state next : State Msg UL UR} {action : Action UL UR} :
      Reach allowed state → allowed state action → step left right state action = some next →
        Reach allowed next

/-! ## What arrives was sent -/

variable (left right) in
/-- What has arrived and what is still queued are, in order, among what was sent. -/
structure Faithful (state : State Msg UL UR) : Prop where
  rightward : (Arrival.messages state.rightHistory ++ state.toRight).Sublist
    (left.sends state.leftHistory)
  leftward : (Arrival.messages state.leftHistory ++ state.toLeft).Sublist
    (right.sends state.rightHistory)

theorem Faithful.start : Faithful left right (start left right) :=
  ⟨List.Sublist.refl _, List.Sublist.refl _⟩

variable {state : State Msg UL UR}

/-- An upset adds no message to a history. -/
theorem Faithful.atLeft (hstate : Faithful left right state) {event : Arrival Msg UL}
    {toLeft : List Msg} (hevent : (Arrival.messages [event] ++ toLeft).Sublist state.toLeft) :
    Faithful left right ({ state with toLeft := toLeft }.atLeft left event) where
  rightward := by
    simp only [State.atLeft, Party.sends_snoc, ← List.append_assoc]
    exact hstate.rightward.append_right _
  leftward := by
    simp only [State.atLeft, Arrival.messages_append, List.append_assoc]
    exact (hevent.append_left _).trans hstate.leftward

theorem Faithful.atRight (hstate : Faithful left right state) {event : Arrival Msg UR}
    {toRight : List Msg} (hevent : (Arrival.messages [event] ++ toRight).Sublist state.toRight) :
    Faithful left right ({ state with toRight := toRight }.atRight right event) where
  rightward := by
    simp only [State.atRight, Arrival.messages_append, List.append_assoc]
    exact (hevent.append_left _).trans hstate.rightward
  leftward := by
    simp only [State.atRight, Party.sends_snoc, ← List.append_assoc]
    exact hstate.leftward.append_right _

theorem step_deliverRight {next : State Msg UL UR}
    (hstep : step left right state .deliverRight = some next) :
    ∃ msg rest, state.toRight = msg :: rest ∧
      next = { state with toRight := rest }.atRight right (.message msg) := by
  cases hqueue : state.toRight with
  | nil => simp [step, hqueue] at hstep
  | cons msg rest =>
      simp only [step, hqueue, Option.some.injEq] at hstep
      exact ⟨msg, rest, rfl, hstep.symm⟩

theorem step_deliverLeft {next : State Msg UL UR}
    (hstep : step left right state .deliverLeft = some next) :
    ∃ msg rest, state.toLeft = msg :: rest ∧
      next = { state with toLeft := rest }.atLeft left (.message msg) := by
  cases hqueue : state.toLeft with
  | nil => simp [step, hqueue] at hstep
  | cons msg rest =>
      simp only [step, hqueue, Option.some.injEq] at hstep
      exact ⟨msg, rest, rfl, hstep.symm⟩

theorem Faithful.step {state next : State Msg UL UR} {action : Action UL UR}
    (hstate : Faithful left right state) (hstep : step left right state action = some next) :
    Faithful left right next := by
  cases action with
  | deliverRight =>
      obtain ⟨msg, rest, hqueue, rfl⟩ := step_deliverRight hstep
      exact hstate.atRight (by simp [hqueue])
  | deliverLeft =>
      obtain ⟨msg, rest, hqueue, rfl⟩ := step_deliverLeft hstep
      exact hstate.atLeft (by simp [hqueue])
  | loseRight index =>
      cases hstep
      exact ⟨((List.eraseIdx_sublist _ _).append_left _).trans hstate.rightward,
        hstate.leftward⟩
  | loseLeft index =>
      cases hstep
      exact ⟨hstate.rightward,
        ((List.eraseIdx_sublist _ _).append_left _).trans hstate.leftward⟩
  | upsetRight upset =>
      cases hstep
      exact hstate.atRight (List.Sublist.refl _)
  | upsetLeft upset =>
      cases hstep
      exact hstate.atLeft (List.Sublist.refl _)

variable {allowed : State Msg UL UR → Action UL UR → Prop}

theorem Reach.faithful (hreach : Reach left right allowed state) : Faithful left right state := by
  induction hreach with
  | start => exact .start
  | step _ _ hstep ih => exact ih.step hstep

/-- A property of what has arrived at the right holds in every reachable state, if
every allowed delivery keeps it. -/
theorem Reach.rightMessages (holds : List Msg → Prop) (hnil : holds [])
    (hdeliver : ∀ state msg rest, state.toRight = msg :: rest →
      allowed state .deliverRight → holds (Arrival.messages state.rightHistory) →
        holds (Arrival.messages state.rightHistory ++ [msg]))
    (hreach : Reach left right allowed state) :
    holds (Arrival.messages state.rightHistory) := by
  induction hreach with
  | start => exact hnil
  | @step state next action _ hallowed hstep ih =>
      cases action with
      | deliverRight =>
          obtain ⟨msg, rest, hqueue, rfl⟩ := step_deliverRight hstep
          simpa [State.atRight] using hdeliver _ _ _ hqueue hallowed ih
      | deliverLeft =>
          obtain ⟨msg, rest, hqueue, rfl⟩ := step_deliverLeft hstep
          exact ih
      | loseRight index => cases hstep; exact ih
      | loseLeft index => cases hstep; exact ih
      | upsetRight upset =>
          cases hstep
          simpa [State.atRight] using ih
      | upsetLeft upset => cases hstep; exact ih

/-- What each party promises about what it sends, given what the other promises, holds
of all that arrives.  A delivery to the right may add what its condition says. -/
theorem Reach.assured (sent onRight onLeft : Msg → Prop)
    (hleft : ∀ history, (∀ msg ∈ Arrival.messages history, onLeft msg) →
      ∀ msg ∈ left.sends history, sent msg)
    (hright : ∀ history, (∀ msg ∈ Arrival.messages history, onRight msg) →
      ∀ msg ∈ right.sends history, onLeft msg)
    (hdeliver : ∀ state msg rest, state.toRight = msg :: rest →
      allowed state .deliverRight → sent msg → onRight msg)
    (hreach : Reach left right allowed state) :
    (∀ msg ∈ Arrival.messages state.rightHistory, onRight msg) ∧
      ∀ msg ∈ Arrival.messages state.leftHistory, onLeft msg := by
  induction hreach with
  | start => exact ⟨nofun, nofun⟩
  | @step state next action hreach hallowed hstep ih =>
      have hfaithful := hreach.faithful
      cases action with
      | deliverRight =>
          obtain ⟨msg, rest, hqueue, rfl⟩ := step_deliverRight hstep
          have hsent := hleft _ ih.2 msg (hfaithful.rightward.subset (by simp [hqueue]))
          refine ⟨fun other hmem => ?_, ih.2⟩
          simp only [State.atRight, Arrival.messages_append, List.mem_append,
            Arrival.messages_message_cons, Arrival.messages_nil, List.mem_singleton] at hmem
          rcases hmem with hmem | rfl
          · exact ih.1 other hmem
          · exact hdeliver _ _ _ hqueue hallowed hsent
      | deliverLeft =>
          obtain ⟨msg, rest, hqueue, rfl⟩ := step_deliverLeft hstep
          have hsent := hright _ ih.1 msg (hfaithful.leftward.subset (by simp [hqueue]))
          refine ⟨ih.1, fun other hmem => ?_⟩
          simp only [State.atLeft, Arrival.messages_append, List.mem_append,
            Arrival.messages_message_cons, Arrival.messages_nil, List.mem_singleton] at hmem
          rcases hmem with hmem | rfl
          · exact ih.2 other hmem
          · exact hsent
      | loseRight index => cases hstep; exact ih
      | loseLeft index => cases hstep; exact ih
      | upsetRight upset =>
          cases hstep
          simpa [State.atRight] using ih
      | upsetLeft upset =>
          cases hstep
          simpa [State.atLeft] using ih

/-- Play a list of actions, every one of them allowed. -/
def play (left : Party (Arrival Msg UL) Msg) (right : Party (Arrival Msg UR) Msg) :
    List (Action UL UR) → State Msg UL UR → Option (State Msg UL UR)
  | [], state => some state
  | action :: actions, state => (step left right state action).bind (play left right actions)

theorem Reach.play {actions : List (Action UL UR)} {final : State Msg UL UR}
    (hreach : Reach left right (fun _ _ => True) state)
    (hplay : play left right actions state = some final) :
    Reach left right (fun _ _ => True) final := by
  induction actions generalizing state with
  | nil =>
      cases hplay
      exact hreach
  | cons action actions ih =>
      obtain ⟨next, hstep, hrest⟩ := Option.bind_eq_some_iff.mp hplay
      exact ih (hreach.step trivial hstep) hrest

end Link

end AudioStudio
