import AudioStudio.Core.LossyLink
import AudioStudio.Core.StopAndWait

/-!
# Stop and wait without losses

When nothing is lost, the two parties take turns: every fragment is sent once,
taken once and acknowledged once, and the exchange comes to its end.
-/

namespace AudioStudio

/-! ## The programs -/

namespace StopAndWait

variable {M : Type} {format : Format M}

variable {frames sent : List M} {obs : List (Option M)}

/-- A sender that gets nothing but the acknowledgements of its fragments. -/
theorem transmitAll_acked {attempts : Nat}
    (hanswers : ∀ frame ∈ frames, format.answers (format.ack frame) frame = true)
    {outcome : Outcome Bool}
    (hrun : Runs (transmitAll format (attempts + 1) frames) obs sent outcome)
    (hacks : obs <+: (frames.map format.ack).map some) :
    (outcome = .done true ∧ obs.length = frames.length ∧ sent = frames) ∨
      (outcome = .waiting ∧ obs.length < frames.length ∧
        sent = frames.take (obs.length + 1)) := by
  induction frames generalizing obs sent with
  | nil =>
      cases hrun
      exact .inl ⟨rfl, rfl, rfl⟩
  | cons frame frames ih =>
      cases hrun with
      | send hrun =>
          cases hrun with
          | waiting => exact .inr ⟨rfl, by simp, by simp⟩
          | @observe seen _ obs sent _ hrun =>
              rw [List.map_cons, List.map_cons, List.cons_prefix_cons] at hacks
              obtain ⟨rfl, hacks⟩ := hacks
              simp only [Proc.bind, Option.any_some, hanswers frame List.mem_cons_self,
                if_true] at hrun
              rcases ih (fun other hmem => hanswers other (List.mem_cons_of_mem _ hmem)) hrun
                hacks with ⟨hdone, hlength, hsent⟩ | ⟨hwaiting, hlength, hsent⟩
              · exact .inl ⟨hdone, by simp [hlength], by rw [hsent]⟩
              · exact .inr ⟨hwaiting, by simpa using hlength, by rw [hsent]; rfl⟩

theorem sendPacket_acked {attempts : Nat} (hne : frames ≠ [])
    (hanswers : ∀ frame ∈ frames, format.answers (format.ack frame) frame = true)
    {outcome : Outcome Bool}
    (hrun : Runs (sendPacket format (attempts + 1) frames) obs sent outcome)
    (hacks : obs <+: (frames.map format.ack).map some) :
    (outcome = .done true ∧ obs.length = frames.length ∧ sent = frames) ∨
      (outcome = .waiting ∧ obs.length < frames.length ∧
        sent = frames.take (obs.length + 1)) := by
  rw [sendPacket, List.isEmpty_eq_false_iff.mpr hne] at hrun
  exact transmitAll_acked hanswers hrun hacks

/-- All fragments of a packet in the order in which a receiver expects them. -/
structure InOrder (format : Format M) (first : M) (frames : List M) : Prop where
  head : frames.head? = some first
  opens : format.opens first = some (frames.length - 1)
  continues : ∀ (index : Nat) (frame : M), 0 < index → frames[index]? = some frame →
    format.continues first index frame = true

theorem collect_inOrder {first : M} (horder : InOrder format first frames) {rest index : Nat}
    (hpos : 0 < index) (hlength : index + rest = frames.length)
    {outcome : Outcome (Option (List M))}
    (hrun : Runs (collect format first rest index (frames.take index)) obs sent outcome)
    (hobs : obs <+: (frames.drop index).map some) :
    (outcome = .done (some frames) ∧ obs.length = rest ∧
        sent = (frames.drop index).map format.ack) ∨
      (outcome = .waiting ∧ obs.length < rest ∧
        sent = ((frames.drop index).take obs.length).map format.ack) := by
  induction rest generalizing index obs sent with
  | zero =>
      cases hrun
      rw [List.take_of_length_le (by omega), List.drop_of_length_le (by omega)]
      exact .inl ⟨rfl, rfl, rfl⟩
  | succ rest ih =>
      have hindex : index < frames.length := by omega
      cases hrun with
      | waiting => exact .inr ⟨rfl, by simp, by simp⟩
      | @observe seen _ obs sent _ hrun =>
          rw [List.drop_eq_getElem_cons hindex, List.map_cons, List.cons_prefix_cons] at hobs
          obtain ⟨rfl, hobs⟩ := hobs
          have hcontinues := horder.continues index frames[index] hpos
            (List.getElem?_eq_getElem hindex)
          simp only [Proc.bind, hcontinues, if_true] at hrun
          cases hrun with
          | @send _ _ _ sent _ hrun =>
              simp only [Proc.bind] at hrun
              rw [← List.take_succ_eq_append_getElem hindex] at hrun
              rw [List.drop_eq_getElem_cons hindex]
              rcases ih (Nat.succ_pos index) (by omega) hrun hobs with
                ⟨hdone, hcount, hsent⟩ | ⟨hwaiting, hcount, hsent⟩
              · exact .inl ⟨hdone, by simp [hcount], by rw [hsent, List.map_cons]⟩
              · refine .inr ⟨hwaiting, by simpa using hcount, ?_⟩
                rw [hsent, List.length_cons, List.take_succ_cons, List.map_cons]

/-- A receiver that gets nothing but the fragments of one packet, in order. -/
theorem receivePacket_inOrder {first : M} (horder : InOrder format first frames)
    {outcome : Outcome (Option (List M))} (hrun : Runs (receivePacket format) obs sent outcome)
    (hobs : obs <+: frames.map some) :
    (outcome = .done (some frames) ∧ obs.length = frames.length ∧
        sent = frames.map format.ack) ∨
      (outcome = .waiting ∧ obs.length < frames.length ∧
        sent = (frames.take obs.length).map format.ack) := by
  obtain ⟨rest, rfl⟩ := List.head?_eq_some_iff.mp horder.head
  cases hrun with
  | waiting => exact .inr ⟨rfl, by simp, by simp⟩
  | @observe seen _ obs sent _ hrun =>
      rw [List.map_cons, List.cons_prefix_cons] at hobs
      obtain ⟨rfl, hobs⟩ := hobs
      simp only [Proc.bind, horder.opens] at hrun
      cases hrun with
      | @send _ _ _ sent _ hrun =>
          simp only [Proc.bind] at hrun
          rcases collect_inOrder horder Nat.one_pos (by simp; omega) hrun hobs with
            ⟨hdone, hcount, hsent⟩ | ⟨hwaiting, hcount, hsent⟩
          · exact .inl ⟨hdone, by simp [hcount], by simp [hsent]⟩
          · refine .inr ⟨hwaiting, ?_, by simp [hsent]⟩
            simp only [List.length_cons] at hcount ⊢
            omega

end StopAndWait

/-! ## The link -/

namespace Link

variable {Msg UL UR : Type} {left : Party (Arrival Msg UL) Msg}
  {right : Party (Arrival Msg UR) Msg}

/-- Only deliveries: nothing is lost and no time-out passes. -/
def Lossless (_ : State Msg UL UR) (action : Action UL UR) : Prop :=
  action = .deliverRight ∨ action = .deliverLeft

/-- Nothing is in flight. -/
def State.Quiet (state : State Msg UL UR) : Prop :=
  state.toRight = [] ∧ state.toLeft = []

def arrivals {Upset : Type} (msgs : List Msg) : List (Arrival Msg Upset) :=
  msgs.map .message

theorem arrivals_take_succ (Upset : Type) {msgs rest : List Msg} {msg : Msg} {index : Nat}
    (hrest : msgs.drop index = msg :: rest) :
    (arrivals (msgs.take index) : List (Arrival Msg Upset)) ++ [.message msg] =
      arrivals (msgs.take (index + 1)) := by
  have hget : msgs[index]? = some msg := by rw [← List.head?_drop, hrest]; rfl
  rw [List.take_add_one, hget]
  simp [arrivals]

/-- The left party has sent one message more than it got answers, and the right party
has answered each message it got. -/
structure Turn (requests replies : List Msg) (state : State Msg UL UR) (taken given : Nat) :
    Prop where
  order : taken ≤ given ∧ given ≤ taken + 1 ∧ given ≤ requests.length
  left : state.leftHistory = arrivals (replies.take taken)
  right : state.rightHistory = arrivals (requests.take given)
  toRight : state.toRight = (requests.take (taken + 1)).drop given
  toLeft : state.toLeft = (replies.take given).drop taken

variable {requests replies : List Msg}

/-- A party that answers its `n`-th arrival with its next messages. -/
theorem answers_eq {Upset : Type} {party : Party (Arrival Msg Upset) Msg}
    {history : List (Arrival Msg Upset)} {event : Arrival Msg Upset} {msgs : List Msg}
    {count count' : Nat} (hbefore : party.sends history = msgs.take count)
    (hafter : party.sends (history ++ [event]) = msgs.take count') :
    party.answers history event = (msgs.take count').drop count := by
  rw [Party.answers, hafter, hbefore, List.length_take]
  rcases Nat.le_total count msgs.length with hfits | hfits
  · rw [Nat.min_eq_left hfits]
  · rw [Nat.min_eq_right hfits, List.drop_of_length_le, List.drop_of_length_le]
    · rw [List.length_take]; omega
    · rw [List.length_take]; omega

variable {state : State Msg UL UR}

theorem Reach.turn (hlength : replies.length = requests.length)
    (hleft : ∀ count ≤ replies.length,
      left.sends (arrivals (replies.take count)) = requests.take (count + 1))
    (hright : ∀ count ≤ requests.length,
      right.sends (arrivals (requests.take count)) = replies.take count)
    (hreach : Reach left right Lossless state) :
    ∃ taken given, Turn requests replies state taken given := by
  induction hreach with
  | start =>
      refine ⟨0, 0, ⟨by omega, rfl, rfl, ?_, ?_⟩⟩
      · exact hleft 0 (Nat.zero_le _)
      · exact hright 0 (Nat.zero_le _)
  | @step state next action _ hallowed hstep ih =>
      obtain ⟨taken, given, ⟨hle, hnext, hgiven⟩, hlefts, hrights, htoRight, htoLeft⟩ := ih
      rcases hallowed with rfl | rfl
      · obtain ⟨msg, rest, hqueue, rfl⟩ := step_deliverRight hstep
        rw [htoRight, List.drop_take] at hqueue
        obtain ⟨hone, hmore⟩ : given = taken ∧ given < requests.length := by
          have hne : 0 < ((requests.drop given).take (taken + 1 - given)).length := by simp [hqueue]
          rw [List.length_take, List.length_drop] at hne
          omega
        subst hone
        rw [Nat.add_sub_cancel_left, List.drop_eq_getElem_cons hmore] at hqueue
        obtain ⟨rfl, rfl⟩ := List.cons.inj hqueue
        have hafter := arrivals_take_succ UR (List.drop_eq_getElem_cons hmore)
        refine ⟨given, given + 1, ⟨by omega, hlefts, ?_, ?_, ?_⟩⟩
        · simp only [State.atRight, hrights, hafter]
        · simp [State.atRight]
        · have hbefore := hright given hgiven
          rw [← hrights] at hbefore hafter
          have hsends := hright (given + 1) hmore
          rw [← hafter] at hsends
          simp only [State.atRight, htoLeft, answers_eq hbefore hsends]
          simp
      · obtain ⟨msg, rest, hqueue, rfl⟩ := step_deliverLeft hstep
        rw [htoLeft, List.drop_take] at hqueue
        obtain ⟨hone, hmore⟩ : given = taken + 1 ∧ taken < replies.length := by
          have hne : 0 < ((replies.drop taken).take (given - taken)).length := by simp [hqueue]
          rw [List.length_take, List.length_drop] at hne
          omega
        subst hone
        rw [Nat.add_sub_cancel_left, List.drop_eq_getElem_cons hmore] at hqueue
        obtain ⟨rfl, rfl⟩ := List.cons.inj hqueue
        have hafter := arrivals_take_succ UL (List.drop_eq_getElem_cons hmore)
        refine ⟨taken + 1, taken + 1, ⟨by omega, ?_, hrights, ?_, ?_⟩⟩
        · simp only [State.atLeft, hlefts, hafter]
        · have hbefore := hleft taken (Nat.le_of_lt hmore)
          rw [← hlefts] at hbefore hafter
          have hsends := hleft (taken + 1) hmore
          rw [← hafter] at hsends
          simp only [State.atLeft, htoRight,
            answers_eq hbefore hsends]
          simp
        · simp [State.atLeft]

/-- When nothing is in flight any more, every message has been answered. -/
theorem Turn.quiet (hlength : replies.length = requests.length) {taken given : Nat}
    (hturn : Turn requests replies state taken given) (hquiet : state.Quiet) :
    state.leftHistory = arrivals replies ∧ state.rightHistory = arrivals requests := by
  obtain ⟨hle, hnext, hgiven⟩ := hturn.order
  have hright := congrArg List.length (hturn.toRight.symm.trans hquiet.1)
  have hleft := congrArg List.length (hturn.toLeft.symm.trans hquiet.2)
  rw [List.length_drop, List.length_take, List.length_nil] at hright hleft
  rw [hturn.left, hturn.right, List.take_of_length_le (by omega),
    List.take_of_length_le (by omega)]
  exact ⟨rfl, rfl⟩

variable (left right) in
theorem deliver_of_not_quiet (hbusy : ¬ state.Quiet) :
    ∃ action next, Lossless state action ∧ step left right state action = some next ∧
      next.leftHistory.length + next.rightHistory.length =
        state.leftHistory.length + state.rightHistory.length + 1 := by
  cases hright : state.toRight with
  | cons msg rest =>
      refine ⟨.deliverRight, _, .inl rfl, by rw [step, hright], ?_⟩
      simp only [State.atRight, List.length_append, List.length_singleton]
      omega
  | nil =>
      cases hleft : state.toLeft with
      | nil => exact absurd ⟨hright, hleft⟩ hbusy
      | cons msg rest =>
          refine ⟨.deliverLeft, _, .inr rfl, by rw [step, hleft], ?_⟩
          simp only [State.atLeft, List.length_append, List.length_singleton]
          omega

/-- Where deliveries are bounded, they can go on until nothing is in flight. -/
theorem Reach.exists_quiet {most : Nat}
    (hbound : ∀ state : State Msg UL UR, Reach left right Lossless state →
      state.leftHistory.length + state.rightHistory.length ≤ most) :
    ∃ state : State Msg UL UR, Reach left right Lossless state ∧ state.Quiet := by
  have hfrom : ∀ (budget : Nat) (state : State Msg UL UR), Reach left right Lossless state →
      most ≤ state.leftHistory.length + state.rightHistory.length + budget →
        ∃ state : State Msg UL UR, Reach left right Lossless state ∧ state.Quiet := by
    intro budget
    induction budget with
    | zero =>
        intro state hreach hmost
        refine ⟨state, hreach, by_contra fun hbusy => ?_⟩
        obtain ⟨action, next, hallowed, hstep, hmore⟩ :=
          deliver_of_not_quiet left right hbusy
        have hnext := hbound next (hreach.step hallowed hstep)
        omega
    | succ budget ih =>
        intro state hreach hmost
        by_cases hquiet : state.Quiet
        · exact ⟨state, hreach, hquiet⟩
        · obtain ⟨action, next, hallowed, hstep, hmore⟩ :=
            deliver_of_not_quiet left right hquiet
          exact ih next (hreach.step hallowed hstep) (by omega)
  exact hfrom most _ .start (Nat.le_add_left _ _)

end Link

end AudioStudio
