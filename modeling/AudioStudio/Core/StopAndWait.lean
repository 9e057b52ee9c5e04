import AudioStudio.Core.Proc
import Mathlib.Data.List.Flatten
import Mathlib.Data.List.Nodup
import Mathlib.Data.List.ReduceOption

/-!
# Stop-and-wait transfer of fragmented packets

A sender repeats one fragment until a matching answer comes or its attempts are
used up; a receiver collects the fragments of one packet, answering each.  Both
see the link as observations: a message, or trouble (`none`).
-/

namespace AudioStudio.StopAndWait

inductive Cmd (M : Type) where
  | send (msg : M)
  | observe

def Reply {M : Type} : Cmd M → Type
  | .send _ => Unit
  | .observe => Option M

abbrev FrameProc (M α : Type) := Proc (@Reply M) α

section Commands

variable {M : Type}

def send (msg : M) : FrameProc M Unit :=
  @Proc.request _ Reply (.send msg)

def observe : FrameProc M (Option M) :=
  @Proc.request (Cmd M) Reply .observe

end Commands

/-! ## Runs over observations -/

variable {M α β : Type}

/-- A run that uses up exactly these observations and sends exactly these messages. -/
inductive Runs : FrameProc M α → List (Option M) → List M → Outcome α → Prop where
  | done (value : α) : Runs (.done value) [] [] (.done value)
  | send {msg : M} {next : Unit → FrameProc M α} {obs : List (Option M)} {sent : List M}
      {outcome : Outcome α} :
      Runs (next ()) obs sent outcome → Runs (.call (.send msg) next) obs (msg :: sent) outcome
  | observe {seen : Option M} {next : Option M → FrameProc M α} {obs : List (Option M)}
      {sent : List M} {outcome : Outcome α} :
      Runs (next seen) obs sent outcome →
        Runs (.call .observe next) (seen :: obs) sent outcome
  | waiting {next : Option M → FrameProc M α} : Runs (.call .observe next) [] [] .waiting

namespace Runs

variable {first : FrameProc M α} {obs : List (Option M)} {sent : List M}

theorem bind {rest : α → FrameProc M β} {value : α} {obs' : List (Option M)} {sent' : List M}
    {outcome : Outcome β} (hfirst : Runs first obs sent (.done value))
    (hrest : Runs (rest value) obs' sent' outcome) :
    Runs (first >>= rest) (obs ++ obs') (sent ++ sent') outcome := by
  generalize hdone : Outcome.done value = result at hfirst
  induction hfirst with
  | done value =>
      cases hdone
      exact hrest
  | send _ ih => exact .send (ih hdone)
  | observe _ ih => exact .observe (ih hdone)
  | waiting => cases hdone

theorem bind_waiting (hfirst : Runs first obs sent .waiting) (rest : α → FrameProc M β) :
    Runs (first >>= rest) obs sent .waiting := by
  generalize hwaiting : Outcome.waiting = result at hfirst
  induction hfirst with
  | done value => cases hwaiting
  | send _ ih => exact .send (ih hwaiting)
  | observe _ ih => exact .observe (ih hwaiting)
  | waiting => exact .waiting

/-- A run of two parts ends in the first part or goes through it. -/
theorem of_bind {rest : α → FrameProc M β} {outcome : Outcome β}
    (hrun : Runs (first >>= rest) obs sent outcome) :
    (outcome = .waiting ∧ Runs first obs sent .waiting) ∨
      ∃ value obs₁ obs₂ sent₁ sent₂, obs = obs₁ ++ obs₂ ∧ sent = sent₁ ++ sent₂ ∧
        Runs first obs₁ sent₁ (.done value) ∧ Runs (rest value) obs₂ sent₂ outcome := by
  induction first generalizing obs sent with
  | done value => exact .inr ⟨value, [], obs, [], sent, rfl, rfl, .done value, hrun⟩
  | call cmd next ih =>
      cases cmd with
      | send msg =>
          cases hrun with
          | send hnext =>
              rcases ih () hnext with ⟨hout, hwait⟩ | ⟨value, o₁, o₂, s₁, s₂, ho, hs, h₁, h₂⟩
              · exact .inl ⟨hout, .send hwait⟩
              · exact .inr ⟨value, o₁, o₂, msg :: s₁, s₂, ho, by rw [hs]; rfl, .send h₁, h₂⟩
      | observe =>
          cases hrun with
          | @observe seen _ _ _ _ hnext =>
              rcases ih seen hnext with ⟨hout, hwait⟩ | ⟨value, o₁, o₂, s₁, s₂, ho, hs, h₁, h₂⟩
              · exact .inl ⟨hout, .observe hwait⟩
              · exact .inr ⟨value, seen :: o₁, o₂, s₁, s₂, by rw [ho]; rfl, hs, .observe h₁, h₂⟩
          | waiting => exact .inl ⟨rfl, .waiting⟩
  | fault => cases hrun
  | spent => cases hrun

end Runs

/-- Calls made one after another, up to the first that is still waiting. -/
inductive RunsAll : List (FrameProc M α) → List (Option M) → List M → List α → Prop where
  | nil : RunsAll [] [] [] []
  | cons {call : FrameProc M α} {calls : List (FrameProc M α)} {obs obs' : List (Option M)}
      {sent sent' : List M} {value : α} {values : List α} :
      Runs call obs sent (.done value) → RunsAll calls obs' sent' values →
        RunsAll (call :: calls) (obs ++ obs') (sent ++ sent') (value :: values)
  | pending {call : FrameProc M α} {calls : List (FrameProc M α)} {obs : List (Option M)}
      {sent : List M} :
      Runs call obs sent .waiting → RunsAll (call :: calls) obs sent []

variable {obs : List (Option M)} {sent : List M}

theorem RunsAll.length_le {calls : List (FrameProc M α)} {values : List α}
    (hrun : RunsAll calls obs sent values) : values.length ≤ calls.length := by
  induction hrun with
  | nil => exact Nat.le_refl _
  | cons _ _ ih => exact Nat.succ_le_succ ih
  | pending => exact Nat.zero_le _

/-! ## The sender -/

/-- How fragments of one packet are told apart and answered. -/
structure Format (M : Type) where
  /-- How many fragments follow a first fragment; `none` for any other message. -/
  opens : M → Option Nat
  /-- Whether a message is the expected later fragment after a first one. -/
  continues : M → Nat → M → Bool
  ack : M → M
  /-- What is sent when a message is not the expected fragment. -/
  refusal : M → Nat → M → List M
  answers : M → M → Bool

variable (format : Format M)

def transmit (frame : M) : Nat → FrameProc M Bool
  | 0 => .done false
  | attempts + 1 => do
      send frame
      let reply ← observe
      if reply.any (format.answers · frame) then .done true else transmit frame attempts

def transmitAll (attempts : Nat) : List M → FrameProc M Bool
  | [] => .done true
  | frame :: frames => do
      if ← transmit format frame attempts then transmitAll attempts frames else .done false

/-- A packet without fragments is one the sender refuses. -/
def sendPacket (attempts : Nat) (frames : List M) : FrameProc M Bool :=
  if frames.isEmpty then .done false else transmitAll format attempts frames

variable {format}

def Acknowledged (format : Format M) (obs : List (Option M)) (frame : M) : Prop :=
  ∃ reply, some reply ∈ obs ∧ format.answers reply frame = true

variable {frame : M}

theorem Acknowledged.mono {obs' : List (Option M)} (hsubset : obs ⊆ obs')
    (hack : Acknowledged format obs frame) : Acknowledged format obs' frame := by
  obtain ⟨reply, hmem, hanswers⟩ := hack
  exact ⟨reply, hsubset hmem, hanswers⟩

variable {attempts : Nat}

theorem transmit_runs {outcome : Outcome Bool}
    (hrun : Runs (transmit format frame attempts) obs sent outcome) :
    sent.Sublist (List.replicate attempts frame) ∧
      (outcome = .done true → Acknowledged format obs frame) := by
  induction attempts generalizing obs sent with
  | zero =>
      cases hrun
      exact ⟨List.Sublist.refl _, nofun⟩
  | succ attempts ih =>
      cases hrun with
      | send hrun =>
          cases hrun with
          | waiting => exact ⟨by simp, nofun⟩
          | @observe seen _ obs sent _ hrun =>
              simp only [Proc.bind] at hrun
              split at hrun
              · next hany =>
                  cases hrun
                  refine ⟨by simp [List.replicate_succ], fun _ => ?_⟩
                  cases seen with
                  | none => cases hany
                  | some reply => exact ⟨reply, by simp, hany⟩
              · have hrest := ih hrun
                refine ⟨hrest.1.cons_cons frame, fun hdone => ?_⟩
                exact (hrest.2 hdone).mono (List.subset_cons_self _ _)

variable {frames : List M}

theorem transmitAll_runs {outcome : Outcome Bool}
    (hrun : Runs (transmitAll format attempts frames) obs sent outcome) :
    sent.Sublist (frames.flatMap (List.replicate attempts)) ∧
      (outcome = .done true → ∀ frame ∈ frames, Acknowledged format obs frame) := by
  induction frames generalizing obs sent with
  | nil =>
      cases hrun
      exact ⟨List.Sublist.refl _, fun _ _ hmem => by cases hmem⟩
  | cons frame frames ih =>
      rw [List.flatMap_cons]
      rcases hrun.of_bind with ⟨rfl, hwait⟩ | ⟨acked, o₁, o₂, s₁, s₂, rfl, rfl, hfirst, hrest⟩
      · exact ⟨(transmit_runs hwait).1.trans (List.sublist_append_left _ _), nofun⟩
      · have hframe := transmit_runs hfirst
        cases acked with
        | false =>
            cases hrest
            exact ⟨by simpa using hframe.1.trans (List.sublist_append_left _ _),
              nofun⟩
        | true =>
            have hframes := ih hrest
            refine ⟨hframe.1.append hframes.1, fun hdone other hmem => ?_⟩
            rcases List.mem_cons.mp hmem with rfl | hmem
            · exact (hframe.2 rfl).mono (List.subset_append_left _ _)
            · exact (hframes.2 hdone other hmem).mono (List.subset_append_right _ _)

theorem sendPacket_runs {outcome : Outcome Bool}
    (hrun : Runs (sendPacket format attempts frames) obs sent outcome) :
    sent.Sublist (frames.flatMap (List.replicate attempts)) ∧
      (outcome = .done true →
        frames ≠ [] ∧ ∀ frame ∈ frames, Acknowledged format obs frame) := by
  cases frames with
  | nil =>
      cases hrun
      exact ⟨List.Sublist.refl _, nofun⟩
  | cons frame frames =>
      have hall := transmitAll_runs hrun
      exact ⟨hall.1, fun hdone => ⟨List.cons_ne_nil _ _, hall.2 hdone⟩⟩

variable {packets : List (List M)}

/-- Over a whole session every fragment is sent in order and a bounded number of
times, and every fragment of a packet that was sent with success was answered. -/
theorem sendPackets_runs {successes : List Bool}
    (hrun : RunsAll (packets.map (sendPacket format attempts)) obs sent successes) :
    sent.Sublist (packets.flatten.flatMap (List.replicate attempts)) ∧
      ∀ (k : Nat) (frames : List M), successes[k]? = some true → packets[k]? = some frames →
        frames ≠ [] ∧ ∀ frame ∈ frames, Acknowledged format obs frame := by
  induction packets generalizing obs sent successes with
  | nil =>
      cases hrun
      exact ⟨List.Sublist.refl _, fun k frames hsuccess => by simp at hsuccess⟩
  | cons packet packets ih =>
      rw [List.flatten_cons, List.flatMap_append]
      cases hrun with
      | pending hwait =>
          exact ⟨(sendPacket_runs hwait).1.trans (List.sublist_append_left _ _),
            fun k frames hsuccess => by simp at hsuccess⟩
      | cons hfirst hrest =>
          have hpacket := sendPacket_runs hfirst
          have hpackets := ih hrest
          refine ⟨hpacket.1.append hpackets.1, fun k frames hsuccess hframes => ?_⟩
          cases k with
          | zero =>
              simp only [List.getElem?_cons_zero, Option.some.injEq] at hsuccess hframes
              subst hsuccess hframes
              have hacked := hpacket.2 rfl
              exact ⟨hacked.1, fun frame hmem =>
                (hacked.2 frame hmem).mono (List.subset_append_left _ _)⟩
          | succ k =>
              have hacked := hpackets.2 k frames hsuccess hframes
              exact ⟨hacked.1, fun frame hmem =>
                (hacked.2 frame hmem).mono (List.subset_append_right _ _)⟩

/-! ## The receiver -/

def sendEach : List M → FrameProc M Unit
  | [] => .done ()
  | msg :: msgs => do
      send msg
      sendEach msgs

variable (format)

/-- Collect the fragments from `expected` on, with `rest` of them to go. -/
def collect (first : M) : (rest : Nat) → (expected : Nat) → (collected : List M) →
    FrameProc M (Option (List M))
  | 0, _, collected => .done (some collected)
  | rest + 1, expected, collected => do
      match ← observe with
      | none => .done none
      | some frame =>
          if format.continues first expected frame then do
            send (format.ack frame)
            collect first rest (expected + 1) (collected ++ [frame])
          else do
            sendEach (format.refusal first expected frame)
            .done none

def receivePacket : FrameProc M (Option (List M)) := do
  match ← observe with
  | none => .done none
  | some first =>
      match format.opens first with
      | none => .done none
      | some rest => do
          send (format.ack first)
          collect format first rest 1 [first]

/-- `frame` is taken as fragment `index` of a packet that `first` opened, with `rest`
fragments after the first. -/
structure Taken (first : M) (rest index : Nat) (frame : M) : Prop where
  opens : format.opens first = some rest
  index_le : index ≤ rest
  fits : index = 0 ∧ frame = first ∨ 0 < index ∧ format.continues first index frame = true

/-- The fragments taken so far, in order. -/
def Collected (first : M) (rest : Nat) (frames : List M) : Prop :=
  ∀ (index : Nat) (frame : M), frames[index]? = some frame →
    Taken format first rest index frame

def Refusal (reply : M) : Prop :=
  ∃ first index frame, reply ∈ format.refusal first index frame

variable {format}

theorem sendEach_runs {msgs : List M} {outcome : Outcome Unit}
    (hrun : Runs (sendEach msgs) obs sent outcome) : obs = [] ∧ sent = msgs := by
  induction msgs generalizing obs sent with
  | nil =>
      cases hrun
      exact ⟨rfl, rfl⟩
  | cons msg msgs ih =>
      cases hrun with
      | send hrun =>
          obtain ⟨rfl, rfl⟩ := ih hrun
          exact ⟨rfl, rfl⟩

variable {first : M}

theorem Collected.snoc {rest : Nat} (hframes : Collected format first rest frames)
    (hframe : Taken format first rest frames.length frame) :
    Collected format first rest (frames ++ [frame]) := by
  intro index other hget
  rcases Nat.lt_trichotomy index frames.length with hlt | rfl | hgt
  · rw [List.getElem?_append_left hlt] at hget
    exact hframes index other hget
  · rw [List.getElem?_concat_length, Option.some.injEq] at hget
    exact hget ▸ hframe
  · rw [List.getElem?_eq_none (by simp; omega)] at hget
    cases hget

/-- What a receive call that got as far as a first fragment has done: the fragments
it took in order, each acknowledged, and whether they are all of the packet. -/
structure Progress (format : Format M) (first : M) (total : Nat) (frames : List M)
    (obs : List (Option M)) (sent : List M) (outcome : Outcome (Option (List M))) : Prop where
  collected : Collected format first total frames
  observed : frames.map some <+: obs
  sent : ∃ refusals, sent = frames.map format.ack ++ refusals ∧
    ∀ reply ∈ refusals, Refusal format reply
  ended : outcome = .done (some frames) ∧ frames.length = total + 1 ∨
    (∀ frames, outcome ≠ .done (some frames)) ∧ frames.length ≤ total

variable {outcome : Outcome (Option (List M))} {total : Nat}

theorem collect_runs {rest expected : Nat} {collected : List M}
    (hcollected : Collected format first total collected) (hopens : format.opens first = some total)
    (hlength : collected.length = expected) (hrest : expected + rest = total + 1)
    (hexpected : 0 < expected) {seen : List (Option M)} (hseen : collected.map some = seen)
    (hrun : Runs (collect format first rest expected collected) obs sent outcome) :
    ∃ frames, frames.head? = collected.head? ∧
      Progress format first total frames (seen ++ obs) (collected.map format.ack ++ sent)
        outcome := by
  induction rest generalizing expected collected seen obs sent with
  | zero =>
      cases hrun
      refine ⟨collected, rfl, hcollected, by simp [hseen], ⟨[], by simp, by simp⟩, .inl ⟨rfl, ?_⟩⟩
      omega
  | succ rest ih =>
      have hshort : collected.length ≤ total := by omega
      cases hrun with
      | waiting =>
          exact ⟨collected, rfl, hcollected, by simp [hseen], ⟨[], by simp, by simp⟩,
            .inr ⟨nofun, hshort⟩⟩
      | @observe seen' _ obs sent _ hrun =>
          simp only [Proc.bind] at hrun
          cases seen' with
          | none =>
              cases hrun
              exact ⟨collected, rfl, hcollected, by simp [hseen], ⟨[], by simp, by simp⟩,
                .inr ⟨nofun, hshort⟩⟩
          | some frame =>
              dsimp only at hrun
              split at hrun
              · next hcontinues =>
                  cases hrun with
                  | @send _ _ _ sent _ hrun =>
                      simp only [Proc.bind] at hrun
                      have htaken : Taken format first total collected.length frame :=
                        ⟨hopens, hshort, .inr ⟨by omega, by rwa [hlength]⟩⟩
                      obtain ⟨frames, hhead, hprogress⟩ := ih (hcollected.snoc htaken)
                        (by simp [hlength]) (by omega) (by omega)
                        (by simp [hseen] : _ = seen ++ [some frame]) hrun
                      have hne : collected ≠ [] := List.ne_nil_of_length_pos (by omega)
                      refine ⟨frames, by simp [hhead, List.head?_append_of_ne_nil _ hne], ?_⟩
                      simpa using hprogress
              · rcases hrun.of_bind with
                  ⟨rfl, hwait⟩ | ⟨_, o₁, o₂, s₁, s₂, rfl, rfl, hsend, hnone⟩
                · obtain ⟨rfl, rfl⟩ := sendEach_runs hwait
                  exact ⟨collected, rfl, hcollected, by simp [hseen],
                    ⟨_, rfl, fun reply hmem => ⟨_, _, _, hmem⟩⟩,
                    .inr ⟨nofun, hshort⟩⟩
                · obtain ⟨rfl, rfl⟩ := sendEach_runs hsend
                  cases hnone
                  exact ⟨collected, rfl, hcollected, by simp [hseen],
                    ⟨format.refusal first expected frame, by simp,
                      fun reply hmem => ⟨_, _, _, hmem⟩⟩,
                    .inr ⟨nofun, hshort⟩⟩

theorem receivePacket_runs (hrun : Runs (receivePacket format) obs sent outcome) :
    (sent = [] ∧ ∀ frames, outcome ≠ .done (some frames)) ∨
      ∃ first total frames, frames.head? = some first ∧
        Progress format first total frames obs sent outcome := by
  cases hrun with
  | waiting => exact .inl ⟨rfl, nofun⟩
  | @observe seen _ obs sent _ hrun =>
      simp only [Proc.bind] at hrun
      cases seen with
      | none =>
          cases hrun
          exact .inl ⟨rfl, nofun⟩
      | some first =>
          dsimp only at hrun
          split at hrun
          · cases hrun
            exact .inl ⟨rfl, nofun⟩
          · next total hopens =>
              cases hrun with
              | send hrun =>
                  simp only [Proc.bind] at hrun
                  have hfirst : Collected format first total [first] := by
                    intro index frame hget
                    cases index with
                    | zero =>
                        cases hget
                        exact ⟨hopens, Nat.zero_le _, .inl ⟨rfl, rfl⟩⟩
                    | succ index => simp at hget
                  obtain ⟨frames, hhead, hprogress⟩ := collect_runs hfirst hopens rfl
                    (Nat.add_comm 1 total) Nat.one_pos rfl hrun
                  exact .inr ⟨first, total, frames, hhead, hprogress⟩

/-- All fragments of one packet, from the one that opens it on. -/
def Whole (format : Format M) (frames : List M) : Prop :=
  ∃ first total, frames.head? = some first ∧ frames.length = total + 1 ∧
    Collected format first total frames

/-- Why a receiver's session sent a reply: it refused something, or it took a
fragment, and if that was a packet's last fragment the packet was delivered. -/
def Justified (format : Format M) (observed : List M) (delivered : List (List M))
    (reply : M) : Prop :=
  Refusal format reply ∨
    ∃ first total index frame, reply = format.ack frame ∧ first ∈ observed ∧
      frame ∈ observed ∧ Taken format first total index frame ∧
      (index = total → ∃ frames ∈ delivered, frames[index]? = some frame)

variable {delivered : List (List M)}

theorem Justified.mono {observed observed' : List M} {delivered' : List (List M)} {reply : M}
    (hobserved : observed ⊆ observed') (hdelivered : delivered ⊆ delivered')
    (hreply : Justified format observed delivered reply) :
    Justified format observed' delivered' reply := by
  rcases hreply with hrefusal | ⟨first, total, index, frame, hack, hfirst, hframe, htaken, hlast⟩
  · exact .inl hrefusal
  · refine .inr ⟨first, total, index, frame, hack, hobserved hfirst, hobserved hframe, htaken,
      fun heq => ?_⟩
    obtain ⟨frames, hmem, hframes⟩ := hlast heq
    exact ⟨frames, hdelivered hmem, hframes⟩

theorem reduceOption_map_some (frames : List M) : (frames.map some).reduceOption = frames := by
  induction frames with
  | nil => rfl
  | cons frame frames ih => rw [List.map_cons, List.reduceOption_cons_of_some, ih]

theorem Progress.sublist (hprogress : Progress format first total frames obs sent outcome) :
    frames.Sublist obs.reduceOption := by
  obtain ⟨trail, htrail⟩ := hprogress.observed
  rw [← htrail, List.reduceOption_append, reduceOption_map_some]
  exact List.sublist_append_left _ _

theorem Progress.justified (hhead : frames.head? = some first)
    (hprogress : Progress format first total frames obs sent outcome)
    (hdelivered : outcome = .done (some frames) → frames ∈ delivered) :
    ∀ reply ∈ sent, Justified format obs.reduceOption delivered reply := by
  obtain ⟨refusals, rfl, hrefusals⟩ := hprogress.sent
  have hobserved := hprogress.sublist.subset
  intro reply hmem
  rcases List.mem_append.mp hmem with hack | hrefusal
  · obtain ⟨frame, hframe, rfl⟩ := List.mem_map.mp hack
    obtain ⟨index, hindex, hget⟩ := List.mem_iff_getElem.mp hframe
    have hget? : frames[index]? = some frame := by simp [hindex, hget]
    refine .inr ⟨first, total, index, frame, rfl, hobserved (List.mem_of_mem_head? hhead),
      hobserved hframe, hprogress.collected index frame hget?, fun heq => ?_⟩
    rcases hprogress.ended with ⟨hdone, _⟩ | ⟨_, hshort⟩
    · exact ⟨frames, hdelivered hdone, hget?⟩
    · omega
  · exact .inl (hrefusals reply hrefusal)

/-- Over a whole session the delivered packets are, in order, among what was
observed, each is whole, and every reply is justified. -/
theorem receivePackets_runs {calls : Nat} {received : List (Option (List M))}
    (hrun : RunsAll (List.replicate calls (receivePacket format)) obs sent received) :
    received.reduceOption.flatten.Sublist obs.reduceOption ∧
      (∀ frames ∈ received.reduceOption, Whole format frames) ∧
      ∀ reply ∈ sent, Justified format obs.reduceOption received.reduceOption reply := by
  induction calls generalizing obs sent received with
  | zero =>
      cases hrun
      exact ⟨List.Sublist.refl _, by simp, by simp⟩
  | succ calls ih =>
      rw [List.replicate_succ] at hrun
      cases hrun with
      | pending hwait =>
          refine ⟨by simp, by simp, fun reply hmem => ?_⟩
          rcases receivePacket_runs hwait with ⟨rfl, _⟩ | ⟨first, total, frames, hhead, hprogress⟩
          · cases hmem
          · exact hprogress.justified hhead nofun reply hmem
      | @cons _ _ obs₁ obs₂ sent₁ sent₂ value received hfirst hrest =>
          obtain ⟨hsub, hwhole, hjust⟩ := ih hrest
          rw [List.reduceOption_append]
          have hmore : ∀ reply ∈ sent₂, Justified format (obs₁.reduceOption ++ obs₂.reduceOption)
              (value :: received).reduceOption reply := by
            intro reply hmem
            refine (hjust reply hmem).mono (List.subset_append_right _ _) ?_
            cases value with
            | none => exact List.Subset.refl _
            | some frames => exact List.subset_cons_self _ _
          rcases receivePacket_runs hfirst with
            ⟨rfl, hnone⟩ | ⟨first, total, frames, hhead, hprogress⟩
          · cases value with
            | some frames => exact absurd rfl (hnone frames)
            | none =>
                exact ⟨hsub.trans (List.sublist_append_right _ _), hwhole, hmore⟩
          · have hreplies : ∀ reply ∈ sent₁ ++ sent₂,
                Justified format (obs₁.reduceOption ++ obs₂.reduceOption)
                  (value :: received).reduceOption reply := by
              intro reply hmem
              rcases List.mem_append.mp hmem with hmem | hmem
              · refine (hprogress.justified hhead (fun hdone => ?_) reply hmem).mono
                  (List.subset_append_left _ _) (List.Subset.refl _)
                cases hdone
                exact List.mem_cons_self
              · exact hmore reply hmem
            cases value with
            | none => exact ⟨hsub.trans (List.sublist_append_right _ _), hwhole, hreplies⟩
            | some delivered =>
                rcases hprogress.ended with ⟨hdone, hlength⟩ | ⟨hnone, _⟩
                · cases hdone
                  refine ⟨hprogress.sublist.append hsub, ?_, hreplies⟩
                  intro other hmem
                  rcases List.mem_cons.mp hmem with rfl | hmem
                  · exact ⟨first, total, hhead, hlength, hprogress.collected⟩
                  · exact hwhole other hmem
                · exact absurd rfl (hnone delivered)

/-! ## Exactly-once delivery -/

/-- The packets of a session can be told apart: their fragments are all different,
and a fragment is only taken in its own place. -/
structure Distinguishes (format : Format M) (packets : List (List M)) : Prop where
  nodup : packets.flatten.Nodup
  opens : ∀ frames ∈ packets, ∀ frame ∈ frames, ∀ rest, format.opens frame = some rest →
    frames.head? = some frame ∧ frames.length = rest + 1
  continues : ∀ frames ∈ packets, ∀ first rest, frames.head? = some first →
    format.opens first = some rest → ∀ other ∈ packets.flatten, ∀ index, 0 < index →
      index ≤ rest → format.continues first index other = true → frames[index]? = some other
  answers : ∀ frame ∈ packets.flatten, ∀ other ∈ packets.flatten,
    format.answers (format.ack frame) other = true → frame = other
  refusal : ∀ reply, Refusal format reply → ∀ frame ∈ packets.flatten,
    format.answers reply frame = false

theorem Distinguishes.taken (hdist : Distinguishes format packets) {index : Nat}
    (hfirst : first ∈ packets.flatten) (hframe : frame ∈ packets.flatten)
    (htaken : Taken format first total index frame) :
    ∃ frames ∈ packets, frames.head? = some first ∧ frames.length = total + 1 ∧
      frames[index]? = some frame := by
  obtain ⟨frames, hframes, hmem⟩ := List.mem_flatten.mp hfirst
  obtain ⟨hhead, hlength⟩ := hdist.opens frames hframes first hmem total htaken.opens
  refine ⟨frames, hframes, hhead, hlength, ?_⟩
  rcases htaken.fits with ⟨rfl, rfl⟩ | ⟨hpos, hcontinues⟩
  · rw [← List.head?_eq_getElem?, hhead]
  · exact hdist.continues frames hframes first total hhead htaken.opens frame hframe index hpos
      htaken.index_le hcontinues

theorem Distinguishes.index_unique (hdist : Distinguishes format packets) {j k : Nat}
    (hj : j < packets.length) (hk : k < packets.length) (hmem : frame ∈ packets[j])
    (hmem' : frame ∈ packets[k]) : j = k := by
  have hdisjoint := List.pairwise_iff_getElem.mp (List.nodup_flatten.mp hdist.nodup).2
  rcases Nat.lt_trichotomy j k with hlt | heq | hgt
  · exact absurd hmem' (hdisjoint j k hj hk hlt hmem)
  · exact heq
  · exact absurd hmem (hdisjoint k j hk hj hgt hmem')

/-- A whole packet made of sent fragments is one of the packets sent. -/
theorem Distinguishes.whole (hdist : Distinguishes format packets)
    (hsubset : frames ⊆ packets.flatten) (hwhole : Whole format frames) : frames ∈ packets := by
  obtain ⟨first, total, hhead, hlength, hcollected⟩ := hwhole
  have hfirst := hcollected 0 first (by rw [← List.head?_eq_getElem?, hhead])
  have hmem : first ∈ frames := List.mem_of_mem_head? hhead
  obtain ⟨sent, hsent, hsentHead, hsentLength, _⟩ :=
    hdist.taken (hsubset hmem) (hsubset hmem) hfirst
  suffices hsame : sent = frames by rwa [← hsame]
  refine List.ext_getElem (by omega) fun index hindex hindex' => ?_
  have htaken := hcollected index frames[index] (by simp [hindex'])
  rcases htaken.fits with ⟨rfl, heq⟩ | ⟨hpos, hcontinues⟩
  · rw [heq]
    rw [List.head?_eq_getElem?] at hsentHead
    exact (List.getElem?_eq_some_iff.mp hsentHead).2
  · have hget := hdist.continues sent hsent first total hsentHead hfirst.opens frames[index]
      (hsubset (List.getElem_mem hindex')) index hpos htaken.index_le hcontinues
    exact (List.getElem?_eq_some_iff.mp hget).2

/-- Packets delivered from an in-order, finitely repeated stream come in the order in
which they were sent; only a packet of one fragment could come twice. -/
theorem delivered_increasing [DecidableEq M] {received : List M} (hnodup : packets.flatten.Nodup)
    (hreceived : received.Sublist (packets.flatten.flatMap (List.replicate attempts)))
    (hsole : received.Pairwise fun frame later => [frame] ∈ packets → frame ≠ later)
    (hdelivered : delivered.flatten.Sublist received)
    (hpackets : ∀ frames ∈ delivered, frames ∈ packets) (hne : ∀ frames ∈ delivered, frames ≠ []) :
    (delivered.map packets.idxOf).Pairwise (· < ·) := by
  let rank := packets.flatten.idxOf
  have hrank : packets.flatten.Pairwise fun frame later => rank frame < rank later := by
    rw [List.pairwise_iff_getElem]
    intro i j hi hj hij
    simp only [rank, List.Nodup.idxOf_getElem hnodup, hij]
  have hrepeated : (packets.flatten.flatMap (List.replicate attempts)).Pairwise
      fun frame later => rank frame ≤ rank later := by
    rw [List.pairwise_flatMap]
    refine ⟨fun frame _ => List.pairwise_replicate.mpr (.inr (Nat.le_refl _)), ?_⟩
    refine hrank.imp fun {frame later} hlt x hx y hy => ?_
    rw [List.eq_of_mem_replicate hx, List.eq_of_mem_replicate hy]
    exact Nat.le_of_lt hlt
  have hstream := (hrepeated.sublist hreceived).and hsole |>.sublist hdelivered
  rw [List.pairwise_flatten] at hstream hrank
  rw [List.pairwise_map]
  refine (hstream.2.imp_of_mem ?_)
  intro frames later hframes hlater hbefore
  have hk := List.idxOf_lt_length_iff.mpr (hpackets frames hframes)
  have hk' := List.idxOf_lt_length_iff.mpr (hpackets later hlater)
  have hgetk : packets[packets.idxOf frames] = frames := List.getElem_idxOf hk
  have hgetk' : packets[packets.idxOf later] = later := List.getElem_idxOf hk'
  rcases Nat.lt_trichotomy (packets.idxOf frames) (packets.idxOf later) with hlt | heq | hgt
  · exact hlt
  · have hsame : frames = later := by rw [← hgetk, ← hgetk']; simp only [heq]
    subst hsame
    obtain ⟨frame, rest, rfl⟩ := List.exists_cons_of_ne_nil (hne frames hframes)
    cases rest with
    | nil =>
        exact absurd rfl ((hbefore frame List.mem_cons_self frame List.mem_cons_self).2
          (hpackets _ hframes))
    | cons second rest =>
        have hback := (hbefore second (by simp) frame (by simp)).1
        have hforth := (List.pairwise_cons.mp (hrank.1 _ (hpackets _ hframes))).1 second (by simp)
        omega
  · have hbetween := List.pairwise_iff_getElem.mp hrank.2 _ _ hk' hk hgt
    rw [hgetk, hgetk'] at hbetween
    obtain ⟨frame, hframe⟩ := List.exists_mem_of_ne_nil _ (hne frames hframes)
    obtain ⟨other, hother⟩ := List.exists_mem_of_ne_nil _ (hne later hlater)
    have hback := (hbefore frame hframe other hother).1
    have hforth := hbetween other hother frame hframe
    omega

/-- A sender and a receiver whose observations come in order from what the other sent:
packets are delivered in order, none twice, and every packet whose sending succeeded
is delivered, as long as no fragment that is a whole packet arrives twice. -/
theorem exactly_once [DecidableEq M] (hdist : Distinguishes format packets) {calls : Nat}
    {obsLeft obsRight : List (Option M)} {sentLeft sentRight : List M} {successes : List Bool}
    {received : List (Option (List M))}
    (hsend : RunsAll (packets.map (sendPacket format attempts)) obsLeft sentLeft successes)
    (hreceive : RunsAll (List.replicate calls (receivePacket format)) obsRight sentRight received)
    (hright : obsRight.reduceOption.Sublist sentLeft)
    (hleft : obsLeft.reduceOption.Sublist sentRight)
    (hsole : obsRight.reduceOption.Pairwise fun frame later => [frame] ∈ packets → frame ≠ later) :
    ∃ ks : List Nat, ks.Pairwise (· < ·) ∧
      ks.map (packets[·]?) = received.reduceOption.map some ∧
      ∀ k, successes[k]? = some true → k ∈ ks := by
  obtain ⟨hsent, hacked⟩ := sendPackets_runs hsend
  obtain ⟨hdelivered, hwhole, hjust⟩ := receivePackets_runs hreceive
  have hobserved : obsRight.reduceOption ⊆ packets.flatten := by
    intro frame hmem
    obtain ⟨other, hother, hmem⟩ := List.mem_flatMap.mp ((hright.trans hsent).subset hmem)
    rwa [List.eq_of_mem_replicate hmem]
  have hpackets : ∀ frames ∈ received.reduceOption, frames ∈ packets := by
    intro frames hmem
    refine hdist.whole (fun frame hframe => hobserved (hdelivered.subset ?_)) (hwhole frames hmem)
    exact List.mem_flatten.mpr ⟨frames, hmem, hframe⟩
  have hne : ∀ frames ∈ received.reduceOption, frames ≠ [] := by
    intro frames hmem hnil
    obtain ⟨first, total, hhead, _⟩ := hwhole frames hmem
    simp [hnil] at hhead
  refine ⟨received.reduceOption.map packets.idxOf,
    delivered_increasing hdist.nodup (hright.trans hsent) hsole hdelivered hpackets hne, ?_, ?_⟩
  · rw [List.map_map]
    refine List.map_congr_left fun frames hmem => ?_
    exact List.getElem?_idxOf (hpackets frames hmem)
  · intro k hsuccess
    have hk : k < packets.length := by
      have hlength := (List.getElem?_eq_some_iff.mp hsuccess).1
      have hbound := hsend.length_le
      rw [List.length_map] at hbound
      omega
    obtain ⟨hnonempty, hall⟩ := hacked k packets[k] hsuccess (by simp [hk])
    obtain ⟨reply, hreply, hanswers⟩ := hall _ (List.getLast_mem hnonempty)
    have hlast : packets[k].getLast hnonempty ∈ packets.flatten :=
      List.mem_flatten.mpr ⟨_, List.getElem_mem hk, List.getLast_mem hnonempty⟩
    have hsentReply : reply ∈ sentRight :=
      hleft.subset (List.reduceOption_mem_iff.mpr hreply)
    rcases hjust reply hsentReply with
      hrefusal | ⟨first, total, index, frame, rfl, hfirst, hframe, htaken, hend⟩
    · rw [hdist.refusal reply hrefusal _ hlast] at hanswers
      cases hanswers
    · have hsame := hdist.answers frame (hobserved hframe) _ hlast hanswers
      obtain ⟨frames, hframes, hhead, hlength, hget⟩ :=
        hdist.taken (hobserved hfirst) (hobserved hframe) htaken
      obtain ⟨j, hj, rfl⟩ := List.mem_iff_getElem.mp hframes
      have hmem : frame ∈ packets[j] := List.mem_of_getElem? hget
      obtain rfl : j = k := hdist.index_unique hj hk hmem (hsame ▸ List.getLast_mem hnonempty)
      have hindex : index = total := by
        have hnodup := (List.nodup_flatten.mp hdist.nodup).1 _ hframes
        have hend : packets[j][packets[j].length - 1]? = some frame := by
          rw [hsame, List.getElem?_eq_getElem (by omega), ← List.getLast_eq_getElem hnonempty]
        have heq := (List.getElem?_inj (List.getElem?_eq_some_iff.mp hget).1 hnodup).mp
          (hget.trans hend.symm)
        omega
      obtain ⟨frames', hframes', hget'⟩ := hend hindex
      refine List.mem_map.mpr ⟨frames', hframes', ?_⟩
      have hin := hpackets frames' hframes'
      have hfound := List.idxOf_lt_length_iff.mpr hin
      refine hdist.index_unique hfound hj ?_ hmem
      rw [List.getElem_idxOf hfound]
      exact List.mem_of_getElem? hget'

end AudioStudio.StopAndWait
