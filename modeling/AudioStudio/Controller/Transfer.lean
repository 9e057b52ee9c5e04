import AudioStudio.Controller.Audio
import AudioStudio.Core.Ensures

/-!
# Rules for transfers

The loop that both `ac_audio_write_stream` and `ac_audio_read_stream` run, as an
induction rule: an invariant over what remains, what was read and the retries left.
-/

namespace AudioStudio.Controller

open LittleEndian

section Transfer

variable {σ : Type} {effect : Effect ControllerReply σ} {stream : Nat}
  {round : Nat → ControllerProc StreamRound}

/-- What holds before a round, when a round had to wait, and at the end of a transfer. -/
structure TransferRule (effect : Effect ControllerReply σ) (stream : Nat)
    (round : Nat → ControllerProc StreamRound) (before : Nat → Bytes → Nat → σ → Prop)
    (waiting : Nat → Bytes → Nat → σ → Prop) (post : Option Bytes → σ → Prop) : Prop where
  finished : ∀ transferred retriesLeft state, before 0 transferred retriesLeft state →
    post (some transferred) state
  round : ∀ remaining transferred retriesLeft state, remaining ≠ 0 →
    before remaining transferred retriesLeft state →
    (round remaining).Ensures effect state fun result state' =>
      match result with
      | .fail => post none state'
      | .wait => waiting remaining transferred retriesLeft state'
      | .advance count data _ =>
          before (remaining - count) (transferred ++ data) acAudioStreamWaitRetries state'
  exhausted : ∀ remaining transferred state, waiting remaining transferred 0 state →
    post none state
  wait : ∀ remaining transferred retriesLeft state,
    waiting remaining transferred (retriesLeft + 1) state →
    (acAudioWaitStreamProgress stream).Ensures effect state fun ret state' =>
      (ret ≠ 0 → post none state') ∧
        (ret = 0 → before remaining transferred retriesLeft state')

variable {before waiting : Nat → Bytes → Nat → σ → Prop} {post : Option Bytes → σ → Prop}

/-- One round, given the rest of the transfer. -/
theorem TransferRule.unroll (hrule : TransferRule effect stream round before waiting post)
    {remaining : Nat} {transferred : Bytes} {retriesLeft : Nat} {state : σ}
    (hbefore : before remaining transferred retriesLeft state)
    (hadvance : ∀ less < remaining, ∀ transferred state,
      before less transferred acAudioStreamWaitRetries state →
      (acAudioTransfer stream round less transferred acAudioStreamWaitRetries).Ensures effect
        state post)
    (hwait : ∀ left, retriesLeft = left + 1 → ∀ state, before remaining transferred left state →
      (acAudioTransfer stream round remaining transferred left).Ensures effect state post) :
    (acAudioTransfer stream round remaining transferred retriesLeft).Ensures effect state post := by
  rw [acAudioTransfer.eq_def]
  split
  · next hzero =>
      subst hzero
      exact hrule.finished _ _ _ hbefore
  · next hremaining =>
      refine (hrule.round _ _ _ _ hremaining hbefore).bind fun result state' hround => ?_
      cases result with
      | fail => exact hround
      | wait =>
          cases retriesLeft with
          | zero => exact hrule.exhausted _ _ _ hround
          | succ left =>
              refine (hrule.wait _ _ _ _ hround).bind fun ret state'' hwaited => ?_
              split
              · next hret => exact hwaited.1 hret
              · next hret => exact hwait left rfl state'' (hwaited.2 (not_not.mp hret))
      | advance count data hcount =>
          exact hadvance (remaining - count) (by omega) _ state' hround

/-- The induction is on what remains, and within it on the retries. -/
theorem TransferRule.ensures (hrule : TransferRule effect stream round before waiting post)
    (remaining : Nat) (transferred : Bytes) (retriesLeft : Nat) {state : σ}
    (hbefore : before remaining transferred retriesLeft state) :
    (acAudioTransfer stream round remaining transferred retriesLeft).Ensures effect state post := by
  induction remaining using Nat.strong_induction_on generalizing transferred retriesLeft state with
  | _ remaining ihRemaining =>
      have hadvance : ∀ less < remaining, ∀ transferred state,
          before less transferred acAudioStreamWaitRetries state →
          (acAudioTransfer stream round less transferred acAudioStreamWaitRetries).Ensures effect
            state post :=
        fun less hless transferred state hless' => ihRemaining less hless transferred _ hless'
      induction retriesLeft generalizing state with
      | zero => exact hrule.unroll hbefore hadvance nofun
      | succ retriesLeft ihRetries =>
          refine hrule.unroll hbefore hadvance fun left hleft state' hbefore' => ?_
          obtain rfl := Nat.succ.inj hleft
          exact ihRetries hbefore'

end Transfer

theorem wholeFrames_le (size frameBytes : Nat) : wholeFrames size frameBytes ≤ size :=
  Nat.div_mul_le_self _ _

theorem wholeFrames_dvd (size frameBytes : Nat) : frameBytes ∣ wholeFrames size frameBytes :=
  Nat.dvd_mul_left _ _

end AudioStudio.Controller
