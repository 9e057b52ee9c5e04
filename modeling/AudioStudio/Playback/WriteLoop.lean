import AudioStudio.Controller.Transfer
import Mathlib.Data.List.Infix

/-!
# The write loop

`ac_audio_write_stream` against a SOF stream that answers at will: what is handed over,
what is taken, how often the loop waits in a row and what it counts.
-/

namespace AudioStudio.Playback

open AudioStudio.Controller
open LittleEndian

/-! ## Histories -/

/-- What a write loop does: it hands bytes to `sof_stream_write`, which takes the first
`taken` of them, it waits for progress, or it stores its count of frames. -/
inductive WriteEvent where
  | write (data : Bytes) (taken : Nat)
  | wait
  | count (framesWritten : Nat)
  deriving DecidableEq, Repr

/-- The bytes that SOF has taken. -/
def takenIn (events : List WriteEvent) : Bytes :=
  events.flatMap fun
    | .write data taken => data.take taken
    | _ => []

/-- How often the loop has waited since SOF last took something. -/
def stallsAfter (stalls : Nat) : WriteEvent → Nat
  | .write _ taken => if taken = 0 then stalls else 0
  | .wait => stalls + 1
  | .count _ => stalls

def stalls (events : List WriteEvent) : Nat :=
  events.foldl stallsAfter 0

/-- What an event may be, given what happened before it: a chunk of whole frames that
continues the payload, not too many waits in a row, and no frame counted too early. -/
def Allowed (payload : Bytes) (frameBytes framesBefore : Nat) (before : List WriteEvent) :
    WriteEvent → Prop
  | .write data taken => 0 < data.length ∧ frameBytes ∣ data.length ∧ taken ≤ data.length ∧
      takenIn before ++ data <+: payload
  | .wait => stalls before < acAudioStreamWaitRetries
  | .count framesWritten =>
      framesWritten * frameBytes ≤ framesBefore * frameBytes + (takenIn before).length

def Orderly (payload : Bytes) (frameBytes framesBefore : Nat) (events : List WriteEvent) : Prop :=
  ∀ before event after, events = before ++ event :: after →
    Allowed payload frameBytes framesBefore before event

section Histories

variable {payload : Bytes} {frameBytes framesBefore : Nat} {events : List WriteEvent}

theorem takenIn_snoc (event : WriteEvent) :
    takenIn (events ++ [event]) = takenIn events ++ takenIn [event] :=
  List.flatMap_append

theorem stalls_snoc (event : WriteEvent) :
    stalls (events ++ [event]) = stallsAfter (stalls events) event := by
  rw [stalls, List.foldl_append]
  rfl

theorem orderly_nil : Orderly payload frameBytes framesBefore [] := by
  intro before event after hsplit
  cases before <;> cases hsplit

theorem Orderly.snoc (horderly : Orderly payload frameBytes framesBefore events)
    {event : WriteEvent} (hallowed : Allowed payload frameBytes framesBefore events event) :
    Orderly payload frameBytes framesBefore (events ++ [event]) := by
  intro before other after hsplit
  rcases List.eq_nil_or_concat after with hnil | ⟨after', last, hlast⟩
  · subst hnil
    obtain ⟨hbefore, hother⟩ := List.append_inj' hsplit rfl
    cases hother
    exact hbefore ▸ hallowed
  · subst hlast
    rw [List.concat_eq_append, ← List.cons_append, ← List.append_assoc] at hsplit
    exact horderly before other after' (List.append_inj' hsplit rfl).1

/-- At every moment the loop has waited at most 5000 times since SOF took something. -/
theorem Orderly.stalls_le (horderly : Orderly payload frameBytes framesBefore events) :
    stalls events ≤ acAudioStreamWaitRetries := by
  induction events using List.reverseRecOn with
  | nil => exact Nat.zero_le _
  | append_singleton events event ih =>
      have hstalls : stalls events ≤ acAudioStreamWaitRetries := by
        apply ih
        intro before other after hsplit
        exact horderly before other (after ++ [event]) (by rw [hsplit]; simp)
      have hallowed := horderly events event [] rfl
      rw [stalls_snoc]
      cases event with
      | write data taken =>
          rw [stallsAfter]
          split
          · exact hstalls
          · exact Nat.zero_le _
      | wait => exact hallowed
      | count framesWritten => exact hstalls

/-- At every moment SOF has taken a front of the payload. -/
theorem Orderly.taken_prefix (horderly : Orderly payload frameBytes framesBefore events) :
    takenIn events <+: payload := by
  induction events using List.reverseRecOn with
  | nil => exact List.nil_prefix
  | append_singleton events event ih =>
      have hprefix : takenIn events <+: payload := by
        apply ih
        intro before other after hsplit
        exact horderly before other (after ++ [event]) (by rw [hsplit]; simp)
      have hallowed := horderly events event [] rfl
      rw [takenIn_snoc]
      cases event with
      | write data taken =>
          refine List.IsPrefix.trans ?_ hallowed.2.2.2
          rw [List.prefix_append_right_inj]
          simpa [takenIn] using List.take_prefix taken data
      | wait => simpa [takenIn] using hprefix
      | count framesWritten => simpa [takenIn] using hprefix

end Histories

/-! ## The world of a write -/

/-- The slots and what the loop has done. -/
structure WriteWorld where
  audio : AcAudioController
  events : List WriteEvent

/-- SOF answers at will, except that it takes no more than it is handed. -/
def writing : Effect ControllerReply WriteWorld
  | .streams, world, audio, world' => audio = world.audio ∧ world' = world
  | .modifySlot index change, world, _, world' =>
      world' =
        { audio := world.audio.modify index change
          events := world.events ++ [.count (change (world.audio.streams index)).framesWritten] }
  | .sleepMs _, world, _, world' => world' = { world with events := world.events ++ [.wait] }
  | .sofStreamWrite _ data, world, taken, world' =>
      taken.getD 0 ≤ data.length ∧
        world' = { world with events := world.events ++ [.write data (taken.getD 0)] }
  | _, world, _, world' => world' = world

/-- The invariant of the loop: what remains of the payload, and what was counted. -/
structure Writing (index : SlotIndex) (payload : Bytes) (frameBytes framesBefore : Nat)
    (remaining : Nat) (world : WriteWorld) : Prop where
  orderly : Orderly payload frameBytes framesBefore world.events
  inside : remaining ≤ payload.length
  taken : takenIn world.events = payload.take (payload.length - remaining)
  frames : (world.audio.streams index).framesWritten * frameBytes =
    framesBefore * frameBytes + (payload.length - remaining)

/-- What a write leaves behind, however it ends. -/
structure Wrote (index : SlotIndex) (payload : Bytes) (frameBytes framesBefore : Nat)
    (world : WriteWorld) : Prop where
  orderly : Orderly payload frameBytes framesBefore world.events
  frames : (world.audio.streams index).framesWritten * frameBytes ≤
    framesBefore * frameBytes + (takenIn world.events).length

section WriteLoop

variable {index : SlotIndex} {payload : Bytes} {frameBytes framesBefore remaining : Nat}
  {world : WriteWorld} {stream : Nat}

theorem Writing.wrote (hwriting : Writing index payload frameBytes framesBefore remaining world) :
    Wrote index payload frameBytes framesBefore world where
  orderly := hwriting.orderly
  frames := by
    rw [hwriting.frames, hwriting.taken, List.length_take]
    omega

/-- One more orderly event loses nothing. -/
theorem Writing.wrote_behind
    (hwriting : Writing index payload frameBytes framesBefore remaining world) {event : WriteEvent}
    (horderly : Orderly payload frameBytes framesBefore (world.events ++ [event])) :
    Wrote index payload frameBytes framesBefore
      { world with events := world.events ++ [event] } where
  orderly := horderly
  frames := by
    refine hwriting.wrote.frames.trans ?_
    rw [takenIn_snoc, List.length_append]
    omega

/-- What SOF has taken after it takes the front of a chunk that continues the payload. -/
theorem Writing.taken_behind
    (hwriting : Writing index payload frameBytes framesBefore remaining world) {chunk : Bytes}
    {writeSize taken : Nat}
    (hchunk : (payload.drop (payload.length - remaining)).take writeSize = chunk)
    (htaken : taken ≤ writeSize) (hle : taken ≤ remaining) :
    takenIn (world.events ++ [.write chunk taken]) =
      payload.take (payload.length - (remaining - taken)) := by
  have hinside := hwriting.inside
  have hposition : payload.length - (remaining - taken) = payload.length - remaining + taken := by
    omega
  rw [takenIn_snoc, hwriting.taken, hposition, List.take_add, ← hchunk]
  simp [takenIn, List.take_take, Nat.min_eq_left htaken]

/-- The count of frames after SOF takes whole frames. -/
theorem Writing.counted (hwriting : Writing index payload frameBytes framesBefore remaining world)
    {taken : Nat} (hdvd : frameBytes ∣ taken) (hle : taken ≤ remaining) :
    ((world.audio.streams index).framesWritten + taken / frameBytes) * frameBytes =
      framesBefore * frameBytes + (payload.length - (remaining - taken)) := by
  have hinside := hwriting.inside
  rw [Nat.add_mul, hwriting.frames, Nat.div_mul_cancel hdvd]
  omega

/-- The loop's invariant with the retries that are left. -/
structure Retrying (index : SlotIndex) (payload : Bytes) (frameBytes framesBefore : Nat)
    (remaining retriesLeft : Nat) (world : WriteWorld) : Prop where
  writing : Writing index payload frameBytes framesBefore remaining world
  stalls : stalls world.events + retriesLeft = acAudioStreamWaitRetries

theorem writeRound_ensures {retriesLeft : Nat}
    (hretrying : Retrying index payload frameBytes framesBefore remaining retriesLeft world) :
    (acAudioWriteRound index stream frameBytes payload remaining).Ensures writing world
      fun result world' =>
        match result with
        | .fail => Wrote index payload frameBytes framesBefore world'
        | .wait => Retrying index payload frameBytes framesBefore remaining retriesLeft world'
        | .advance count _ _ => Retrying index payload frameBytes framesBefore (remaining - count)
            acAudioStreamWaitRetries world' := by
  obtain ⟨hwriting, hstalls⟩ := hretrying
  unfold acAudioWriteRound
  refine Proc.ensures_request_bind.mpr fun freeSize world' hworld' => ?_
  have hsame : world' = world := hworld'
  rw [hsame]
  dsimp only
  generalize hwriteSize : wholeFrames (min remaining _) frameBytes = writeSize
  have hle : writeSize ≤ remaining :=
    hwriteSize ▸ (wholeFrames_le _ _).trans (Nat.min_le_left _ _)
  have hwhole : frameBytes ∣ writeSize := hwriteSize ▸ wholeFrames_dvd _ _
  split
  · exact ⟨hwriting, hstalls⟩
  · next hroom =>
      refine Proc.ensures_request_bind.mpr fun taken world' hwrote => ?_
      obtain ⟨htaken, rfl⟩ := hwrote
      have hremaining := hwriting.inside
      generalize hchunk : (payload.drop (payload.length - remaining)).take writeSize = chunk at *
      have hlength : chunk.length = writeSize := by
        rw [← hchunk, List.length_take, List.length_drop]
        omega
      have hcontinues : takenIn world.events ++ chunk <+: payload := by
        rw [hwriting.taken, ← hchunk, ← List.take_add]
        exact List.take_prefix _ _
      have horderly := hwriting.orderly.snoc
        (show Allowed payload frameBytes framesBefore world.events (.write chunk (taken.getD 0)) from
          ⟨by omega, hlength ▸ hwhole, htaken, hcontinues⟩)
      have hfailed := hwriting.wrote_behind horderly
      cases taken with
      | none => exact hfailed
      | some taken =>
          rw [Option.getD_some] at *
          dsimp only
          split
          · exact hfailed
          · split
            · next hzero =>
                subst hzero
                refine ⟨⟨horderly, hremaining, ?_, hwriting.frames⟩, ?_⟩
                · rw [takenIn_snoc, hwriting.taken]
                  simp [takenIn]
                · rw [stalls_snoc]
                  exact hstalls
            · next hpos =>
                split
                · exact hfailed
                · next hframes =>
                    have hdvd : frameBytes ∣ taken := Nat.dvd_of_mod_eq_zero (not_not.mp hframes)
                    have htakes := hwriting.taken_behind hchunk (hlength ▸ htaken) (by omega)
                    have hcounted := hwriting.counted hdvd (by omega)
                    refine Proc.ensures_request_bind.mpr fun _ world' hworld' => ?_
                    subst hworld'
                    refine ⟨⟨horderly.snoc ?_, by omega, ?_, ?_⟩, ?_⟩
                    · rw [Allowed, hcounted, htakes, List.length_take]
                      omega
                    · rw [takenIn_snoc, htakes]
                      simp [takenIn]
                    · rw [← hcounted]
                      simp [AcAudioController.modify]
                    · rw [stalls_snoc, stalls_snoc, stallsAfter, stallsAfter, if_neg hpos]
                      exact Nat.zero_add _

/-- The loop as a transfer. -/
theorem write_transferRule :
    TransferRule writing stream (acAudioWriteRound index stream frameBytes payload)
      (fun remaining _ retriesLeft world =>
        Retrying index payload frameBytes framesBefore remaining retriesLeft world)
      (fun remaining _ retriesLeft world =>
        Retrying index payload frameBytes framesBefore remaining retriesLeft world)
      fun result world => Wrote index payload frameBytes framesBefore world ∧
        (result.isSome → Writing index payload frameBytes framesBefore 0 world) where
  finished transferred retriesLeft state hbefore := ⟨hbefore.writing.wrote, fun _ => hbefore.writing⟩
  round remaining transferred retriesLeft state hremaining hbefore := by
    refine (writeRound_ensures hbefore).mono fun result state' hround => ?_
    cases result with
    | fail => exact ⟨hround, nofun⟩
    | wait => exact hround
    | advance count data hcount => exact hround
  exhausted remaining transferred state hwaiting := ⟨hwaiting.writing.wrote, nofun⟩
  wait remaining transferred retriesLeft state hwaiting := by
    unfold acAudioWaitStreamProgress
    refine Proc.ensures_request_bind.mpr fun ret state' hstate' => ?_
    obtain rfl : state' = state := hstate'
    have hstalls := hwaiting.stalls
    split
    · exact ⟨fun _ => ⟨hwaiting.writing.wrote, nofun⟩, nofun⟩
    · refine Proc.ensures_request_bind.mpr fun _ state'' hstate'' => ?_
      subst hstate''
      refine ⟨nofun, fun _ => ⟨⟨hwaiting.writing.orderly.snoc ?_, hwaiting.writing.inside, ?_,
        hwaiting.writing.frames⟩, ?_⟩⟩
      · rw [Allowed]
        omega
      · rw [takenIn_snoc, hwaiting.writing.taken]
        simp [takenIn]
      · rw [stalls_snoc, stallsAfter]
        omega

end WriteLoop

/-- A write to a playing slot ends, whatever SOF answers: it waits at most 5000 times in
a row, hands over chunks of whole frames that continue what was taken, and counts no
frame that was not taken.  When it returns zero, the whole payload was taken and counted. -/
theorem writeStream_lossless (audio : AcAudioController) (index : SlotIndex)
    (payload : Bytes) :
    (acAudioWriteStream index (audio.streams index) payload).Ensures writing
      { audio := audio, events := [] } fun ret world =>
        let frameBytes := (audio.streams index).frameBytes.toNat
        let framesBefore := (audio.streams index).framesWritten
        let framesAfter := (world.audio.streams index).framesWritten
        Orderly payload frameBytes framesBefore world.events ∧
          stalls world.events ≤ acAudioStreamWaitRetries ∧
          takenIn world.events <+: payload ∧
          framesAfter * frameBytes ≤ framesBefore * frameBytes + (takenIn world.events).length ∧
          (ret = 0 → takenIn world.events = payload ∧
            framesAfter = framesBefore + payload.length / frameBytes) := by
  generalize hslot : audio.streams index = slot at *
  have hwrote : ∀ (ret : Int) (world : WriteWorld),
      Wrote index payload slot.frameBytes.toNat slot.framesWritten world →
      (ret = 0 → 0 < slot.frameBytes.toNat ∧ slot.frameBytes.toNat ∣ payload.length ∧
        Writing index payload slot.frameBytes.toNat slot.framesWritten 0 world) →
      let framesAfter := (world.audio.streams index).framesWritten
      Orderly payload slot.frameBytes.toNat slot.framesWritten world.events ∧
        stalls world.events ≤ acAudioStreamWaitRetries ∧
        takenIn world.events <+: payload ∧
        framesAfter * slot.frameBytes.toNat ≤
          slot.framesWritten * slot.frameBytes.toNat + (takenIn world.events).length ∧
        (ret = 0 → takenIn world.events = payload ∧
          framesAfter = slot.framesWritten + payload.length / slot.frameBytes.toNat) := by
    intro ret world hwrote hdone
    refine ⟨hwrote.orderly, hwrote.orderly.stalls_le, hwrote.orderly.taken_prefix, hwrote.frames,
      fun hret => ?_⟩
    obtain ⟨hframeBytes, hdvd, hwriting⟩ := hdone hret
    refine ⟨by simpa using hwriting.taken, ?_⟩
    apply Nat.eq_of_mul_eq_mul_right hframeBytes
    rw [hwriting.frames, Nat.add_mul, Nat.div_mul_cancel hdvd, Nat.sub_zero]
  have hunwritten : Writing index payload slot.frameBytes.toNat slot.framesWritten payload.length
      { audio := audio, events := [] } := by
    refine ⟨orderly_nil, Nat.le_refl _, ?_, ?_⟩
    · rw [Nat.sub_self]
      rfl
    · rw [Nat.sub_self, hslot]
      rfl
  unfold acAudioWriteStream
  split
  · exact hwrote _ _ hunwritten.wrote nofun
  · split
    · exact hwrote _ _ hunwritten.wrote nofun
    · split
      · exact hwrote _ _ hunwritten.wrote nofun
      · split
        · exact hwrote _ _ hunwritten.wrote nofun
        · next hwhole =>
          have hframeBytes : 0 < slot.frameBytes.toNat :=
            Nat.pos_of_ne_zero fun hzero => hwhole (.inl (UInt16.toNat_inj.mp hzero))
          have hdvd : slot.frameBytes.toNat ∣ payload.length :=
            Nat.dvd_of_mod_eq_zero (not_not.mp fun hne => hwhole (.inr hne))
          refine (write_transferRule.ensures payload.length [] _
            ⟨hunwritten, Nat.zero_add _⟩).bind fun result world hended => ?_
          refine hwrote _ _ hended.1 fun hret => ⟨hframeBytes, hdvd, hended.2 ?_⟩
          cases result with
          | none => cases hret
          | some result => rfl

end AudioStudio.Playback
