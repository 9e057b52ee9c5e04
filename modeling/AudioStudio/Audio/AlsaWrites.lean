import AudioStudio.Audio.AlsaDevice

/-!
# Writes of the ALSA playback device

A write that succeeds has handed ALSA its whole buffer once, unless the wait before it ended in
an error that was recovered from, or ALSA accepted more frames at once than an `int` counts.
-/

namespace AudioStudio.Audio

open AudioStudio.Common
open LittleEndian
open AlsaAudioPlaybackDevice (writeLoop writeFrame)

/-! ## What ALSA accepts -/

/-- The bytes that an exchange queued. -/
def acceptedIn (frameBytes : Nat) : PcmExchange → Bytes
  | ⟨.writei data _, frames⟩ => data.take (Int64.toNatClampNeg frames * frameBytes)
  | _ => []

def accepted (frameBytes : Nat) (exchanges : List PcmExchange) : Bytes :=
  exchanges.flatMap (acceptedIn frameBytes)

/-- ALSA accepts no more frames than it is offered, and its errors are values of an `int`. -/
def WriteDocumented : PcmExchange → Prop
  | ⟨.writei _ offered, frames⟩ =>
      Int64.toInt frames ≤ offered ∧ -2 ^ 31 ≤ Int64.toInt frames
  | _ => True

/-- The count of frames is a value of an `int`. -/
def CountFits : PcmExchange → Prop
  | ⟨.writei _ _, frames⟩ => Int64.toInt frames < 2 ^ 31
  | _ => True

/-- The wait did not end in an error. -/
def WaitSucceeds : PcmExchange → Prop
  | ⟨.wait _, rc⟩ => 0 ≤ Int32.toInt rc
  | _ => True

theorem accepted_append (frameBytes : Nat) (earlier later : List PcmExchange) :
    accepted frameBytes (earlier ++ later) =
      accepted frameBytes earlier ++ accepted frameBytes later :=
  List.flatMap_append

/-! ## Counts in an `int` -/

variable {frames : Int64}

theorem toInt_narrowed (hleast : -2 ^ 31 ≤ frames.toInt) (hfits : frames.toInt < 2 ^ 31) :
    frames.toInt32.toInt = frames.toInt := by
  rw [Int64.toInt_toInt32]
  exact Int.bmod_eq_of_le (by omega) (by omega)

theorem narrowed_eq (hleast : -2 ^ 31 ≤ frames.toInt) (hfits : frames.toInt < 2 ^ 31) :
    frames.toInt32.toNatClampNeg = frames.toNatClampNeg :=
  congrArg Int.toNat (toInt_narrowed hleast hfits)

theorem narrowed_lt (hlarge : 2 ^ 31 ≤ frames.toInt) :
    frames.toInt32.toNatClampNeg < frames.toNatClampNeg := by
  have hnarrowed := frames.toInt32.toInt_lt
  change frames.toInt32.toInt.toNat < frames.toInt.toNat
  omega

theorem narrowed_le (hleast : -2 ^ 31 ≤ frames.toInt) :
    frames.toInt32.toNatClampNeg ≤ frames.toNatClampNeg := by
  by_cases hfits : frames.toInt < 2 ^ 31
  · exact (narrowed_eq hleast hfits).le
  · exact (narrowed_lt (not_lt.mp hfits)).le

/-! ## The loop -/

section Loop

variable {strerror : ErrorTexts} {frame : Bytes} {frameBytes totalFrames rounds written : Nat}
  {exchanges : List PcmExchange}

theorem recoverPcm_returns {operation : String} {error : Int32} {result : Result Unit}
    (hreturns : (recoverPcm strerror operation error).Returns exchanges result) :
    ∃ rc : Int32, exchanges = [⟨.recover error, rc⟩] := by
  obtain ⟨rc, rest, rfl, hrest⟩ := returns_callPcm.mp hreturns
  refine ⟨rc, ?_⟩
  split at hrest
  · rw [hrest.1]
  · rw [hrest.1]

/-- A round that goes on has offered all that is left; an error counts for no frames. -/
theorem writeLoop_step
    (hreturns : (writeLoop strerror frame frameBytes totalFrames (rounds + 1) written).Returns
      exchanges (.ok ())) :
    totalFrames ≤ written ∧ exchanges = [] ∨
      written < totalFrames ∧ ∃ (frames : Int64) (recovery rest : List PcmExchange),
        exchanges = ⟨.writei (frame.drop (written * frameBytes)) (totalFrames - written), frames⟩ ::
          (recovery ++ rest) ∧
        (∀ exchange ∈ recovery, ∃ error rc, exchange = ⟨.recover error, rc⟩) ∧
        (writeLoop strerror frame frameBytes totalFrames rounds
          (written + frames.toInt32.toNatClampNeg)).Returns rest (.ok ()) := by
  rw [writeLoop] at hreturns
  split at hreturns
  · next hless =>
      refine .inr ⟨hless, ?_⟩
      obtain ⟨frames, rest, rfl, hrest⟩ := returns_callPcm.mp hreturns
      change Int64 at frames
      refine ⟨frames, ?_⟩
      dsimp only at hrest
      split at hrest
      · next hnegative =>
          obtain ⟨status, recovery, rest, rfl, hrecover, hrest⟩ := Proc.returns_bind.mp hrest
          obtain ⟨rc, rfl⟩ := recoverPcm_returns hrecover
          have hnone : frames.toInt32.toNatClampNeg = 0 :=
            Int.toNat_of_nonpos (Int32.lt_iff_toInt_lt.mp hnegative).le
          cases status with
          | error status => cases hrest.2
          | ok =>
              rw [hnone, Nat.add_zero]
              exact ⟨_, rest, rfl, List.forall_mem_singleton.mpr ⟨_, rc, rfl⟩, hrest⟩
      · exact ⟨[], rest, rfl, by rintro _ ⟨⟩, hrest⟩
  · next hdone => exact .inl ⟨not_lt.mp hdone, hreturns.1⟩

theorem accepted_recovery {recovery : List PcmExchange}
    (hrecovery : ∀ exchange ∈ recovery, ∃ error rc, exchange = ⟨.recover error, rc⟩) :
    accepted frameBytes recovery = [] := by
  refine List.flatMap_eq_nil_iff.mpr fun exchange hmem => ?_
  obtain ⟨error, rc, rfl⟩ := hrecovery exchange hmem
  rfl

theorem acceptedIn_length {frames : Int64} (hwhole : frame.length = totalFrames * frameBytes)
    (hoffered : frames.toInt ≤ (totalFrames - written : Nat)) :
    (acceptedIn frameBytes ⟨.writei (frame.drop (written * frameBytes)) (totalFrames - written),
      frames⟩).length = frames.toNatClampNeg * frameBytes := by
  have hle : frames.toNatClampNeg ≤ totalFrames - written := Int.toNat_le.mpr hoffered
  rw [acceptedIn, List.length_take, List.length_drop, hwhole, ← Nat.sub_mul]
  exact Nat.min_eq_left (Nat.mul_le_mul_right frameBytes hle)

/-- A loop that ends well has had at least the rest of the buffer accepted. -/
theorem writeLoop_accepts (hwhole : frame.length = totalFrames * frameBytes)
    (hdocumented : ∀ exchange ∈ exchanges, WriteDocumented exchange)
    (hreturns : (writeLoop strerror frame frameBytes totalFrames rounds written).Returns
      exchanges (.ok ())) :
    (totalFrames - written) * frameBytes ≤ (accepted frameBytes exchanges).length := by
  induction rounds generalizing written exchanges with
  | zero => exact hreturns.elim
  | succ rounds ih =>
      rcases writeLoop_step hreturns with ⟨hdone, -⟩ | ⟨-, frames, recovery, rest, rfl, hrecovery, hrest⟩
      · rw [Nat.sub_eq_zero_of_le hdone, Nat.zero_mul]
        exact Nat.zero_le _
      · obtain ⟨⟨hoffered, hleast⟩, hdocumented⟩ := List.forall_mem_cons.mp hdocumented
        have hlater := ih (List.forall_mem_append.mp hdocumented).2 hrest
        have hnarrowed := narrowed_le hleast
        change _ ≤ (acceptedIn frameBytes _ ++ accepted frameBytes (recovery ++ rest)).length
        rw [accepted_append, accepted_recovery hrecovery, List.nil_append, List.length_append,
          acceptedIn_length hwhole hoffered]
        calc (totalFrames - written) * frameBytes
            ≤ (frames.toNatClampNeg +
                (totalFrames - (written + frames.toInt32.toNatClampNeg))) * frameBytes :=
              Nat.mul_le_mul_right frameBytes (by omega)
          _ = frames.toNatClampNeg * frameBytes +
                (totalFrames - (written + frames.toInt32.toNatClampNeg)) * frameBytes :=
              Nat.add_mul _ _ _
          _ ≤ frames.toNatClampNeg * frameBytes + (accepted frameBytes rest).length :=
              Nat.add_le_add_left hlater _

/-- The rest of the buffer is accepted once and in order exactly when every count fits. -/
theorem writeLoop_exact_iff (hbytes : 0 < frameBytes)
    (hwhole : frame.length = totalFrames * frameBytes)
    (hdocumented : ∀ exchange ∈ exchanges, WriteDocumented exchange)
    (hwritten : written ≤ totalFrames)
    (hreturns : (writeLoop strerror frame frameBytes totalFrames rounds written).Returns
      exchanges (.ok ())) :
    accepted frameBytes exchanges = frame.drop (written * frameBytes) ↔
      ∀ exchange ∈ exchanges, CountFits exchange := by
  induction rounds generalizing written exchanges with
  | zero => exact hreturns.elim
  | succ rounds ih =>
      have henough := writeLoop_accepts hwhole hdocumented hreturns
      rcases writeLoop_step hreturns with ⟨hdone, rfl⟩ |
        ⟨hless, frames, recovery, rest, rfl, hrecovery, hrest⟩
      · have hall : frame.drop (written * frameBytes) = [] := by
          rw [List.drop_eq_nil_iff, hwhole]
          exact Nat.mul_le_mul_right frameBytes hdone
        rw [hall]
        exact iff_of_true rfl (by rintro _ ⟨⟩)
      · obtain ⟨⟨hoffered, hleast⟩, hdocumented⟩ := List.forall_mem_cons.mp hdocumented
        have hdocumented := (List.forall_mem_append.mp hdocumented).2
        have hnarrowed := narrowed_le hleast
        have hcount : frames.toNatClampNeg ≤ totalFrames - written := Int.toNat_le.mpr hoffered
        have hfirst := @acceptedIn_length frame frameBytes totalFrames written frames hwhole hoffered
        have hsplit : accepted frameBytes
            (⟨.writei (frame.drop (written * frameBytes)) (totalFrames - written), frames⟩ ::
              (recovery ++ rest)) =
            acceptedIn frameBytes
              ⟨.writei (frame.drop (written * frameBytes)) (totalFrames - written), frames⟩ ++
              accepted frameBytes rest := by
          change acceptedIn frameBytes _ ++ accepted frameBytes (recovery ++ rest) = _
          rw [accepted_append, accepted_recovery hrecovery, List.nil_append]
        rw [hsplit, List.forall_mem_cons, List.forall_mem_append]
        by_cases hfits : frames.toInt < 2 ^ 31
        · -- The count is what ALSA accepted: the loop goes on behind it.
          have hlater := ih hdocumented (by omega) hrest
          rw [narrowed_eq hleast hfits] at hlater
          have hbehind : frame.drop (written * frameBytes) =
              acceptedIn frameBytes
                ⟨.writei (frame.drop (written * frameBytes)) (totalFrames - written), frames⟩ ++
                frame.drop ((written + frames.toNatClampNeg) * frameBytes) := by
            rw [acceptedIn, Nat.add_mul, ← List.drop_drop]
            exact (List.take_append_drop _ _).symm
          generalize acceptedIn frameBytes
            ⟨.writei (frame.drop (written * frameBytes)) (totalFrames - written), frames⟩ = first
            at hbehind ⊢
          rw [hbehind, List.append_right_inj, hlater]
          constructor
          · intro hrests
            refine ⟨hfits, fun exchange hmem => ?_, hrests⟩
            obtain ⟨error, rc, rfl⟩ := hrecovery exchange hmem
            trivial
          · exact fun hall => hall.2.2
        · -- The loop counts less than ALSA accepted, and offers some of it again.
          have hlost := narrowed_lt (not_lt.mp hfits)
          have hlater := writeLoop_accepts hwhole hdocumented hrest
          refine iff_of_false (fun hexact => ?_) fun hall => hfits hall.1
          have hlength := congrArg List.length hexact
          rw [List.length_append, hfirst, List.length_drop, hwhole, ← Nat.sub_mul] at hlength
          have hmore : (totalFrames - written) * frameBytes <
              (frames.toNatClampNeg +
                (totalFrames - (written + frames.toInt32.toNatClampNeg))) * frameBytes :=
            Nat.mul_lt_mul_of_pos_right (by omega) hbytes
          rw [Nat.add_mul] at hmore
          omega

/-- The loop waits for nothing. -/
theorem writeLoop_waits
    (hreturns : (writeLoop strerror frame frameBytes totalFrames rounds written).Returns
      exchanges (.ok ())) : ∀ exchange ∈ exchanges, WaitSucceeds exchange := by
  induction rounds generalizing written exchanges with
  | zero => exact hreturns.elim
  | succ rounds ih =>
      rcases writeLoop_step hreturns with ⟨-, rfl⟩ | ⟨-, frames, recovery, rest, rfl, hrecovery, hrest⟩
      · rintro _ ⟨⟩
      · refine List.forall_mem_cons.mpr ⟨trivial, List.forall_mem_append.mpr ⟨?_, ih hrest⟩⟩
        intro exchange hmem
        obtain ⟨error, rc, rfl⟩ := hrecovery exchange hmem
        trivial

end Loop

/-! ## A write -/

section Write

variable {strerror : ErrorTexts} {frame : Bytes} {rounds : Nat} {timeoutMs : UInt32}
  {device device' : AlsaAudioPlaybackDevice} {exchanges : List PcmExchange} {result : Result Unit}

/-- A buffer of whole frames, written to a running device. -/
structure Writable (device : AlsaAudioPlaybackDevice) (frame : Bytes) : Prop where
  running : device.running = true
  nonempty : frame ≠ []
  aligned : device.frameBytes ∣ frame.length

theorem Writable.frameBytes_pos (hwritable : Writable device frame) : 0 < device.frameBytes := by
  refine Nat.pos_of_ne_zero fun hzero => hwritable.nonempty ?_
  have haligned := hwritable.aligned
  rw [hzero, Nat.zero_dvd] at haligned
  exact List.length_eq_zero_iff.mp haligned

/-- The wait that a write starts with, and what comes behind it. -/
theorem writeFrame_returns (hwritable : Writable device frame)
    (hreturns : (writeFrame strerror rounds frame timeoutMs device).Returns exchanges
      (result, device')) :
    ∃ (rc : Int32) (rest : List PcmExchange), exchanges = ⟨.wait timeoutMs.toInt32, rc⟩ :: rest ∧
      ((rc = 0 ∧ device' = device ∧ result ≠ .ok ()) ∨
        (rc < 0 ∧ device' = device ∧ ∃ rc' : Int32, rest = [⟨.recover rc, rc'⟩]) ∨
        (0 < rc ∧ ∃ status, (writeLoop strerror frame device.frameBytes
            (frame.length / device.frameBytes) rounds 0).Returns rest status ∧
          result = status ∧ device'.framesWritten = match status with
            | .error _ => device.framesWritten
            | .ok () =>
                device.framesWritten + (frame.length / device.frameBytes).toUInt64)) := by
  have hbytes := hwritable.frameBytes_pos
  rw [writeFrame, if_neg (by simp [hwritable.running]), if_neg hwritable.nonempty, if_neg (by
    rw [not_or, not_not]
    exact ⟨hbytes.ne', Nat.mod_eq_zero_of_dvd hwritable.aligned⟩)] at hreturns
  obtain ⟨rc, rest, rfl, hrest⟩ := returns_callPcm.mp hreturns
  change Int32 at rc
  refine ⟨rc, rest, rfl, ?_⟩
  dsimp only at hrest
  split at hrest
  · next hzero =>
      cases hrest.2
      exact .inl ⟨hzero, rfl, by rintro ⟨⟩⟩
  · next hnonzero =>
      split at hrest
      · next hnegative =>
          obtain ⟨status, recovery, later, rfl, hrecover, hlater⟩ := Proc.returns_bind.mp hrest
          obtain ⟨rc', rfl⟩ := recoverPcm_returns hrecover
          obtain ⟨rfl, hresult⟩ := hlater
          cases hresult
          exact .inr (.inl ⟨hnegative, rfl, rc', rfl⟩)
      · next hnonnegative =>
          obtain ⟨status, earlier, later, rfl, hloop, hlater⟩ := Proc.returns_bind.mp hrest
          have hpositive : 0 < rc := by
            rw [Int32.lt_iff_toInt_lt] at hnonnegative ⊢
            have hvalue : rc.toInt ≠ (0 : Int32).toInt := fun heq => hnonzero (Int32.toInt_inj.mp heq)
            omega
          refine .inr (.inr ⟨hpositive, status, ?_⟩)
          cases status with
          | error status =>
              obtain ⟨rfl, hresult⟩ := hlater
              cases hresult
              rw [List.append_nil]
              exact ⟨hloop, rfl, rfl⟩
          | ok =>
              obtain ⟨rfl, hresult⟩ := hlater
              cases hresult
              rw [List.append_nil]
              exact ⟨hloop, rfl, rfl⟩

/-- A write that fails counts no frames.  One that succeeds has handed over its buffer, once and
in order, exactly when the wait did not fail and every accepted count is one of an `int`. -/
theorem writeFrame_exact_iff (hwritable : Writable device frame)
    (hdocumented : ∀ exchange ∈ exchanges, WriteDocumented exchange)
    (hreturns : (writeFrame strerror rounds frame timeoutMs device).Returns exchanges
      (result, device')) :
    (∀ status, result = .error status → device'.framesWritten = device.framesWritten) ∧
      (result = .ok () →
        (accepted device.frameBytes exchanges = frame ∧
            device'.framesWritten =
              device.framesWritten + (frame.length / device.frameBytes).toUInt64 ↔
          ∀ exchange ∈ exchanges, WaitSucceeds exchange ∧ CountFits exchange)) := by
  have hbytes := hwritable.frameBytes_pos
  have hwhole : frame.length = frame.length / device.frameBytes * device.frameBytes :=
    (Nat.div_mul_cancel hwritable.aligned).symm
  obtain ⟨rc, rest, rfl, ⟨-, rfl, hfails⟩ | ⟨hnegative, rfl, rc', rfl⟩ |
    ⟨hpositive, status, hloop, rfl, hcount⟩⟩ := writeFrame_returns hwritable hreturns
  · exact ⟨fun _ _ => rfl, fun hok => absurd hok hfails⟩
  · refine ⟨fun _ _ => rfl, fun _ => iff_of_false ?_ ?_⟩
    · exact fun hexact => hwritable.nonempty hexact.1.symm
    · intro hall
      have hwait := (hall _ List.mem_cons_self).1
      exact absurd (Int32.lt_iff_toInt_lt.mp hnegative) (not_lt.mpr hwait)
  · cases result with
    | error status => exact ⟨fun _ _ => hcount, fun hok => by cases hok⟩
    | ok =>
        refine ⟨fun _ herror => (by cases herror), fun _ => ?_⟩
        have hloops := writeLoop_exact_iff hbytes hwhole (List.forall_mem_cons.mp hdocumented).2
          (Nat.zero_le _) hloop
        rw [Nat.zero_mul, List.drop_zero] at hloops
        change accepted device.frameBytes rest = frame ∧ _ ↔ _
        rw [hloops, List.forall_mem_cons]
        constructor
        · rintro ⟨hfits, -⟩
          refine ⟨⟨(Int32.lt_iff_toInt_lt.mp hpositive).le, trivial⟩, fun exchange hmem => ?_⟩
          refine ⟨?_, hfits exchange hmem⟩
          exact writeLoop_waits hloop exchange hmem
        · exact fun hall => ⟨fun exchange hmem => (hall.2 exchange hmem).2, hcount⟩

end Write

/-- A frame of two bytes that ALSA accepts at once. -/
theorem writeFrame_exact_two :
    accepted 2 [⟨.wait 20, 1⟩, ⟨.writei [1, 2] 1, 1⟩] = [1, 2] ∧
      (1 : UInt64) = 0 + ([1, 2].length / 2).toUInt64 := by
  have hreturns : (writeFrame (fun _ => "") 2 [1, 2] 20 ⟨true, 2, 0⟩).Returns
      [⟨.wait 20, 1⟩, ⟨.writei [1, 2] 1, 1⟩] (.ok (), ⟨true, 2, 1⟩) :=
    ⟨1, _, rfl, 1, _, rfl, rfl, rfl⟩
  have hdocumented : ∀ exchange ∈
      ([⟨.wait 20, 1⟩, ⟨.writei [1, 2] 1, 1⟩] : List PcmExchange), WriteDocumented exchange := by
    refine List.forall_mem_cons.mpr ⟨trivial, List.forall_mem_singleton.mpr ?_⟩
    change Int64.toInt 1 ≤ 1 ∧ -2 ^ 31 ≤ Int64.toInt 1
    decide
  have hexact := writeFrame_exact_iff ⟨rfl, by decide, by decide⟩ hdocumented hreturns
  refine (hexact.2 rfl).mpr (List.forall_mem_cons.mpr ⟨⟨?_, trivial⟩, ?_⟩)
  · change 0 ≤ Int32.toInt 1
    decide
  · refine List.forall_mem_singleton.mpr ⟨trivial, ?_⟩
    change Int64.toInt 1 < 2 ^ 31
    decide

/-- The wait reports an underrun and the stream recovers: the write succeeds, and ALSA has
accepted nothing of the frame. -/
theorem recovered_wait_writes_nothing :
    let exchanges : List PcmExchange := [⟨.wait 20, -32⟩, ⟨.recover (-32), 0⟩]
    (writeFrame (fun _ => "") 1 [1, 2] 20 ⟨true, 2, 0⟩).Returns exchanges
        (.ok (), ⟨true, 2, 0⟩) ∧
      (∀ exchange ∈ exchanges, WriteDocumented exchange) ∧ accepted 2 exchanges ≠ [1, 2] := by
  refine ⟨⟨-32, _, rfl, 0, _, rfl, rfl, rfl⟩, ?_, by decide⟩
  exact List.forall_mem_cons.mpr ⟨trivial, List.forall_mem_singleton.mpr trivial⟩

end AudioStudio.Audio
