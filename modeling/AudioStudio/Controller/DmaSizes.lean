import AudioStudio.Controller.Configure
import AudioStudio.Core.Issues

/-!
# The sizes of a DMA buffer

`ac_audio_prepare_dma` computes a period in 64 bits and everything else in 32.  Its sizes are
exact as long as four periods and the rounding to whole pages fit 32 bits; the one check behind
the multiplication finds only some of the products that do not.
-/

namespace AudioStudio.Controller

open LittleEndian

/-! ## The sizes that are meant -/

/-- The bytes of a period, rounded up. -/
def periodBytes (sampleRate frameBytes : UInt32) : Nat :=
  (sampleRate.toNat * acAudioDefaultPeriodUs * frameBytes.toNat + 1000000 - 1) / 1000000

/-- A period of whole frames. -/
def framedPeriod (sampleRate frameBytes : UInt32) : Nat :=
  (periodBytes sampleRate frameBytes + frameBytes.toNat - 1) / frameBytes.toNat *
    frameBytes.toNat

/-- None of the 32-bit computations goes beyond `2 ^ 32`. -/
structure Unwrapped (sampleRate frameBytes : UInt32) : Prop where
  period : periodBytes sampleRate frameBytes < 2 ^ 32
  framed : periodBytes sampleRate frameBytes + frameBytes.toNat - 1 < 2 ^ 32
  product : framedPeriod sampleRate frameBytes * 4 < 2 ^ 32
  rounded : framedPeriod sampleRate frameBytes * 4 + 4096 - 1 < 2 ^ 32
  paged : (framedPeriod sampleRate frameBytes * 4 + 4096 - 1) / 4096 * 4096 + 4096 - 1 < 2 ^ 32

/-- A period and a DMA buffer in a block of memory are what they are meant to be. -/
structure DmaSized (sampleRate frameBytes : UInt32) (raw allocSize : Nat)
    (hostPeriodBytes : UInt32) (buffer : SofDmaBuffer) : Prop where
  wholeFrames : frameBytes.toNat ∣ hostPeriodBytes.toNat
  period : periodBytes sampleRate frameBytes ≤ hostPeriodBytes.toNat
  wholePages : 4096 ∣ buffer.size.toNat
  periods : 4 * hostPeriodBytes.toNat ≤ buffer.size.toNat
  pages : buffer.pages.toNat * 4096 = buffer.size.toNat
  start : raw ≤ buffer.addr
  inside : buffer.addr + buffer.size.toNat ≤ raw + allocSize
  unwrapped : Unwrapped sampleRate frameBytes

section Sizes

variable {sampleRate frameBytes : UInt32}

/-- Rounding down to pages by a mask. -/
theorem and_pageMask_toNat (value : UInt32) :
    (value &&& ~~~(acAudioDmaAlignment - 1)).toNat = value.toNat / 4096 * 4096 := by
  have hmask : (~~~(acAudioDmaAlignment - 1)).toNat = (2 ^ 20 - 1) <<< 12 := by decide
  have hshift : value.toNat / 4096 * 4096 = value.toNat >>> 12 <<< 12 := by
    rw [Nat.shiftRight_eq_div_pow, Nat.shiftLeft_eq]
  rw [UInt32.toNat_and, hmask, hshift]
  apply Nat.eq_of_testBit_eq
  intro bit
  rw [Nat.testBit_and, Nat.testBit_shiftLeft, Nat.testBit_shiftLeft, Nat.testBit_two_pow_sub_one,
    Nat.testBit_shiftRight]
  by_cases hlow : 12 ≤ bit
  · rw [Nat.add_sub_cancel' hlow]
    by_cases hhigh : bit - 12 < 20
    · simp [hlow, hhigh]
    · have hzero : value.toNat.testBit bit = false :=
        Nat.testBit_lt_two_pow (value.toNat_lt.trans_le (Nat.pow_le_pow_right (by decide) (by omega)))
      simp [hzero]
  · simp [hlow]

/-- Rounding up to whole frames in 32 bits. -/
theorem framed_toNat {period : UInt32} (hframe : 0 < frameBytes.toNat) :
    ((period + frameBytes - 1) / frameBytes * frameBytes).toNat =
      (period.toNat + frameBytes.toNat - 1) % 2 ^ 32 / frameBytes.toNat * frameBytes.toNat := by
  have hsum : (period + frameBytes - 1).toNat =
      (period.toNat + frameBytes.toNat - 1) % 2 ^ 32 := by
    rw [UInt32.toNat_sub, UInt32.toNat_add, UInt32.toNat_one]
    omega
  rw [UInt32.toNat_mul, UInt32.toNat_div, hsum]
  apply Nat.mod_eq_of_lt
  exact (Nat.div_mul_le_self _ _).trans_lt (Nat.mod_lt _ (by decide))

/-- The period that the code computes: the sum may have wrapped. -/
def wrappedPeriod (sampleRate frameBytes : UInt32) : Nat :=
  (periodBytes sampleRate frameBytes + frameBytes.toNat - 1) % 2 ^ 32 / frameBytes.toNat *
    frameBytes.toNat

theorem wrappedPeriod_of_lt
    (hsum : periodBytes sampleRate frameBytes + frameBytes.toNat - 1 < 2 ^ 32) :
    wrappedPeriod sampleRate frameBytes = framedPeriod sampleRate frameBytes := by
  rw [wrappedPeriod, Nat.mod_eq_of_lt hsum, framedPeriod]

theorem wrappedPeriod_lt (hframe : 0 < frameBytes.toNat)
    (hperiod : periodBytes sampleRate frameBytes < 2 ^ 32)
    (hsum : 2 ^ 32 ≤ periodBytes sampleRate frameBytes + frameBytes.toNat - 1) :
    wrappedPeriod sampleRate frameBytes < frameBytes.toNat := by
  have hmod : (periodBytes sampleRate frameBytes + frameBytes.toNat - 1) % 2 ^ 32 <
      frameBytes.toNat := by
    have hword := frameBytes.toNat_lt
    rw [Nat.mod_eq_sub_mod hsum, Nat.mod_eq_of_lt] <;> omega
  exact (Nat.div_mul_le_self _ _).trans_lt hmod

/-- The period in whole frames holds a period. -/
theorem periodBytes_le_framedPeriod (hframe : 0 < frameBytes.toNat) :
    periodBytes sampleRate frameBytes ≤ framedPeriod sampleRate frameBytes := by
  have hdiv := Nat.div_add_mod
    (periodBytes sampleRate frameBytes + frameBytes.toNat - 1) frameBytes.toNat
  have hmod := Nat.mod_lt
    (periodBytes sampleRate frameBytes + frameBytes.toNat - 1) hframe
  rw [Nat.mul_comm] at hdiv
  unfold framedPeriod
  omega

/-- The two sizes, once the period itself has passed its check. -/
theorem acAudioDmaSizes_of_period (hframe : 0 < frameBytes.toNat)
    (hpositive : periodBytes sampleRate frameBytes ≠ 0)
    (hperiod : periodBytes sampleRate frameBytes < 2 ^ 32) :
    ∃ host size : UInt32, host.toNat = wrappedPeriod sampleRate frameBytes ∧
      size.toNat = (4 * wrappedPeriod sampleRate frameBytes % 2 ^ 32 + 4095) % 2 ^ 32 / 4096 * 4096 ∧
      acAudioDmaSizes sampleRate frameBytes =
        if 4 * wrappedPeriod sampleRate frameBytes % 2 ^ 32 < wrappedPeriod sampleRate frameBytes
        then none else some (host, size) := by
  have hzero : frameBytes ≠ 0 := fun heq => by simp [heq] at hframe
  have hexact : (periodBytes sampleRate frameBytes).toUInt32.toNat =
      periodBytes sampleRate frameBytes := by
    rw [Nat.toUInt32_eq, UInt32.toNat_ofNat']
    exact Nat.mod_eq_of_lt hperiod
  have hhost := @framed_toNat frameBytes (periodBytes sampleRate frameBytes).toUInt32 hframe
  rw [hexact] at hhost
  generalize hperiods : ((periodBytes sampleRate frameBytes).toUInt32 + frameBytes - 1) /
    frameBytes * frameBytes = host at hhost
  have hproduct : (host * acAudioDefaultPeriodCount).toNat =
      4 * wrappedPeriod sampleRate frameBytes % 2 ^ 32 := by
    rw [UInt32.toNat_mul, hhost, Nat.mul_comm]
    rfl
  refine ⟨host, (host * acAudioDefaultPeriodCount + acAudioDmaAlignment - 1) &&&
    ~~~(acAudioDmaAlignment - 1), hhost, ?_, ?_⟩
  · have hsum : (host * acAudioDefaultPeriodCount + acAudioDmaAlignment - 1).toNat =
        ((host * acAudioDefaultPeriodCount).toNat + 4095) % 2 ^ 32 := by
      have halign : acAudioDmaAlignment.toNat = 4096 := rfl
      rw [UInt32.toNat_sub, UInt32.toNat_add, UInt32.toNat_one, halign]
      omega
    rw [and_pageMask_toNat, hsum, hproduct]
  · have hchecked : ¬(periodBytes sampleRate frameBytes = 0 ∨
        periodBytes sampleRate frameBytes > 0xffffffff) := by
      omega
    have hless : host * acAudioDefaultPeriodCount < host ↔
        4 * wrappedPeriod sampleRate frameBytes % 2 ^ 32 <
          wrappedPeriod sampleRate frameBytes := by
      rw [UInt32.lt_iff_toNat_lt, hproduct, hhost]
      rfl
    simp only [acAudioDmaSizes]
    rw [if_neg hzero]
    simp only [periodBytes] at hchecked hperiods
    rw [if_neg hchecked, hperiods, ite_congr (propext hless) (fun _ => rfl) fun _ => rfl]

/-- What the code refuses: no period, a period beyond 32 bits, or a product that comes out below
its factor. -/
def Refused (sampleRate frameBytes : UInt32) : Prop :=
  periodBytes sampleRate frameBytes = 0 ∨ 2 ^ 32 ≤ periodBytes sampleRate frameBytes ∨
    (periodBytes sampleRate frameBytes + frameBytes.toNat - 1 < 2 ^ 32 ∧
      framedPeriod sampleRate frameBytes * 4 % 2 ^ 32 < framedPeriod sampleRate frameBytes)

/-- Four periods of whole frames, rounded up to pages, fit 32 bits. -/
def Fits (sampleRate frameBytes : UInt32) : Prop :=
  framedPeriod sampleRate frameBytes * 4 + 4095 < 2 ^ 32

/-- A sum that wraps leaves a period so short that the product passes its check. -/
theorem product_lt_iff (hframe : 0 < frameBytes.toNat) (hsmall : frameBytes.toNat ≤ 65535)
    (hperiod : periodBytes sampleRate frameBytes < 2 ^ 32) :
    4 * wrappedPeriod sampleRate frameBytes % 2 ^ 32 < wrappedPeriod sampleRate frameBytes ↔
      periodBytes sampleRate frameBytes + frameBytes.toNat - 1 < 2 ^ 32 ∧
        framedPeriod sampleRate frameBytes * 4 % 2 ^ 32 < framedPeriod sampleRate frameBytes := by
  by_cases hsum : periodBytes sampleRate frameBytes + frameBytes.toNat - 1 < 2 ^ 32
  · rw [wrappedPeriod_of_lt hsum, Nat.mul_comm]
    exact (and_iff_right hsum).symm
  · have hshort := wrappedPeriod_lt hframe hperiod (not_lt.mp hsum)
    constructor
    · intro hless
      rw [Nat.mod_eq_of_lt (by omega)] at hless
      omega
    · exact fun hless => absurd hless.1 hsum

theorem acAudioDmaSizes_eq_none (hframe : 0 < frameBytes.toNat) (hsmall : frameBytes.toNat ≤ 65535) :
    acAudioDmaSizes sampleRate frameBytes = none ↔ Refused sampleRate frameBytes := by
  by_cases hchecked : periodBytes sampleRate frameBytes = 0 ∨
      2 ^ 32 ≤ periodBytes sampleRate frameBytes
  · have hzero : frameBytes ≠ 0 := fun heq => by simp [heq] at hframe
    have hfails : periodBytes sampleRate frameBytes = 0 ∨
        periodBytes sampleRate frameBytes > 0xffffffff := by
      omega
    constructor
    · exact fun _ => hchecked.imp_right Or.inl
    · intro _
      simp only [acAudioDmaSizes]
      rw [if_neg hzero]
      exact if_pos hfails
  · obtain ⟨hpositive, hlarge⟩ := not_or.mp hchecked
    have hperiod := not_le.mp hlarge
    obtain ⟨host, size, -, -, hsizes⟩ := acAudioDmaSizes_of_period hframe hpositive hperiod
    rw [hsizes, Refused, or_iff_right hpositive, or_iff_right hlarge,
      ← product_lt_iff hframe hsmall hperiod]
    split
    · next hless => exact iff_of_true rfl hless
    · next hless => exact iff_of_false nofun hless

/-- Sizes that fit: none of the computations wraps. -/
theorem Fits.unwrapped (hfits : Fits sampleRate frameBytes) (hframe : 0 < frameBytes.toNat)
    (hsmall : frameBytes.toNat ≤ 65535) : Unwrapped sampleRate frameBytes := by
  have hle : periodBytes sampleRate frameBytes ≤ framedPeriod sampleRate frameBytes :=
    periodBytes_le_framedPeriod hframe
  unfold Fits at hfits
  constructor <;> omega

theorem Unwrapped.fits (hunwrapped : Unwrapped sampleRate frameBytes) :
    Fits sampleRate frameBytes := by
  have hrounded := hunwrapped.rounded
  unfold Fits
  omega

/-- The alignment stays inside the slack of the allocation. -/
theorem alignedAddress_bounds (raw : Nat) :
    raw ≤ alignedAddress raw ∧ alignedAddress raw ≤ raw + 4095 := by
  have halign : acAudioDmaAlignment.toNat = 4096 := rfl
  unfold alignedAddress
  simp only [halign]
  omega

/-- Sizes that fit are what they are meant to be. -/
theorem Fits.dmaSized {host size : UInt32} (hfits : Fits sampleRate frameBytes)
    (hframe : 0 < frameBytes.toNat) (hsmall : frameBytes.toNat ≤ 65535)
    (hsizes : acAudioDmaSizes sampleRate frameBytes = some (host, size)) (raw : Nat) :
    DmaSized sampleRate frameBytes raw (size.toNat + acAudioDmaAlignment.toNat - 1) host
      { size := size
        pages := (size + acAudioDmaAlignment - 1) / acAudioDmaAlignment
        addr := alignedAddress raw } := by
  have hunwrapped := hfits.unwrapped hframe hsmall
  have haccepted : ¬Refused sampleRate frameBytes := by
    rw [← acAudioDmaSizes_eq_none hframe hsmall, hsizes]
    exact nofun
  have hpositive : periodBytes sampleRate frameBytes ≠ 0 := fun hzero => haccepted (.inl hzero)
  obtain ⟨host', size', hhost, hsize, hresult⟩ :=
    acAudioDmaSizes_of_period hframe hpositive hunwrapped.period
  rw [wrappedPeriod_of_lt hunwrapped.framed] at hhost hsize hresult
  rw [hsizes] at hresult
  split at hresult
  · cases hresult
  · cases hresult
    have hfourth : 4 * framedPeriod sampleRate frameBytes < 2 ^ 32 := by
      rw [Nat.mul_comm]
      exact hunwrapped.product
    rw [Nat.mod_eq_of_lt hfourth, Nat.mod_eq_of_lt (by rw [Nat.mul_comm]; exact hfits)] at hsize
    have hword : size.toNat + 4095 < 2 ^ 32 := by
      have hpaged := hunwrapped.paged
      omega
    have hpages : ((size + acAudioDmaAlignment - 1) / acAudioDmaAlignment).toNat * 4096 =
        size.toNat := by
      have halign : acAudioDmaAlignment.toNat = 4096 := rfl
      rw [UInt32.toNat_div, UInt32.toNat_sub, UInt32.toNat_add, UInt32.toNat_one, halign]
      omega
    have haddr := alignedAddress_bounds raw
    have halign : acAudioDmaAlignment.toNat = 4096 := rfl
    constructor
    · rw [hhost]
      exact Nat.dvd_mul_left _ _
    · rw [hhost]
      exact periodBytes_le_framedPeriod hframe
    · rw [hsize]
      exact Nat.dvd_mul_left _ _
    · rw [hhost, hsize]
      omega
    · exact hpages
    · exact haddr.1
    · simp only [halign]
      omega
    · exact hunwrapped

/-- Sizes that are accepted are right exactly when they fit. -/
theorem dmaSized_iff_fits {host size : UInt32} (hframe : 0 < frameBytes.toNat)
    (hsmall : frameBytes.toNat ≤ 65535)
    (hsizes : acAudioDmaSizes sampleRate frameBytes = some (host, size)) (raw : Nat) :
    DmaSized sampleRate frameBytes raw (size.toNat + acAudioDmaAlignment.toNat - 1) host
        { size := size
          pages := (size + acAudioDmaAlignment - 1) / acAudioDmaAlignment
          addr := alignedAddress raw } ↔
      Fits sampleRate frameBytes := by
  constructor
  · exact fun hsized => hsized.unwrapped.fits
  · exact fun hfits => hfits.dmaSized hframe hsmall hsizes raw

end Sizes

/-! ## What a preparation does -/

section Prepare

variable {driver : DriverOps} {answers : Answers} {world : World} {index : SlotIndex}
  {frameBytes : UInt32} {log : List ControllerCmd}

/-- What a logging environment makes of a command that is answered. -/
theorem run_command_logging {cmd : ControllerCmd} {reply : ControllerReply cmd} {world' : World}
    {α : Type} (hreply : World.handle driver answers cmd world = some (reply, world'))
    (rest : ControllerReply cmd → ControllerProc α) :
    (command cmd >>= rest).run (World.handle driver answers).logging (world, log) =
      (rest reply).run (World.handle driver answers).logging (world', log ++ [cmd]) := by
  refine Proc.run_request_bind (World.handle driver answers).logging ?_ rest
  rw [Handler.logging, hreply]
  rfl

theorem run_streams_logging {α : Type} (rest : AcAudioController → ControllerProc α) :
    (streams >>= rest).run (World.handle driver answers).logging (world, log) =
      (rest world.audio).run (World.handle driver answers).logging (world, log ++ [.streams]) := by
  have hstreams : World.handle driver answers .streams world = some (world.audio, world) := rfl
  exact run_command_logging hstreams rest

theorem acAudioFreeDma_run (driver : DriverOps) (answers : Answers) (index : SlotIndex)
    (world : World) (log : List ControllerCmd) :
    ∃ log', (acAudioFreeDma index).run (World.handle driver answers).logging (world, log) =
      (.done (), world.freeDma index, log') := by
  unfold acAudioFreeDma
  rw [run_streams_logging, streams_eq_slot]
  cases hraw : (world.slot index).dmaRaw with
  | none =>
      rw [freeBuffer, Proc.pure_eq, Proc.done_bind, World.freeDma, hraw]
      exact ⟨log ++ [.streams] ++ [.modifySlot index _], rfl⟩
  | some raw =>
      have hfree : World.handle driver answers (.free raw) world =
          some ((), world.release (some raw)) := rfl
      rw [freeBuffer, run_command_logging hfree, World.freeDma, hraw]
      exact ⟨log ++ [.streams] ++ [.free raw] ++ [.modifySlot index _], rfl⟩

/-- Sizes that are refused end the preparation before anything is freed. -/
theorem acAudioPrepareDma_refused
    (hsizes : acAudioDmaSizes (world.slot index).config.sampleRate frameBytes = none) :
    (acAudioPrepareDma index frameBytes).run (World.handle driver answers).logging (world, log) =
      (.done none, world, log ++ [.streams]) := by
  unfold acAudioPrepareDma
  rw [run_streams_logging, streams_eq_slot, hsizes]
  rfl

/-- Without a block of memory the preparation fails with the old buffer freed. -/
theorem acAudioPrepareDma_without (driver : DriverOps) {sizes : UInt32 × UInt32}
    (hsizes : acAudioDmaSizes (world.slot index).config.sampleRate frameBytes = some sizes)
    (hbuffer : answers.buffer = none) :
    ∃ log', (acAudioPrepareDma index frameBytes).run (World.handle driver answers).logging
      (world, log) = (.done none, world.freeDma index, log') := by
  obtain ⟨log₁, hfreed⟩ := acAudioFreeDma_run driver answers index world (log ++ [.streams])
  have halloc : World.handle driver answers
      (.alloc (sizes.2.toNat + acAudioDmaAlignment.toNat - 1) acAudioDmaAlignment)
      (world.freeDma index) = some (none, world.freeDma index) := by
    simp [World.handle, World.alloc, hbuffer]
  unfold acAudioPrepareDma
  rw [run_streams_logging, streams_eq_slot, hsizes]
  simp only
  rw [Proc.run_bind_done _ hfreed, run_command_logging halloc]
  exact ⟨_, rfl⟩

/-- A preparation that succeeds asks for the size and the slack of the alignment. -/
theorem acAudioPrepareDma_succeeds (driver : DriverOps) {host size : UInt32} {raw : Nat}
    (hsizes : acAudioDmaSizes (world.slot index).config.sampleRate frameBytes = some (host, size))
    (hbuffer : answers.buffer = some raw) (hfresh : raw ∉ (world.freeDma index).heap) :
    ∃ log', (acAudioPrepareDma index frameBytes).run (World.handle driver answers).logging
        (world, log) =
      (.done (some (host,
        { size := size
          pages := (size + acAudioDmaAlignment - 1) / acAudioDmaAlignment
          addr := alignedAddress raw })),
        (world.freeDma index).takeDma index raw size, log') ∧
      .alloc (size.toNat + acAudioDmaAlignment.toNat - 1) acAudioDmaAlignment ∈ log' := by
  obtain ⟨log₁, hfreed⟩ := acAudioFreeDma_run driver answers index world (log ++ [.streams])
  have halloc : World.handle driver answers
      (.alloc (size.toNat + acAudioDmaAlignment.toNat - 1) acAudioDmaAlignment)
      (world.freeDma index) =
        some (some raw, { world.freeDma index with heap := raw :: (world.freeDma index).heap }) := by
    simp [World.handle, World.alloc, hbuffer, hfresh]
  unfold acAudioPrepareDma
  rw [run_streams_logging, streams_eq_slot, hsizes]
  simp only
  rw [Proc.run_bind_done _ hfreed, run_command_logging halloc]
  exact ⟨log₁ ++ [.alloc (size.toNat + acAudioDmaAlignment.toNat - 1) acAudioDmaAlignment] ++
    [.modifySlot index _], rfl, by simp⟩

/-- Every preparation that succeeds has made the sizes that are meant, in the block that it has
asked for. -/
def PreparesExactly (driver : DriverOps) (answers : Answers) (world : World) (index : SlotIndex)
    (frameBytes : UInt32) : Prop :=
  ∀ hostPeriodBytes dmaBuffer world' log,
    (acAudioPrepareDma index frameBytes).run (World.handle driver answers).logging (world, []) =
      (.done (some (hostPeriodBytes, dmaBuffer)), world', log) →
    ∃ raw allocSize, (world'.slot index).dmaRaw = some raw ∧ answers.buffer = some raw ∧
      .alloc allocSize acAudioDmaAlignment ∈ log ∧
      (world'.slot index).dmaAligned = dmaBuffer.addr ∧
      (world'.slot index).dmaBufferSize = dmaBuffer.size ∧
      DmaSized (world.slot index).config.sampleRate frameBytes raw allocSize hostPeriodBytes
        dmaBuffer

/-- A preparation that does not return sizes has none to be right. -/
theorem PreparesExactly.of_failed {state : World × List ControllerCmd}
    (hfailed : (acAudioPrepareDma index frameBytes).run (World.handle driver answers).logging
      (world, []) = (.done none, state)) :
    PreparesExactly driver answers world index frameBytes := by
  intro hostPeriodBytes dmaBuffer world' log hrun
  rw [hfailed] at hrun
  cases hrun

/-- The allocator hands out only free blocks. -/
theorem prepares_exactly_iff (driver : DriverOps) (answers : Answers) (world : World)
    (index : SlotIndex) (frameBytes : UInt32) (hframe : 1 ≤ frameBytes.toNat)
    (hsmall : frameBytes.toNat ≤ 65535)
    (hfresh : ∀ raw, answers.buffer = some raw → raw ∉ (world.freeDma index).heap) :
    PreparesExactly driver answers world index frameBytes ↔
      answers.buffer = none ∨ Refused (world.slot index).config.sampleRate frameBytes ∨
        Fits (world.slot index).config.sampleRate frameBytes := by
  cases hsizes : acAudioDmaSizes (world.slot index).config.sampleRate frameBytes with
  | none =>
      have hrefused := (acAudioDmaSizes_eq_none hframe hsmall).mp hsizes
      exact iff_of_true (.of_failed (acAudioPrepareDma_refused hsizes)) (.inr (.inl hrefused))
  | some sizes =>
      obtain ⟨host, size⟩ := sizes
      have haccepted : ¬Refused (world.slot index).config.sampleRate frameBytes := by
        rw [← acAudioDmaSizes_eq_none hframe hsmall, hsizes]
        exact nofun
      rw [or_iff_right haccepted]
      cases hbuffer : answers.buffer with
      | none =>
          obtain ⟨log, hfailed⟩ := acAudioPrepareDma_without driver hsizes hbuffer
          exact iff_of_true (.of_failed hfailed) (.inl rfl)
      | some raw =>
          have hsized := dmaSized_iff_fits hframe hsmall hsizes raw
          obtain ⟨log, hrun, halloc⟩ :=
            acAudioPrepareDma_succeeds driver hsizes hbuffer (hfresh raw hbuffer)
          constructor
          · intro hexact
            obtain ⟨raw', allocSize, -, -, -, -, -, hright⟩ := hexact _ _ _ _ hrun
            exact .inr hright.unwrapped.fits
          · intro hcondition
            have hfits := hcondition.resolve_left nofun
            intro hostPeriodBytes dmaBuffer world' log' hrun'
            rw [hrun] at hrun'
            cases hrun'
            have hslot : ((world.freeDma index).takeDma index raw size).slot index =
                { (world.freeDma index).slot index with
                  dmaRaw := some raw, dmaAligned := alignedAddress raw, dmaBufferSize := size } :=
              slot_takeDma
            refine ⟨raw, _, ?_, hbuffer, halloc, ?_, ?_, hsized.mpr hfits⟩ <;> rw [hslot]

end Prepare

/-! ## Two formats -/

def leadingSlot : SlotIndex := ⟨0, acTransportAudioMaxStreams_pos⟩

/-- A world whose first slot is to be configured. -/
def configuringWorld (config : AcAudioStreamConfig) : World where
  audio := acAudioInit.modify leadingSlot ({ · with config := config, allocated := true })
  channels := []
  heap := []
  sofStreams := fun _ => none

theorem configuringWorld_config (config : AcAudioStreamConfig) :
    ((configuringWorld config).slot leadingSlot).config = config := by
  simp [World.slot, configuringWorld, AcAudioController.modify]

theorem configuringWorld_fresh (config : AcAudioStreamConfig) (raw : Nat) :
    raw ∉ ((configuringWorld config).freeDma leadingSlot).heap := by
  simp [World.freeDma, World.slot, World.release, World.modify, configuringWorld,
    AcAudioController.modify, acAudioInit]

/-- Four periods of 48 kHz stereo. -/
theorem prepares_exactly_stereo :
    PreparesExactly ⟨true, true⟩ { buffer := some 4100 }
      (configuringWorld { sampleRate := 48000, channels := 2, bytesPerSample := 2 })
      leadingSlot 4 := by
  refine (prepares_exactly_iff _ _ _ _ _ (by decide) (by decide) ?_).mpr (.inr (.inr ?_))
  · exact fun raw _ => configuringWorld_fresh _ raw
  · rw [configuringWorld_config]
    unfold Fits framedPeriod periodBytes acAudioDefaultPeriodUs
    simp

/-- A period of almost 4 GiB in frames of 62500 bytes: the rounding wraps, the preparation succeeds
with a period and a buffer of no bytes. -/
theorem prepares_empty_buffer :
    ¬PreparesExactly ⟨true, true⟩ { buffer := some 4096 }
      (configuringWorld { sampleRate := 17179869, channels := 15625, bytesPerSample := 4 })
      leadingSlot 62500 := by
  have hsizes : acAudioDmaSizes 17179869 62500 = some (0, 0) := by
    simp [acAudioDmaSizes, acAudioDefaultPeriodUs, acAudioDefaultPeriodCount, acAudioDmaAlignment]
  intro hexact
  have hbuffer : Answers.buffer { buffer := some 4096 } = some 4096 := rfl
  have hfresh := configuringWorld_fresh
    { sampleRate := 17179869, channels := 15625, bytesPerSample := 4 } 4096
  obtain ⟨log, hrun, -⟩ :=
    acAudioPrepareDma_succeeds ⟨true, true⟩ (by rw [configuringWorld_config]; exact hsizes)
      hbuffer hfresh
  obtain ⟨raw, allocSize, -, -, -, -, -, hsized⟩ := hexact _ _ _ _ hrun
  have hperiod := hsized.period
  rw [configuringWorld_config] at hperiod
  simp [periodBytes, acAudioDefaultPeriodUs] at hperiod

end AudioStudio.Controller
