import AudioStudio.DataLink.Firmware
import AudioStudio.DataLink.Fragments
import AudioStudio.DataLink.Tracking
import AudioStudio.Wire.DataLinkCodec

/-!
# The firmware on a link of whole frames

Between two calls the stream buffer holds no bytes that count, each
`ac_datalink_read_frame` is one observation, and the loops of `ac_datalink.c` are
those of stop-and-wait.
-/

namespace AudioStudio.DataLink

open LittleEndian
open StopAndWait
open Wire
open DataLinkFrameCodec

namespace AcDatalinkController

/-- An open controller between two calls. -/
structure Idle (mtu : Nat) (nextLinkSequence : UInt32) (datalink : AcDatalinkController) :
    Prop where
  ops : datalink.ops = some { read := true, write := true }
  isOpen : datalink.isOpen = true
  mtu : acDatalinkEffectiveMtu datalink = mtu
  length : datalink.rxStream.length = acDatalinkRxStreamSize
  sequence : datalink.nextLinkSequence = nextLinkSequence
  size : datalink.rxStreamSize = 0

variable {count : Nat}

/-- Discarding everything only resets the size. -/
theorem discard_all {datalink : AcDatalinkController} (hsize : datalink.rxStreamSize = count) :
    datalink.discard count = { datalink with rxStreamSize := 0 } := by
  simp [discard, hsize]

/-- The stream holds the first `count` bytes of a frame. -/
structure Holds (bytes : Bytes) (count : Nat) (datalink : AcDatalinkController) : Prop where
  length : datalink.rxStream.length = acDatalinkRxStreamSize
  size : datalink.rxStreamSize = count
  front : datalink.rxStream.take count = bytes.take count
  magic : count = 0 ∨ 4 ≤ count

theorem Holds.eq {bytes : Bytes} {datalink : AcDatalinkController}
    (hholds : Holds bytes count datalink) :
    datalink.rxStream = bytes.take count ++ datalink.rxStream.drop count := by
  rw [← hholds.front, List.take_append_drop]

theorem Holds.skipNoise {frame : DataLinkFrame} {datalink : AcDatalinkController}
    (hholds : Holds (encode frame) count datalink) (size : Nat) :
    datalink.skipNoise size = datalink := by
  cases size with
  | zero => rfl
  | succ size =>
      rw [AcDatalinkController.skipNoise, if_neg]
      rintro ⟨hpositive, hnoise⟩
      rcases hholds.magic with hzero | hmagic
      · rw [hholds.size, hzero] at hpositive
        omega
      · rw [hholds.eq, acDatalinkIsMagic_take frame hmagic] at hnoise
        cases hnoise

theorem Holds.frameSize {frame : DataLinkFrame} (hpayload : frame.payload.length < 2 ^ 32)
    {datalink : AcDatalinkController} (hholds : Holds (encode frame) count datalink)
    (hcount : count ≤ (encode frame).length) :
    acDatalinkFrameSize datalink.rxStream datalink.rxStreamSize =
      if count < dataLinkHeaderSize then 0 else (encode frame).length := by
  rw [hholds.size, hholds.eq]
  exact acDatalinkFrameSize_take hpayload hcount _

theorem Holds.store {bytes block : Bytes} {count : Nat} {datalink : AcDatalinkController}
    (hholds : Holds bytes count datalink) {size : Nat}
    (hblock : block = (bytes.drop count).take size)
    (hsize : block.length = size) (hfits : count + size ≤ acDatalinkRxStreamSize)
    (hmagic : 4 ≤ count + size) :
    Holds bytes (count + size) (datalink.store block) where
  length := by
    rw [AcDatalinkController.store, poke_length, hholds.length]
    rw [hholds.size, hholds.length, hsize]
    exact hfits
  size := by rw [AcDatalinkController.store, hholds.size, hsize]
  front := by
    have hlong : count ≤ datalink.rxStream.length := by
      rw [hholds.length]
      omega
    have hfront : (datalink.rxStream.take count ++ block).length = count + size := by
      rw [List.length_append, List.length_take_of_le hlong, hsize]
    rw [AcDatalinkController.store, poke, hholds.size]
    dsimp only
    rw [List.take_left' hfront, hholds.front, hblock, List.take_add]
  magic := .inr hmagic

end AcDatalinkController

open AcDatalinkController

/-! ## Reading -/

theorem acDatalinkEffectiveMtu_le (datalink : AcDatalinkController) :
    acDatalinkEffectiveMtu datalink ≤ acDatalinkMaxFrameSize := by
  unfold acDatalinkEffectiveMtu
  generalize (if datalink.mtu = 0 then 256 else datalink.mtu) = mtu
  dsimp only
  split
  · exact Nat.le_refl _
  · next hsmall => exact Nat.not_lt.mp hsmall

/-- A frame both sides can hold in the firmware's frame copy. -/
def acFits (frame : DataLinkFrame) : Prop :=
  (encode frame).length ≤ acDatalinkMaxFrameSize

theorem acFits.payload {frame : DataLinkFrame} (hfits : acFits frame) :
    frame.payload.length < 2 ^ 32 := by
  rw [acFits, encode_length, acDatalinkMaxFrameSize] at hfits
  omega

section Reading

variable {frame : DataLinkFrame} {datalink : AcDatalinkController} {timeoutMs : UInt32}
  {rest : List (LinkEvent AcError)} {written : List Bytes} {mtu : Nat} {next : UInt32}

theorem acDatalinkReadLoop_complete (hfits : acFits frame) (bound : Nat)
    (hholds : Holds (encode frame) (encode frame).length datalink) :
    acDatalinkReadLoop timeoutMs (bound + 1) datalink =
      .done (.ok frame.view, datalink.discard (encode frame).length) := by
  have hlength := encode_length frame
  have hheader : ¬(encode frame).length < dataLinkHeaderSize := by omega
  have hsize := hholds.frameSize hfits.payload (Nat.le_refl _)
  rw [if_neg hheader] at hsize
  have hfits' : (encode frame).length ≤ 1024 := hfits
  rw [acDatalinkReadLoop, hholds.skipNoise, hsize, hholds.size,
    if_neg (by rw [acDatalinkRxStreamSize, acDatalinkMaxFrameSize]; omega),
    if_pos (by rw [dataLinkHeaderSize] at hlength; omega), hholds.front, List.take_length,
    acDatalinkDecodeFrame_encode hfits.payload]
  dsimp only
  rw [if_neg (Nat.not_lt.mpr hfits)]
  rfl

/-- One round of the read loop while the frame at hand is incomplete. -/
theorem acDatalinkReadLoop_round (hfits : acFits frame) {count bound : Nat}
    (hholds : Holds (encode frame) count datalink) (hcount : count < (encode frame).length)
    {reads : List (LinkEvent AcError)} :
    (acDatalinkReadLoop timeoutMs (bound + 1) datalink).run Script.handle
        ⟨reads, written⟩ =
      (readBlock (acDatalinkEffectiveMtu datalink) timeoutMs >>= fun reply =>
        match reply with
        | .error ret => pure (.error ret, datalink)
        | .ok buffer =>
            if buffer.length = 0 then pure (.error .noData, datalink)
            else if datalink.rxStreamSize + buffer.length > acDatalinkRxStreamSize then .fault
            else acDatalinkReadLoop timeoutMs bound (datalink.store buffer)).run Script.handle
        ⟨reads, written⟩ := by
  have hmtu := acDatalinkEffectiveMtu_le datalink
  have hfits' : (encode frame).length ≤ 1024 := hfits
  rw [acDatalinkMaxFrameSize] at hmtu
  have hsize := hholds.frameSize hfits.payload (Nat.le_of_lt hcount)
  have hincomplete : ¬(acDatalinkFrameSize datalink.rxStream datalink.rxStreamSize > 0 ∧
      datalink.rxStreamSize ≥ acDatalinkFrameSize datalink.rxStream datalink.rxStreamSize) := by
    rw [hsize, hholds.size]
    split <;> omega
  have hsmall : ¬acDatalinkFrameSize datalink.rxStream datalink.rxStreamSize >
      acDatalinkRxStreamSize := by
    rw [hsize, acDatalinkRxStreamSize, acDatalinkMaxFrameSize]
    split <;> omega
  have hroom : ¬datalink.rxStreamSize + acDatalinkEffectiveMtu datalink >
      acDatalinkRxStreamSize := by
    rw [hholds.size, acDatalinkRxStreamSize, acDatalinkMaxFrameSize]
    omega
  -- The rewrite may close the goal itself, depending on which instances are imported.
  rw [acDatalinkReadLoop, hholds.skipNoise, if_neg hsmall, if_neg hincomplete, if_neg hroom] <;> rfl

/-- A reader that holds the first `count` bytes of a frame reads the rest of it. -/
theorem acDatalinkReadLoop_rest (hfits : acFits frame) (bound count : Nat)
    (hholds : Holds (encode frame) count datalink) (hcount : count < (encode frame).length)
    (hmtu : dataLinkHeaderSize < acDatalinkEffectiveMtu datalink) :
    (∃ datalink', datalink'.rxStream.length = acDatalinkRxStreamSize ∧
      datalink' = { datalink with rxStream := datalink'.rxStream, rxStreamSize := 0 } ∧
      (acDatalinkReadLoop timeoutMs bound datalink).run Script.handle
          ⟨.message ((encode frame).drop count) :: rest, written⟩ =
        (.done (.ok frame.view, datalink'), ⟨rest, written⟩)) ∨
    ∃ script, (acDatalinkReadLoop timeoutMs bound datalink).run Script.handle
        ⟨.message ((encode frame).drop count) :: rest, written⟩ = (.spent, script) ∧
      script.written = written ∧ bound ≤ (encode frame).length - count := by
  induction bound generalizing count datalink with
  | zero => exact .inr ⟨_, rfl, rfl, Nat.zero_le _⟩
  | succ bound ih =>
      have hfits' : (encode frame).length ≤ 1024 := hfits
      have hle := acDatalinkEffectiveMtu_le datalink
      rw [acDatalinkMaxFrameSize] at hle
      rw [dataLinkHeaderSize] at hmtu
      have hlength := encode_length frame
      rw [dataLinkHeaderSize] at hlength
      have hdrop : ((encode frame).drop count).length = (encode frame).length - count :=
        List.length_drop
      have hroom : ∀ size, size ≤ (encode frame).length - count →
          ¬datalink.rxStreamSize + size > acDatalinkRxStreamSize := by
        intro size hsize
        rw [hholds.size, acDatalinkRxStreamSize, acDatalinkMaxFrameSize]
        omega
      have hkept : ∀ block, acDatalinkEffectiveMtu (datalink.store block) =
          acDatalinkEffectiveMtu datalink := fun _ => rfl
      rw [acDatalinkReadLoop_round hfits hholds hcount, Script.run_readBlock_bind]
      by_cases hwhole : ((encode frame).drop count).length ≤ acDatalinkEffectiveMtu datalink
      · have hstored := hholds.store (List.take_length.symm) rfl
          (by rw [hdrop, acDatalinkRxStreamSize, acDatalinkMaxFrameSize]; omega)
          (by omega)
        rw [hdrop, Nat.add_sub_cancel' (Nat.le_of_lt hcount)] at hstored
        simp only [Script.read, hwhole, if_true]
        rw [if_neg (by omega), if_neg (hroom _ (by omega))]
        cases bound with
        | zero => exact .inr ⟨_, rfl, rfl, by omega⟩
        | succ bound =>
            rw [acDatalinkReadLoop_complete hfits bound hstored, discard_all hstored.size]
            exact .inl ⟨{ datalink.store _ with rxStreamSize := 0 }, hstored.length, rfl, rfl⟩
      · have htake : (((encode frame).drop count).take (acDatalinkEffectiveMtu datalink)).length =
            acDatalinkEffectiveMtu datalink := List.length_take_of_le (by omega)
        have hstored := hholds.store rfl htake
          (by rw [acDatalinkRxStreamSize, acDatalinkMaxFrameSize]; omega) (by omega)
        simp only [Script.read, hwhole, if_false]
        rw [if_neg (by omega), if_neg (hroom _ (by omega)), List.drop_drop]
        rcases ih _ hstored (by omega) (by rw [hkept, dataLinkHeaderSize]; exact hmtu) with
          ⟨datalink', hlong, hsame, hrun⟩ | ⟨script, hspent, hwritten, hbound⟩
        · exact .inl ⟨datalink', hlong, hsame, hrun⟩
        · exact .inr ⟨script, hspent, hwritten, by omega⟩

/-- On a link of whole frames `ac_datalink_read_frame` is one observation. -/
theorem acDatalinkReadFrame_tracks {valid : DataLinkFrame → Prop}
    (hvalid : ∀ frame, valid frame → acFits frame) (bound : Nat)
    (hmtu : dataLinkHeaderSize < mtu) (hidle : Idle mtu next datalink) :
    Tracks encode valid (Patient encode valid bound)
      (acDatalinkReadFrame bound timeoutMs datalink) observe
      fun result seen => Idle mtu next result.2 ∧ Saw valid DataLinkFrame.view result.1 seen := by
  intro script hreadable
  obtain ⟨reads, written⟩ := script
  have hrun : acDatalinkReadFrame bound timeoutMs datalink =
      acDatalinkReadLoop timeoutMs bound datalink := by
    rw [acDatalinkReadFrame, hidle.ops]
    rfl
  have hmtu' : dataLinkHeaderSize < acDatalinkEffectiveMtu datalink := hidle.mtu.symm ▸ hmtu
  rw [hrun]
  cases bound with
  | zero => exact .spent (.stop reads) .waiting (by simp) fun hpatient => absurd hpatient.1 (by omega)
  | succ bound =>
      have hempty : ∀ frame : DataLinkFrame, Holds (encode frame) 0 datalink :=
        fun frame => ⟨hidle.length, hidle.size, by simp, .inl rfl⟩
      have hshort : ∀ frame : DataLinkFrame, 0 < (encode frame).length := by
        intro frame
        rw [encode_length, dataLinkHeaderSize]
        omega
      -- Any frame shows what an empty stream does.
      have hsmall : acFits {} := by
        rw [acFits, encode_length]
        decide
      cases reads with
      | nil =>
          rw [acDatalinkReadLoop_round hsmall (hempty {}) (hshort {}), Script.run_readBlock_bind]
          exact .waiting (.stop []) .waiting (by simp)
      | cons event rest =>
          cases event with
          | message bytes =>
              obtain ⟨frame, hframe, rfl⟩ := hreadable bytes List.mem_cons_self
              rcases acDatalinkReadLoop_rest (hvalid frame hframe) (bound + 1) 0 (hempty frame)
                (hshort frame) hmtu' with
                ⟨datalink', hlength, hsame, hdone⟩ | ⟨script, hspent, hwritten, hbound⟩
              · rw [List.drop_zero] at hdone
                rw [hdone]
                refine .done (.frame (.stop rest)) (.observe (.done _)) ⟨?_, .frame hframe⟩ (by simp)
                rw [hsame]
                exact ⟨hidle.ops, hidle.isOpen, hidle.mtu, hlength, hidle.sequence, rfl⟩
              · rw [List.drop_zero] at hspent
                rw [hspent]
                refine .spent (.stop _) .waiting (by simp [hwritten]) fun hpatient => ?_
                have := hpatient.2 frame hframe
                omega
          | upset upset =>
              rw [acDatalinkReadLoop_round hsmall (hempty {}) (hshort {}),
                Script.run_readBlock_bind]
              cases upset with
              | failure error =>
                  exact .done (.trouble (.stop rest)) (.observe (.done _))
                    ⟨hidle, .trouble error⟩ (by simp)
              | silence =>
                  exact .done (.trouble (.stop rest)) (.observe (.done _))
                    ⟨hidle, .trouble _⟩ (by simp)
              | deadline =>
                  exact .done (.trouble (.stop rest)) (.observe (.done _))
                    ⟨hidle, .trouble _⟩ (by simp)

end Reading

/-! ## Sending -/

section Sending

variable {valid : DataLinkFrame → Prop} {bound : Nat} {timeoutMs : UInt32}
  {format : Format DataLinkFrame} {mtu : Nat} {next : UInt32}

theorem acDatalinkSendFragment_tracks (hvalid : ∀ frame, valid frame → acFits frame)
    (hmtu : dataLinkHeaderSize < mtu) (hformat : format.answers = answersFragment)
    (frame : DataLinkFrame) {index : Nat} (hindex : frame.fragmentIndex.toNat = index)
    (attempts : Nat) {datalink : AcDatalinkController} (hidle : Idle mtu next datalink) :
    Tracks encode valid (Patient encode valid bound)
      (acDatalinkSendFragment bound (encode frame) frame.linkSequence index timeoutMs attempts
        datalink)
      (transmit format frame attempts)
      fun result delivered => delivered = result.1.isOk ∧ Idle mtu next result.2 := by
  induction attempts generalizing datalink with
  | zero => exact .done ⟨rfl, hidle⟩
  | succ attempts ih =>
      rw [acDatalinkSendFragment, transmit, hformat]
      refine Tracks.bind (Tracks.write rfl timeoutMs) fun reply _ hreply => ?_
      subst hreply
      refine Tracks.bind (acDatalinkReadFrame_tracks hvalid bound hmtu hidle)
        fun result seen hsaw => ?_
      obtain ⟨reply, datalink'⟩ := result
      obtain ⟨hidle', hsaw⟩ := hsaw
      have hretry : Idle mtu next { datalink' with retries := datalink'.retries + 1 } :=
        ⟨hidle'.ops, hidle'.isOpen, hidle'.mtu, hidle'.length, hidle'.sequence, hidle'.size⟩
      cases hsaw with
      | trouble error => exact ih hretry
      | @frame ack hack =>
          dsimp only [Option.any_some]
          by_cases hanswers : answersFragment ack frame = true
          · have hmatches : ack.view.linkSequence = frame.linkSequence ∧
                ack.view.fragmentIndex.toNat = index ∧ ack.view.flags &&& flagAck ≠ 0 := by
              simp only [answersFragment, Bool.and_eq_true, decide_eq_true_eq] at hanswers
              refine ⟨hanswers.1.1, ?_, hanswers.2⟩
              rw [← hindex, ← hanswers.1.2]
              rfl
            rw [if_pos hmatches, if_pos hanswers]
            exact .done ⟨rfl, hidle'⟩
          · have hmismatch : ¬(ack.view.linkSequence = frame.linkSequence ∧
                ack.view.fragmentIndex.toNat = index ∧ ack.view.flags &&& flagAck ≠ 0) := by
              rintro ⟨hsequence, hfragment, hflag⟩
              apply hanswers
              simp only [answersFragment, Bool.and_eq_true, decide_eq_true_eq]
              refine ⟨⟨hsequence, UInt16.toNat_inj.mp ?_⟩, hflag⟩
              rw [hindex, ← hfragment]
              rfl
            rw [if_neg hmismatch, if_neg hanswers]
            split
            · exact ih hretry
            · exact ih hidle'

theorem acDatalinkSendFragments_tracks (hvalid : ∀ frame, valid frame → acFits frame)
    (hmtu : dataLinkHeaderSize < mtu) (hsmall : mtu ≤ acDatalinkMaxFrameSize)
    (hformat : format.answers = answersFragment) (payload : Bytes)
    (linkSequence timeoutMs : UInt32) (count : Nat) (rest index : Nat)
    (hcount : index + rest ≤ 0xffff) {datalink : AcDatalinkController}
    (hidle : Idle mtu next datalink) :
    Tracks encode valid (Patient encode valid bound)
      (acDatalinkSendFragments bound payload linkSequence (mtu - dataLinkHeaderSize) count timeoutMs
        rest index datalink)
      (transmitAll format (acDatalinkMaxRetries + 1)
        (fragmentsFrom payload linkSequence (mtu - dataLinkHeaderSize) count index rest))
      fun result delivered => delivered = result.1.isOk ∧ Idle mtu next result.2 := by
  induction rest generalizing index datalink with
  | zero => exact .done ⟨rfl, hidle.ops, hidle.isOpen, hidle.mtu, hidle.length, hidle.sequence, hidle.size⟩
  | succ rest ih =>
      generalize hcapacity : mtu - dataLinkHeaderSize = capacity
      have hmin : (if (if payload.length > index * capacity then
            payload.length - index * capacity else 0) > capacity then capacity
          else (if payload.length > index * capacity then
            payload.length - index * capacity else 0)) =
          min capacity (payload.length - index * capacity) := by
        split <;> split <;> omega
      have hframe : acDatalinkEncodeFrame acDatalinkMaxFrameSize
          (if index + 1 = count then flagData ||| flagEnd else flagData) linkSequence
          payload.length.toUInt32 (index * capacity).toUInt32 index.toUInt16 count.toUInt16
          ((payload.drop (index * capacity)).take capacity) =
            some (encode (fragment payload linkSequence capacity count index)) := by
        refine acDatalinkEncodeFrame_eq _ _ _ _ _ _ _ _ ?_
        rw [List.length_take]
        rw [acDatalinkMaxFrameSize] at hsmall ⊢
        rw [dataLinkHeaderSize] at hmtu hcapacity ⊢
        omega
      rw [acDatalinkSendFragments, fragmentsFrom_succ, transmitAll]
      dsimp only
      rw [hmin, take_min_drop, hframe]
      dsimp only
      have hindex : (fragment payload linkSequence capacity count index).fragmentIndex.toNat =
          index := by
        rw [fragment]
        exact UInt16.toNat_ofNat_of_lt' (by rw [UInt16.size]; omega)
      refine Tracks.bind (acDatalinkSendFragment_tracks hvalid hmtu hformat _ hindex
        (acDatalinkMaxRetries + 1) hidle) fun result delivered hresult => ?_
      obtain ⟨ret, datalink'⟩ := result
      obtain ⟨rfl, hidle'⟩ := hresult
      rw [← hcapacity]
      cases ret with
      | error ret => exact .done ⟨rfl, hidle'⟩
      | ok => exact ih (index + 1) (by omega) hidle'

/-- What `ac_datalink_send_packet` does not refuse. -/
def acAccepts (mtu : Nat) (payload : Bytes) : Bool :=
  decide (payload.length ≤ acDatalinkMaxPacketSize) && decide (dataLinkHeaderSize < mtu) &&
    decide (fragmentCount payload (mtu - dataLinkHeaderSize) ≤ 0xffff)

theorem ac_fragmentCount_eq (payload : Bytes) (capacity : Nat) :
    (if (payload.length + capacity - 1) / capacity = 0 then 1
      else (payload.length + capacity - 1) / capacity) = fragmentCount payload capacity := by
  rw [fragmentCount]
  generalize (payload.length + capacity - 1) / capacity = count
  split <;> omega

variable {payload : Bytes}

theorem acDatalinkSendPacket_accepted (hvalid : ∀ frame, valid frame → acFits frame)
    (hformat : format.answers = answersFragment) (haccepts : acAccepts mtu payload = true)
    {datalink : AcDatalinkController} (hidle : Idle mtu next datalink) :
    Tracks encode valid (Patient encode valid bound)
      (acDatalinkSendPacket bound payload timeoutMs datalink)
      (StopAndWait.sendPacket format (acDatalinkMaxRetries + 1)
        (fragments payload next (mtu - dataLinkHeaderSize)))
      fun result delivered => delivered = result.1.isOk ∧ Idle mtu (next + 1) result.2 := by
  simp only [acAccepts, Bool.and_eq_true, decide_eq_true_eq] at haccepts
  obtain ⟨⟨hsize, hmtu⟩, hcount⟩ := haccepts
  have hsmall : mtu ≤ acDatalinkMaxFrameSize := hidle.mtu ▸ acDatalinkEffectiveMtu_le datalink
  have hstart : Idle mtu (next + 1)
      { datalink with nextLinkSequence := datalink.nextLinkSequence + 1 } :=
    ⟨hidle.ops, hidle.isOpen, hidle.mtu, hidle.length, by rw [hidle.sequence], hidle.size⟩
  rw [StopAndWait.sendPacket, if_neg (by simp [fragments_ne_nil]), fragments,
    acDatalinkSendPacket, hidle.ops]
  dsimp only
  rw [if_neg (by simp [hidle.isOpen]), if_neg (Nat.not_lt.mpr hsize), hidle.mtu,
    if_neg (Nat.not_le.mpr hmtu), ac_fragmentCount_eq, if_neg (Nat.not_lt.mpr hcount),
    hidle.sequence]
  rw [hidle.ops, hidle.sequence] at hstart
  exact acDatalinkSendFragments_tracks hvalid hmtu hsmall hformat payload next timeoutMs _ _ 0
    (by omega) hstart

theorem acDatalinkSendPacket_refused (hrefused : acAccepts mtu payload = false)
    {datalink : AcDatalinkController} (hidle : Idle mtu next datalink) :
    Tracks encode valid (Patient encode valid bound)
      (acDatalinkSendPacket bound payload timeoutMs datalink)
      (StopAndWait.sendPacket format (acDatalinkMaxRetries + 1) [])
      fun result delivered => delivered = result.1.isOk ∧ Idle mtu next result.2 := by
  rw [acDatalinkSendPacket, hidle.ops]
  dsimp only
  rw [if_neg (by simp [hidle.isOpen]), hidle.mtu]
  by_cases hsize : payload.length > acDatalinkMaxPacketSize
  · rw [if_pos hsize]
    exact .done ⟨rfl, hidle⟩
  rw [if_neg hsize]
  by_cases hmtu : mtu ≤ dataLinkHeaderSize
  · rw [if_pos hmtu]
    exact .done ⟨rfl, hidle⟩
  have hcount : fragmentCount payload (mtu - dataLinkHeaderSize) > 0xffff := by
    simpa [acAccepts, Nat.not_lt.mp hsize, Nat.not_le.mp hmtu] using hrefused
  rw [if_neg hmtu, ac_fragmentCount_eq, if_pos hcount]
  exact .done ⟨rfl, hidle⟩

end Sending

/-! ## Receiving -/

/-- A DATA frame that fits and whose end is not beyond 32 bits. -/
structure AcData (frame : DataLinkFrame) : Prop where
  fits : acFits frame
  data : frame.flags &&& flagData ≠ 0
  noWrap : frame.fragmentOffset.toNat + frame.payload.length < 2 ^ 32

theorem poke_nil (buffer : Bytes) (offset : Nat) : poke buffer offset [] = buffer := by
  simp [poke]

section Receiving

variable {valid : DataLinkFrame → Prop} {bound : Nat} {timeoutMs : UInt32} {mtu : Nat}
  {next : UInt32} {payload : Bytes}

theorem acDatalinkSendAck_tracks {datalink : AcDatalinkController} (hidle : Idle mtu next datalink)
    (frame : DataLinkFrame) (ok : Bool) :
    Tracks encode valid (Patient encode valid bound)
      (acDatalinkSendAck datalink frame.view ok timeoutMs)
      (send (if ok then makeAck frame else makeNak frame))
      fun reply _ => reply = .ok () := by
  rw [acDatalinkSendAck, hidle.ops]
  dsimp only
  rw [if_neg (by decide), acDatalinkEncodeFrame_eq dataLinkHeaderSize _ _ _ _ _ _ [] (Nat.le_refl _)]
  cases ok with
  | true => exact Tracks.write rfl timeoutMs
  | false => exact Tracks.write rfl timeoutMs

/-- The copy of one fragment, which is skipped for an empty one. -/
theorem copy_eq {frame : DataLinkFrame} (hdata : AcData frame) (payload : Bytes) (offset : Nat) :
    (if frame.view.payloadSize > 0 then poke payload offset frame.view.payload else payload) =
      poke payload offset frame.payload := by
  have hsize : frame.view.payloadSize.toNat = frame.payload.length :=
    payloadSize_toNat hdata.fits.payload
  by_cases hempty : frame.payload = []
  · rw [if_neg, hempty, poke_nil]
    rw [gt_iff_lt, UInt32.lt_iff_toNat_lt, hsize, hempty]
    decide
  · rw [if_pos]
    · rfl
    · rw [gt_iff_lt, UInt32.lt_iff_toNat_lt, hsize]
      exact List.length_pos_iff.mpr hempty

/-- What `ac_datalink_receive_packet` returns for the fragments it took, in a buffer
that held `buffer`. -/
def acContent (buffer : Bytes) (first : DataLinkFrame) (frames : List DataLinkFrame) : Bytes :=
  (assemble buffer frames).take first.transportSize.toNat

theorem acDatalinkReceiveFragments_tracks (hvalid : ∀ frame, valid frame → AcData frame)
    (hmtu : dataLinkHeaderSize < mtu) (buffer : Bytes) (first : DataLinkFrame) (rest index : Nat)
    {collected : List DataLinkFrame} (hpayload : payload = assemble buffer collected)
    (hlength : payload.length = buffer.length) (hhead : collected.head? = some first)
    {datalink : AcDatalinkController} (hidle : Idle mtu next datalink) :
    Tracks encode valid (Patient encode valid bound)
      (acDatalinkReceiveFragments bound first.view timeoutMs rest index.toUInt16 payload datalink)
      (collect (acFormat buffer.length) first rest index collected)
      fun result value =>
        Delivers (acContent buffer) result.1.packet value ∧ Idle mtu next result.2 := by
  induction rest generalizing index payload collected datalink with
  | zero =>
      rw [hpayload]
      exact .done ⟨.packet hhead, hidle.ops, hidle.isOpen, hidle.mtu, hidle.length, hidle.sequence,
        hidle.size⟩
  | succ rest ih =>
      rw [acDatalinkReceiveFragments, collect]
      refine Tracks.bind (acDatalinkReadFrame_tracks (fun frame h => (hvalid frame h).fits) bound
        hmtu hidle) fun result seen hsaw => ?_
      obtain ⟨reply, datalink'⟩ := result
      obtain ⟨hidle', hsaw⟩ := hsaw
      cases hsaw with
      | trouble error => exact .done ⟨.failed error, hidle'⟩
      | @frame frame hframe =>
          have hdata := hvalid frame hframe
          have hsize : frame.view.payloadSize.toNat = frame.payload.length :=
            payloadSize_toNat hdata.fits.payload
          have hend : (frame.view.fragmentOffset + frame.view.payloadSize).toNat =
              frame.fragmentOffset.toNat + frame.payload.length := by
            rw [UInt32.toNat_add, hsize]
            exact Nat.mod_eq_of_lt hdata.noWrap
          have hrefuses : (frame.view.flags &&& flagData = 0 ∨
              frame.view.linkSequence ≠ first.view.linkSequence ∨
              frame.view.fragmentIndex ≠ index.toUInt16 ∨
              frame.view.transportSize ≠ first.view.transportSize ∨
              (frame.view.fragmentOffset + frame.view.payloadSize).toNat > payload.length) ↔
                ¬(acFormat buffer.length).continues first index frame = true := by
            rw [hend, hlength]
            simp only [acFormat, isNext, Bool.and_eq_true, decide_eq_true_eq, DataLinkFrame.view]
            rw [gt_iff_lt, ← Nat.not_le]
            tauto
          dsimp only
          by_cases hcontinues : (acFormat buffer.length).continues first index frame = true
          · have hfits : frame.fragmentOffset.toNat + frame.payload.length ≤ payload.length := by
              rw [hlength]
              simp only [acFormat, Bool.and_eq_true, decide_eq_true_eq] at hcontinues
              exact hcontinues.2
            have hinside : ¬(frame.view.payloadSize > 0 ∧
                frame.view.fragmentOffset.toNat + frame.view.payloadSize.toNat >
                  payload.length) := by
              rw [hsize]
              exact fun h => absurd h.2 (Nat.not_lt.mpr hfits)
            rw [if_neg (not_iff_not.mpr hrefuses |>.mpr (not_not.mpr hcontinues)),
              if_neg hinside, if_pos hcontinues, copy_eq hdata]
            refine Tracks.bind (acDatalinkSendAck_tracks hidle' frame true) fun _ _ hreply => ?_
            subst hreply
            have hnextIndex : index.toUInt16 + 1 = (index + 1).toUInt16 := by
              simp [Nat.toUInt16]
            dsimp only
            rw [hnextIndex]
            refine ih (index + 1) (by rw [hpayload, assemble_snoc]; rfl) ?_ ?_ hidle'
            · exact (poke_length hfits).trans hlength
            · cases collected with
              | nil => cases hhead
              | cons => exact hhead
          · rw [if_pos (hrefuses.mpr hcontinues), if_neg hcontinues]
            refine Tracks.bind (acDatalinkSendAck_tracks hidle' frame false) fun _ _ _ => ?_
            exact .done ⟨.failed _, hidle'.ops, hidle'.isOpen, hidle'.mtu, hidle'.length,
              hidle'.sequence, hidle'.size⟩

/-- With DATA frames only, the first frame read is the first frame taken. -/
theorem acDatalinkFirstFrame_tracks (hvalid : ∀ frame, valid frame → AcData frame)
    (hmtu : dataLinkHeaderSize < mtu) (rounds : Nat) (hrounds : 0 < rounds)
    {datalink : AcDatalinkController} (hidle : Idle mtu next datalink) :
    Tracks encode valid (Patient encode valid bound)
      (acDatalinkFirstFrame bound timeoutMs rounds datalink) observe
      fun result seen => Idle mtu next result.2 ∧ Saw valid DataLinkFrame.view result.1 seen := by
  obtain ⟨rounds, rfl⟩ := Nat.exists_eq_succ_of_ne_zero (Nat.ne_of_gt hrounds)
  have hobserve : (observe >>= Proc.done : FrameProc DataLinkFrame _) = observe := rfl
  rw [acDatalinkFirstFrame, ← hobserve]
  refine Tracks.bind (acDatalinkReadFrame_tracks (fun frame h => (hvalid frame h).fits) bound
    hmtu hidle) fun result seen hsaw => ?_
  obtain ⟨reply, datalink'⟩ := result
  obtain ⟨hidle', hsaw⟩ := hsaw
  cases hsaw with
  | trouble error => exact .done ⟨hidle', .trouble error⟩
  | @frame frame hframe =>
      dsimp only
      rw [DataLinkFrame.view_flags, if_neg (hvalid frame hframe).data]
      exact .done ⟨hidle', .frame hframe⟩

theorem acDatalinkReceivePacket_tracks (hvalid : ∀ frame, valid frame → AcData frame)
    (hmtu : dataLinkHeaderSize < mtu) (hbound : 0 < bound) (buffer : Bytes)
    {datalink : AcDatalinkController} (hidle : Idle mtu next datalink) :
    Tracks encode valid (Patient encode valid bound)
      (acDatalinkReceivePacket bound buffer timeoutMs datalink)
      (StopAndWait.receivePacket (acFormat buffer.length))
      fun result value =>
        Delivers (acContent buffer) result.1.packet value ∧ Idle mtu next result.2 := by
  rw [acDatalinkReceivePacket, if_neg (by simp [hidle.ops, hidle.isOpen]),
    StopAndWait.receivePacket]
  refine Tracks.bind (acDatalinkFirstFrame_tracks hvalid hmtu bound hbound hidle)
    fun result seen hsaw => ?_
  obtain ⟨reply, datalink'⟩ := result
  obtain ⟨hidle', hsaw⟩ := hsaw
  cases hsaw with
  | trouble error => exact .done ⟨.failed error, hidle'⟩
  | @frame first hfirst =>
      have hdata := hvalid first hfirst
      have hsize : first.view.payloadSize.toNat = first.payload.length :=
        payloadSize_toNat hdata.fits.payload
      have hlarge : first.view.payloadSize > first.transportSize ↔
          first.payload.length > first.transportSize.toNat := by
        rw [gt_iff_lt, UInt32.lt_iff_toNat_lt, hsize]
      dsimp only
      rw [DataLinkFrame.view_fragmentOffset, DataLinkFrame.view_fragmentCount,
        DataLinkFrame.view_transportSize]
      by_cases hfirstOf : first.fragmentOffset ≠ 0 ∨ first.fragmentCount = 0
      · have hopens : (acFormat buffer.length).opens first = none := if_pos (by tauto)
        rw [if_pos hfirstOf, hopens]
        exact .done ⟨.failed _, hidle'⟩
      by_cases hroom : first.transportSize.toNat > buffer.length ∨
          first.transportSize.toNat > acDatalinkMaxPacketSize
      · have hopens : (acFormat buffer.length).opens first = none := if_pos (by tauto)
        rw [if_neg hfirstOf, if_pos hroom, hopens]
        exact .done ⟨.failed _, hidle'⟩
      by_cases hpayload : first.view.payloadSize > first.transportSize
      · have hopens : (acFormat buffer.length).opens first = none :=
          if_pos (by have := hlarge.mp hpayload; tauto)
        rw [if_neg hfirstOf, if_neg hroom, if_pos hpayload, hopens]
        exact .done ⟨.failed _, hidle'⟩
      have hopens : (acFormat buffer.length).opens first =
          some (first.fragmentCount.toNat - 1) := by
        rw [hlarge] at hpayload
        exact if_neg (by have := hdata.data; tauto)
      rw [if_neg hfirstOf, if_neg hroom, if_neg hpayload, hopens, copy_eq hdata]
      refine Tracks.bind (acDatalinkSendAck_tracks hidle' first true) fun _ _ hreply => ?_
      subst hreply
      have hoffset : first.fragmentOffset = 0 := not_not.mp fun h => hfirstOf (.inl h)
      have hassemble : poke buffer 0 first.payload = assemble buffer [first] := by
        rw [assemble, List.foldl_cons, List.foldl_nil, hoffset]
        rfl
      have hlength : (poke buffer 0 first.payload).length = buffer.length := by
        refine poke_length ?_
        rw [hlarge] at hpayload
        omega
      exact acDatalinkReceiveFragments_tracks hvalid hmtu buffer first _ 1 hassemble hlength rfl
        hidle'

end Receiving

end AudioStudio.DataLink
