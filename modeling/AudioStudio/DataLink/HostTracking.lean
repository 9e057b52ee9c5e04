import AudioStudio.DataLink.Fragments
import AudioStudio.DataLink.Host
import AudioStudio.DataLink.Tracking
import AudioStudio.Wire.DataLinkCodec

/-!
# The host on a link of whole frames

Between two calls the receive buffer is empty, each `readFrame` is one
observation, and the two loops of `DataLinkManager` are those of stop-and-wait.
-/

namespace AudioStudio.DataLink

open AudioStudio.Common
open LittleEndian
open StopAndWait
open Wire
open DataLinkFrameCodec

namespace DataLinkManager

theorem readFrame_zero (timeoutMs : UInt32) (manager : DataLinkManager) :
    manager.readFrame timeoutMs 0 = .spent := rfl

variable {frame : DataLinkFrame}

theorem readFrame_complete (hpayload : frame.payload.length < 2 ^ 32) (timeoutMs : UInt32)
    (bound : Nat) (manager : DataLinkManager) (hbuffer : manager.rxBuffer = encode frame) :
    manager.readFrame timeoutMs (bound + 1) = .done (.ok frame, { manager with rxBuffer := [] }) := by
  have hsize := frameSize_encode hpayload []
  rw [List.append_nil] at hsize
  unfold readFrame
  simp only [hbuffer, hsize, List.take_length, decode_encode hpayload, List.drop_length]
  rfl

/-- In front of a message there is time left. -/
theorem run_timeLeft_message {α : Type} {block : Bytes} {rest : List (LinkEvent Status)}
    {written : List Bytes} (timeoutMs : UInt32) (next : Option UInt32 → LinkProc Status α) :
    ((if timeoutMs = 0 then pure (some timeoutMs) else remaining timeoutMs) >>= next).run
        Script.handle ⟨.message block :: rest, written⟩ =
      (next (some timeoutMs)).run Script.handle ⟨.message block :: rest, written⟩ := by
  split <;> rfl

/-- One round of the read loop while the frame at hand is incomplete. -/
theorem readFrame_round {timeoutMs : UInt32} {bound : Nat} {manager : DataLinkManager}
    {message : String} (hsize : frameSize manager.rxBuffer = .error (.unavailable message))
    {block : Bytes} (hblock : block ≠ []) {rest : List (LinkEvent Status)}
    {written : List Bytes} {capacity : Nat}
    (hcapacity : capacity = max manager.caps.maxPayloadSize dataLinkHeaderSize) :
    (manager.readFrame timeoutMs (bound + 1)).run Script.handle
        ⟨.message block :: rest, written⟩ =
      if block.length ≤ capacity then
        (readFrame timeoutMs bound { manager with rxBuffer := manager.rxBuffer ++ block }).run
          Script.handle ⟨rest, written⟩
      else
        (readFrame timeoutMs bound
          { manager with rxBuffer := manager.rxBuffer ++ block.take capacity }).run
          Script.handle ⟨.message (block.drop capacity) :: rest, written⟩ := by
  have hpositive : 36 ≤ capacity := hcapacity ▸ Nat.le_max_right _ _
  have hlength : block.length ≠ 0 := fun h => hblock (List.length_eq_zero_iff.mp h)
  have htake : (block.take capacity).length ≠ 0 := by
    rw [List.length_take]
    omega
  rw [readFrame, hsize, ← hcapacity]
  dsimp only
  rw [if_neg (fun h => h rfl), run_timeLeft_message]
  dsimp only
  rw [Script.run_readBlock_bind]
  by_cases hfits : block.length ≤ capacity
  · simp only [Script.read, hfits, if_true, hlength, if_false]
  · simp only [Script.read, hfits, if_false, htake]

/-- A reader that holds the first `count` bytes of a frame reads the rest of it. -/
theorem readFrame_rest (hpayload : frame.payload.length < 2 ^ 32) (timeoutMs : UInt32)
    {rest : List (LinkEvent Status)} {written : List Bytes} (bound count : Nat)
    (hcount : count < (encode frame).length) (manager : DataLinkManager)
    (hbuffer : manager.rxBuffer = (encode frame).take count) :
    (manager.readFrame timeoutMs bound).run Script.handle
        ⟨.message ((encode frame).drop count) :: rest, written⟩ =
      (.done (.ok frame, { manager with rxBuffer := [] }), ⟨rest, written⟩) ∨
    ∃ script, (manager.readFrame timeoutMs bound).run Script.handle
        ⟨.message ((encode frame).drop count) :: rest, written⟩ = (.spent, script) ∧
      script.written = written ∧ bound ≤ (encode frame).length - count := by
  induction bound generalizing count manager with
  | zero => exact .inr ⟨_, rfl, rfl, Nat.zero_le _⟩
  | succ bound ih =>
      obtain ⟨message, hsize⟩ := frameSize_take hpayload hcount
      rw [← hbuffer] at hsize
      have hdrop : ((encode frame).drop count).length = (encode frame).length - count :=
        List.length_drop
      have hblock : (encode frame).drop count ≠ [] :=
        List.ne_nil_of_length_pos (by omega)
      rw [readFrame_round hsize hblock rfl, hdrop]
      generalize hcapacity : max manager.caps.maxPayloadSize dataLinkHeaderSize = capacity
      have hpositive : 36 ≤ capacity := hcapacity ▸ Nat.le_max_right _ _
      split
      · rw [hbuffer, List.take_append_drop]
        cases bound with
        | zero =>
            rw [readFrame_zero, Proc.run_spent]
            exact .inr ⟨_, rfl, rfl, by omega⟩
        | succ bound =>
            rw [readFrame_complete hpayload timeoutMs bound _ rfl]
            exact .inl rfl
      · next hlong =>
          rw [List.drop_drop, hbuffer]
          have htake : (encode frame).take count ++ ((encode frame).drop count).take capacity =
              (encode frame).take (count + capacity) := List.take_add.symm
          rw [htake]
          rcases ih (count + capacity) (by omega)
            { manager with rxBuffer := (encode frame).take (count + capacity) } rfl with
            hdone | ⟨script, hspent, hwritten, hbound⟩
          · exact .inl hdone
          · exact .inr ⟨script, hspent, hwritten, by omega⟩

variable {manager : DataLinkManager}

/-- On a link of whole frames `readFrame` is one observation and leaves the manager as it was. -/
theorem readFrame_tracks {valid : DataLinkFrame → Prop}
    (hvalid : ∀ frame, valid frame → frame.payload.length < 2 ^ 32) (timeoutMs : UInt32)
    (bound : Nat) (hidle : manager.rxBuffer = []) :
    Tracks encode valid (Patient encode valid bound)
      (manager.readFrame timeoutMs bound) observe
      fun result seen => result.2 = manager ∧ Saw valid id result.1 seen := by
  intro script hreadable
  obtain ⟨reads, written⟩ := script
  have hempty : frameSize manager.rxBuffer =
      .error (.unavailable "data-link frame header is incomplete") := by
    rw [hidle]
    rfl
  induction bound generalizing reads with
  | zero =>
      rw [readFrame_zero]
      exact .spent (.stop reads) .waiting (by simp) fun hpatient => absurd hpatient.1 (by omega)
  | succ bound ih =>
      cases reads with
      | nil =>
          have hrun : (manager.readFrame timeoutMs (bound + 1)).run Script.handle ⟨[], written⟩ =
              (.waiting, ⟨[], written⟩) := by
            rw [readFrame, hempty]
            dsimp only
            rw [if_neg (fun h => h rfl)]
            by_cases htimeout : timeoutMs = 0
            · rw [if_pos htimeout]
              rfl
            · rw [if_neg htimeout]
              rfl
          rw [hrun]
          exact .waiting (.stop []) .waiting (by simp)
      | cons event rest =>
          cases event with
          | message bytes =>
              obtain ⟨frame, hframe, rfl⟩ := hreadable bytes List.mem_cons_self
              have hlength : 0 < (encode frame).length := by
                rw [encode_length, dataLinkHeaderSize]
                omega
              rcases readFrame_rest (hvalid frame hframe) timeoutMs (bound + 1) 0 hlength manager
                (by simp [hidle]) with hdone | ⟨script, hspent, hwritten, hbound⟩
              · rw [List.drop_zero] at hdone
                rw [hdone, ← hidle]
                exact .observed (.frame (.stop rest)) (.frame hframe)
              · rw [List.drop_zero] at hspent
                rw [hspent]
                refine .spent (.stop _) .waiting (by simp [hwritten]) fun hpatient => ?_
                have := hpatient.2 frame hframe
                omega
          | upset upset =>
              have hrest := ih rest (hreadable.suffix (List.suffix_cons _ _))
              rw [readFrame, hempty]
              dsimp only
              rw [if_neg (fun h => h rfl)]
              by_cases htimeout : timeoutMs = 0
              · rw [if_pos htimeout]
                cases upset with
                | failure error => exact .observed (.trouble (.stop rest)) (.trouble error)
                | silence =>
                    simp only [htimeout, if_true]
                    exact .observed (.trouble (.stop rest)) (.trouble _)
                | deadline =>
                    simp only [htimeout, if_true]
                    exact .observed (.trouble (.stop rest)) (.trouble _)
              · rw [if_neg htimeout]
                cases upset with
                | failure error => exact .observed (.trouble (.stop rest)) (.trouble error)
                | deadline => exact .observed (.trouble (.stop rest)) (.trouble _)
                | silence =>
                    simp only [if_neg htimeout]
                    cases rest with
                    | nil => exact .waiting (.passed (.stop [])) .waiting (by simp)
                    | cons next rest =>
                        cases next with
                        | message bytes => exact hrest.passed _
                        | upset later =>
                            cases later with
                            | deadline =>
                                exact .observed (.passed (.trouble (.stop rest))) (.trouble _)
                            | silence => exact hrest.passed _
                            | failure error => exact hrest.passed _

/-! ## Sending -/

/-- What a call that is over has left unchanged. -/
structure Idle (caps : DataLinkDeviceCaps) (config : DataLinkManagerConfig)
    (nextLinkSequence : UInt32) (manager : DataLinkManager) : Prop where
  caps : manager.caps = caps
  config : manager.config = config
  sequence : manager.nextLinkSequence = nextLinkSequence
  buffer : manager.rxBuffer = []

section Tracking

variable {valid : DataLinkFrame → Prop} {bound : Nat} {timeoutMs : UInt32}
  {format : Format DataLinkFrame} {caps : DataLinkDeviceCaps} {config : DataLinkManagerConfig}
  {next : UInt32}

theorem sendFragment_tracks (hvalid : ∀ frame, valid frame → frame.payload.length < 2 ^ 32)
    (hformat : format.answers = answersFragment) (frame : DataLinkFrame) (retries : Nat)
    (hidle : Idle caps config next manager) :
    Tracks encode valid (Patient encode valid bound)
      (manager.sendFragment bound frame timeoutMs retries)
      (transmit format frame (retries + 1))
      fun result delivered => delivered = result.1.isOk ∧ Idle caps config next result.2 := by
  have hsent : Idle caps config next manager.countFragmentSent :=
    ⟨hidle.1, hidle.2, hidle.3, hidle.4⟩
  induction retries generalizing manager with
  | zero =>
      rw [sendFragment, transmit, hformat]
      refine Tracks.bind (Tracks.write rfl timeoutMs) fun reply _ hreply => ?_
      subst hreply
      refine Tracks.bind (readFrame_tracks hvalid _ bound hsent.buffer) fun result seen hsaw => ?_
      obtain ⟨reply, manager'⟩ := result
      obtain ⟨rfl, hsaw⟩ := hsaw
      cases hsaw with
      | trouble error => exact .done ⟨rfl, hsent⟩
      | @frame ack hack =>
          change Tracks _ _ _ (if answersFragment ack frame then _ else _)
            (if answersFragment ack frame then _ else _) _
          split
          · exact .done ⟨rfl, hsent⟩
          · exact .done ⟨rfl, hsent⟩
  | succ retries ih =>
      rw [sendFragment, transmit, hformat]
      refine Tracks.bind (Tracks.write rfl timeoutMs) fun reply _ hreply => ?_
      subst hreply
      refine Tracks.bind (readFrame_tracks hvalid _ bound hsent.buffer) fun result seen hsaw => ?_
      obtain ⟨reply, manager'⟩ := result
      obtain ⟨rfl, hsaw⟩ := hsaw
      have hretry : Idle caps config next manager.countFragmentSent.countRetry :=
        ⟨hidle.1, hidle.2, hidle.3, hidle.4⟩
      cases hsaw with
      | trouble error => exact ih hretry ⟨hidle.1, hidle.2, hidle.3, hidle.4⟩
      | @frame ack hack =>
          change Tracks _ _ _ (if answersFragment ack frame then _ else _)
            (if answersFragment ack frame then _ else _) _
          split
          · exact .done ⟨rfl, hsent⟩
          · exact ih hretry ⟨hidle.1, hidle.2, hidle.3, hidle.4⟩

theorem sendFragments_tracks (hvalid : ∀ frame, valid frame → frame.payload.length < 2 ^ 32)
    (hformat : format.answers = answersFragment) (payload : Bytes) (linkSequence timeoutMs : UInt32)
    (capacity count rest index : Nat) (hidle : Idle caps config next manager) :
    Tracks encode valid (Patient encode valid bound)
      (manager.sendFragments bound payload linkSequence capacity count timeoutMs rest index)
      (transmitAll format (config.maxRetries + 1)
        (fragmentsFrom payload linkSequence capacity count index rest))
      fun result delivered => delivered = result.1.isOk ∧ Idle caps config next result.2 := by
  induction rest generalizing index manager with
  | zero => exact .done ⟨rfl, hidle.1, hidle.2, hidle.3, hidle.4⟩
  | succ rest ih =>
      rw [sendFragments, fragmentsFrom_succ, transmitAll]
      rw [take_min_drop, hidle.config]
      refine Tracks.bind (sendFragment_tracks hvalid hformat (fragment payload linkSequence capacity count
        index) config.maxRetries hidle) fun result delivered hresult => ?_
      obtain ⟨status, manager'⟩ := result
      obtain ⟨rfl, hidle'⟩ := hresult
      cases status with
      | error status => exact .done ⟨rfl, hidle'⟩
      | ok => exact ih (index + 1) hidle'

/-- What `sendPacket` does not refuse. -/
def accepts (mtu : Nat) (payload : Bytes) : Bool :=
  decide (dataLinkHeaderSize < mtu) &&
    decide (fragmentCount payload (mtu - dataLinkHeaderSize) ≤ 0xffff)

variable {payload : Bytes}

theorem sendPacket_accepted (hvalid : ∀ frame, valid frame → frame.payload.length < 2 ^ 32)
    (hformat : format.answers = answersFragment)
    (haccepts : accepts caps.maxPayloadSize payload = true) (hidle : Idle caps config next manager)
    :
    Tracks encode valid (Patient encode valid bound) (manager.sendPacket bound payload timeoutMs)
      (StopAndWait.sendPacket format (config.maxRetries + 1)
        (fragments payload next (caps.maxPayloadSize - dataLinkHeaderSize)))
      fun result delivered =>
        delivered = result.1.isOk ∧ Idle caps config (next + 1) result.2 := by
  simp only [accepts, Bool.and_eq_true, decide_eq_true_eq] at haccepts
  have hstart : Idle caps config (next + 1)
      { manager with nextLinkSequence := manager.nextLinkSequence + 1 } :=
    ⟨hidle.1, hidle.2, by rw [hidle.3], hidle.4⟩
  rw [StopAndWait.sendPacket, if_neg (by simp [fragments_ne_nil]), fragments]
  refine (sendFragments_tracks hvalid hformat payload next timeoutMs _ _ _ 0 hstart).of_run_eq fun script => ?_
  rw [sendPacket, Script.run_isConnected_bind, if_neg (by decide),
    if_neg (Nat.not_le.mpr (hidle.caps ▸ haccepts.1))]
  dsimp only
  rw [← fragmentCount, hidle.caps, if_neg (Nat.not_lt.mpr haccepts.2), hidle.sequence]

theorem sendPacket_refused (hrefused : accepts caps.maxPayloadSize payload = false)
    (hidle : Idle caps config next manager) :
    Tracks encode valid (Patient encode valid bound) (manager.sendPacket bound payload timeoutMs)
      (StopAndWait.sendPacket format (config.maxRetries + 1) [])
      fun result delivered => delivered = result.1.isOk ∧ Idle caps config next result.2 := by
  have hrun : ∃ status, ∀ script,
      (manager.sendPacket bound payload timeoutMs).run Script.handle script =
        (.done (.error status, manager), script) := by
    by_cases hmtu : manager.caps.maxPayloadSize ≤ dataLinkHeaderSize
    · refine ⟨.invalidArgument "data-link MTU is too small", fun script => ?_⟩
      rw [sendPacket, Script.run_isConnected_bind, if_neg (by decide), if_pos hmtu]
      rfl
    · have hcount : fragmentCount payload (manager.caps.maxPayloadSize - dataLinkHeaderSize) >
          0xffff := by
        simpa [accepts, ← hidle.caps, Nat.not_le.mp hmtu] using hrefused
      refine ⟨.invalidArgument "data-link packet has too many fragments", fun script => ?_⟩
      rw [sendPacket, Script.run_isConnected_bind, if_neg (by decide), if_neg hmtu]
      dsimp only
      rw [← fragmentCount, if_pos hcount]
      rfl
  obtain ⟨status, hrun⟩ := hrun
  exact (Tracks.done ⟨rfl, hidle⟩).of_run_eq hrun

/-! ## Receiving -/

/-- What `receivePacket` returns for the fragments it took. -/
def content (first : DataLinkFrame) (frames : List DataLinkFrame) : Bytes :=
  assemble (List.replicate first.transportSize.toNat 0) frames

theorem copyFragment_fits {first : DataLinkFrame}
    (htransport : frame.transportSize = first.transportSize)
    (hfits : frame.fragmentOffset.toNat + frame.payload.length ≤ payload.length)
    (manager : DataLinkManager) :
    Tracks encode valid (Patient encode valid bound)
      (manager.copyFragment first frame timeoutMs payload) (send (makeAck frame))
      fun result _ => result =
        (.ok (poke payload frame.fragmentOffset.toNat frame.payload),
          manager.countFragmentReceived) := by
  rw [copyFragment, if_neg (not_not.mpr htransport), if_neg (Nat.not_lt.mpr hfits)]
  have hsend : (send (makeAck frame) >>= Proc.done) = send (makeAck frame) := rfl
  rw [← hsend]
  refine (Tracks.write rfl timeoutMs).bind fun _ _ hreply => ?_
  subst hreply
  exact .done rfl

theorem copyFragment_refused {first : DataLinkFrame}
    (hbad : frame.transportSize ≠ first.transportSize ∨
      frame.fragmentOffset.toNat + frame.payload.length > payload.length)
    (timeoutMs : UInt32) (manager : DataLinkManager) :
    ∃ status, manager.copyFragment first frame timeoutMs payload =
      .done (.error status, manager) := by
  unfold copyFragment
  split
  · exact ⟨_, rfl⟩
  · next htransport =>
      rw [if_pos (hbad.resolve_left (not_not.mpr (not_not.mp htransport)))]
      exact ⟨_, rfl⟩

theorem receiveFragments_tracks (hvalid : ∀ frame, valid frame → frame.payload.length < 2 ^ 32)
    (first : DataLinkFrame) (rest index : Nat) {collected : List DataLinkFrame}
    (hpayload : payload = content first collected)
    (hlength : payload.length = first.transportSize.toNat) (hhead : collected.head? = some first)
    (hidle : Idle caps config next manager) :
    Tracks encode valid (Patient encode valid bound)
      (manager.receiveFragments bound first timeoutMs rest index.toUInt16 payload)
      (collect hostFormat first rest index collected)
      fun result value => Delivers content result.1 value ∧ Idle caps config next result.2 := by
  induction rest generalizing index payload collected manager with
  | zero =>
      rw [hpayload]
      exact .done ⟨.packet hhead, hidle.1, hidle.2, hidle.3, hidle.4⟩
  | succ rest ih =>
      rw [receiveFragments, collect]
      refine Tracks.bind (readFrame_tracks hvalid _ bound hidle.buffer) fun result seen hsaw => ?_
      obtain ⟨reply, manager'⟩ := result
      obtain ⟨rfl, hsaw⟩ := hsaw
      cases hsaw with
      | trouble error => exact .done ⟨.failed error, hidle⟩
      | @frame frame hframe =>
          dsimp only [id]
          by_cases hnext : isNext first index frame = true
          · have hfields := isNext_iff.mp hnext
            rw [if_neg (by simp [hfields])]
            by_cases hfits : frame.transportSize = first.transportSize ∧
                frame.fragmentOffset.toNat + frame.payload.length ≤ payload.length
            · have hcontinues : hostFormat.continues first index frame = true := by
                simp [hostFormat, hnext, hfits.1, ← hlength, hfits.2]
              rw [if_pos hcontinues]
              refine Tracks.bind (copyFragment_fits hfits.1 hfits.2 manager')
                fun result _ hresult => ?_
              subst hresult
              have hnextIndex : index.toUInt16 + 1 = (index + 1).toUInt16 := by
                simp [Nat.toUInt16]
              dsimp only
              rw [hnextIndex]
              refine ih (index + 1) (by rw [hpayload, content, content, assemble_snoc]) ?_ ?_
                ⟨hidle.1, hidle.2, hidle.3, hidle.4⟩
              · rw [poke_length hfits.2, hlength]
              · cases collected with
                | nil => cases hhead
                | cons => exact hhead
            · have hbad : frame.transportSize ≠ first.transportSize ∨
                  frame.fragmentOffset.toNat + frame.payload.length > payload.length := by
                rw [gt_iff_lt, ← Nat.not_le]
                tauto
              obtain ⟨status, hcopy⟩ := copyFragment_refused hbad timeoutMs manager'
              have hcontinues : ¬hostFormat.continues first index frame = true := by
                simp only [hostFormat, Bool.and_eq_true, decide_eq_true_eq, ← hlength]
                tauto
              rw [if_neg hcontinues, hcopy]
              have hrefusal : hostFormat.refusal first index frame = [] := if_pos hnext
              rw [hrefusal]
              exact .done ⟨.failed status, hidle⟩
          · have hmismatch : frame.flags &&& flagData = 0 ∨
                frame.linkSequence ≠ first.linkSequence ∨ frame.fragmentIndex ≠ index.toUInt16 := by
              rw [isNext_iff] at hnext
              tauto
            rw [if_pos hmismatch, if_neg (by simp [hostFormat, hnext])]
            have hrefusal : hostFormat.refusal first index frame = [makeNak frame] := if_neg hnext
            rw [hrefusal]
            refine Tracks.bind (Tracks.write rfl timeoutMs) fun _ _ _ => ?_
            exact .done ⟨.failed _, hidle⟩

theorem receivePacket_tracks (hvalid : ∀ frame, valid frame → frame.payload.length < 2 ^ 32)
    (hidle : Idle caps config next manager) :
    Tracks encode valid (Patient encode valid bound) (manager.receivePacket bound timeoutMs)
      (StopAndWait.receivePacket hostFormat)
      fun result value => Delivers content result.1 value ∧ Idle caps config next result.2 := by
  rw [receivePacket, StopAndWait.receivePacket]
  refine Tracks.bind (readFrame_tracks hvalid _ bound hidle.buffer) fun result seen hsaw => ?_
  obtain ⟨reply, manager'⟩ := result
  obtain ⟨rfl, hsaw⟩ := hsaw
  cases hsaw with
  | trouble error => exact .done ⟨.failed error, hidle⟩
  | @frame first hfirst =>
      dsimp only [id]
      by_cases hdata : first.flags &&& flagData = 0
      · have hopens : hostFormat.opens first = none := if_pos (.inl hdata)
        rw [if_pos hdata, hopens]
        exact .done ⟨.failed _, hidle⟩
      rw [if_neg hdata]
      by_cases hoffset : first.fragmentOffset = 0
      swap
      · have hopens : hostFormat.opens first = none := if_pos (.inr (.inl hoffset))
        rw [if_pos hoffset, hopens]
        exact .done ⟨.failed _, hidle⟩
      rw [if_neg (not_not.mpr hoffset)]
      have hzeros : (List.replicate first.transportSize.toNat (0 : UInt8)).length =
          first.transportSize.toNat := List.length_replicate
      by_cases hfits : first.payload.length ≤ first.transportSize.toNat
      · have hopens : hostFormat.opens first = some (first.fragmentCount.toNat - 1) :=
          if_neg (by simp [hdata, hoffset, hfits])
        rw [hopens]
        have hinside : first.fragmentOffset.toNat + first.payload.length ≤
            (List.replicate first.transportSize.toNat (0 : UInt8)).length := by
          rw [hzeros, hoffset]
          simpa using hfits
        refine Tracks.bind (copyFragment_fits rfl hinside manager') fun result _ hresult => ?_
        subst hresult
        have hpayload : poke (List.replicate first.transportSize.toNat 0)
            first.fragmentOffset.toNat first.payload = content first [first] := rfl
        exact receiveFragments_tracks hvalid first _ 1 hpayload
          ((poke_length hinside).trans hzeros) rfl ⟨hidle.1, hidle.2, hidle.3, hidle.4⟩
      · have hopens : hostFormat.opens first = none :=
          if_pos (.inr (.inr (Nat.not_le.mp hfits)))
        have hbad : first.transportSize ≠ first.transportSize ∨
            first.fragmentOffset.toNat + first.payload.length >
              (List.replicate first.transportSize.toNat (0 : UInt8)).length := by
          refine .inr ?_
          rw [hzeros, hoffset]
          simpa using Nat.not_le.mp hfits
        obtain ⟨status, hcopy⟩ := copyFragment_refused hbad timeoutMs manager'
        rw [hopens, hcopy]
        exact .done ⟨.failed status, hidle⟩

end Tracking

end DataLinkManager

end AudioStudio.DataLink
