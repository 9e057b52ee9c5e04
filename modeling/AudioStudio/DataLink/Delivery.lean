import AudioStudio.DataLink.Side

/-!
# Delivery over a lossy link

A sender's session and a receiver's session on a link that may lose and delay
frames.  A fragment that is a whole packet looks new each time it arrives, so the
packet is returned once for each arrival of it.
-/

namespace AudioStudio.DataLink

open AudioStudio.Common
open LittleEndian
open StopAndWait
open Wire
open DataLinkFrameCodec

/-! ## What is on the wire -/

/-- A frame that carries a whole packet. -/
def Sole (bytes : Bytes) : Prop :=
  ∃ frame : DataLinkFrame, frame.fragmentCount = 1 ∧ bytes = encode frame

/-- A sublist of encodings is the encodings of a sublist. -/
theorem sublist_of_encode {frames sent : List DataLinkFrame}
    (hsublist : (frames.map encode).Sublist (sent.map encode)) : frames.Sublist sent := by
  obtain ⟨kept, hkept, heq⟩ := List.sublist_map_iff.mp hsublist
  exact encode_injective.list_map heq ▸ hkept

variable {calls : List SendCall}

theorem bounded_packets (side : Side) {mtu : Nat} (hmtu : dataLinkHeaderSize < mtu)
    (hsize : ∀ call ∈ calls, call.payload.length < 2 ^ 32) (hcount : calls.length ≤ 2 ^ 32) :
    Bounded (side.accepts mtu) (mtu - dataLinkHeaderSize) (calls.map (·.payload)) where
  capacity_pos := Nat.sub_pos_of_lt hmtu
  count payload haccepts := by
    cases side with
    | firmware =>
        simp only [Side.accepts, acAccepts, Bool.and_eq_true, decide_eq_true_eq] at haccepts
        exact haccepts.2
    | host =>
        simp only [Side.accepts, DataLinkManager.accepts, Bool.and_eq_true,
          decide_eq_true_eq] at haccepts
        exact haccepts.2
  size payload hmem := by
    obtain ⟨call, hcall, rfl⟩ := List.mem_map.mp hmem
    exact hsize call hcall
  packets := by rwa [List.length_map]

variable {frame : DataLinkFrame}

/-- A packet's fragments can be taken in by either side, but for their length. -/
theorem takes_fragment {payload : Bytes} {linkSequence : UInt32} {capacity : Nat}
    (hcapacity : 0 < capacity) (hsize : payload.length < 2 ^ 32)
    (hmem : frame ∈ fragments payload linkSequence capacity) {side : Side}
    (hfits : side = .firmware → acFits frame) : side.Takes frame := by
  obtain ⟨index, hindex, rfl⟩ := mem_fragments hmem
  have hend := fragment_end_le (fragmentCount payload capacity)
    (offset_le hcapacity hindex) hsize linkSequence
  exact ⟨by omega, fun hfirmware =>
    ⟨hfits hfirmware, fragment_data _ _ _ _ _, by omega⟩⟩

variable {accepts : Bytes → Bool} {payloads : List Bytes}

theorem takes_of_mem {capacity : Nat} {next : UInt32} (hbounded : Bounded accepts capacity payloads)
    (hmem : frame ∈ (sessionFrames accepts capacity next payloads).flatten) {side : Side}
    (hfits : side = .firmware → acFits frame) : side.Takes frame := by
  obtain ⟨frames, hframes, hframe⟩ := List.mem_flatten.mp hmem
  obtain ⟨payload, hpayload, k, _, haccepts, rfl⟩ :=
    mem_sessionFrames hframes (List.ne_nil_of_mem hframe)
  exact takes_fragment hbounded.capacity_pos (hbounded.size payload hpayload) hframe hfits

/-- A packet of one frame says so in that frame. -/
theorem sole_of_mem {capacity : Nat} {next : UInt32}
    (hmem : [frame] ∈ sessionFrames accepts capacity next payloads) : Sole (encode frame) := by
  obtain ⟨payload, _, k, _, _, hframes⟩ := mem_sessionFrames hmem (List.cons_ne_nil _ _)
  have hcount := congrArg List.length hframes
  rw [fragments_length, List.length_singleton] at hcount
  have hhead : frame = _ := fragments_head (by rw [← hframes]; rfl)
  refine ⟨frame, ?_, rfl⟩
  rw [hhead, fragment, ← hcount]
  rfl

/-! ## Sessions on the link -/

section Sessions

variable {side : Side} {bound mtu attempts capacity : Nat} {next : UInt32}
  {endpoint : side.Endpoint}

/-- What the sender's session amounts to, and the frames it wrote. -/
theorem sender_runs {format : Format DataLinkFrame} (hformat : format.answers = answersFragment)
    (hready : side.Ready mtu attempts next endpoint) {history : List (LinkEvent side.Error)}
    (hreadable : Readable encode Side.IsReply history) :
    ∃ obs rest sent, Observed encode history obs rest ∧
      RunsAll ((side.packets mtu next calls).map (sendPacket format attempts)) obs sent
        ((side.sendResults bound endpoint calls history).map Except.isOk) ∧
      (side.sender bound endpoint calls).sends history = sent.map encode := by
  obtain ⟨obs, rest, sent, successes, hobs, hruns, hresults, hwritten⟩ :=
    Side.sendPackets_track hformat calls hready { reads := history } hreadable
  have hsuccesses := List.forall₂_map_left_iff.mpr (hresults.imp fun _ _ heq => heq.symm)
  rw [List.forall₂_eq_eq_eq] at hsuccesses
  exact ⟨obs, rest, sent, hobs, hsuccesses ▸ hruns, hwritten⟩

theorem receiver_runs (hbound : 0 < bound) (hmtu : dataLinkHeaderSize < mtu)
    {calls : List ReceiveCall} (hbuffers : ∀ call ∈ calls, call.buffer.length = capacity)
    (hready : side.Ready mtu attempts next endpoint)
    {history : List (LinkEvent side.Error)} (hreadable : Readable encode side.Takes history) :
    ∃ obs rest sent received, Observed encode history obs rest ∧
      RunsAll (List.replicate calls.length (receivePacket (side.format capacity))) obs sent
        received ∧
      List.Forall₂ (fun result value => ∃ buffer, Delivers (side.content buffer) result value)
        (side.receiveResults bound endpoint calls history) received ∧
      (side.receiver bound endpoint calls).sends history = sent.map encode :=
  Side.receivePackets_track hbound hmtu calls hbuffers hready { reads := history } hreadable

/-- A sender only ever sends fragments of its packets. -/
theorem sender_sends (hready : side.Ready mtu attempts next endpoint)
    {history : List (LinkEvent side.Error)} (hreadable : Readable encode Side.IsReply history) :
    ∀ bytes ∈ (side.sender bound endpoint calls).sends history,
      ∃ frame ∈ (side.packets mtu next calls).flatten, bytes = encode frame := by
  obtain ⟨obs, rest, sent, _, hruns, hsends⟩ :=
    sender_runs (show hostFormat.answers = answersFragment from rfl) hready hreadable
  intro bytes hmem
  rw [hsends] at hmem
  obtain ⟨frame, hframe, rfl⟩ := List.mem_map.mp hmem
  obtain ⟨other, hother, hmem⟩ := List.mem_flatMap.mp ((sendPackets_runs hruns).1.subset hframe)
  exact ⟨frame, List.eq_of_mem_replicate hmem ▸ hother, rfl⟩

/-- A receiver only ever sends acknowledgements. -/
theorem receiver_sends (hbound : 0 < bound) (hmtu : dataLinkHeaderSize < mtu)
    {calls : List ReceiveCall} (hbuffers : ∀ call ∈ calls, call.buffer.length = capacity)
    (hready : side.Ready mtu attempts next endpoint)
    {history : List (LinkEvent side.Error)} (hreadable : Readable encode side.Takes history) :
    ∀ bytes ∈ (side.receiver bound endpoint calls).sends history,
      ∃ reply, Side.IsReply reply ∧ bytes = encode reply := by
  obtain ⟨obs, rest, sent, received, _, hruns, _, hsends⟩ :=
    receiver_runs hbound hmtu hbuffers hready hreadable
  have hformat := side.format_link capacity
  intro bytes hmem
  rw [hsends] at hmem
  obtain ⟨reply, hreply, rfl⟩ := List.mem_map.mp hmem
  rcases (receivePackets_runs hruns).2.2 reply hreply with
    ⟨first, index, frame, hrefusal⟩ | ⟨_, _, _, frame, hack, _⟩
  · exact ⟨reply, ⟨frame, .inr (hformat.refusal first index frame reply hrefusal)⟩, rfl⟩
  · exact ⟨reply, ⟨frame, .inl (by rw [hack, hformat.ack])⟩, rfl⟩

end Sessions

/-! ## Exactly-once delivery -/

/-- The packets of a receiver's calls, seen as the fragments they were made of. -/
theorem returned_fragments {side : Side} {results : List (Except side.Error Bytes)}
    {received : List (Option (List DataLinkFrame))}
    (hresults : List.Forall₂
      (fun result value => ∃ buffer, Delivers (side.content buffer) result value)
      results received) :
    List.Forall₂ (fun payload frames => ∃ buffer first, frames.head? = some first ∧
        payload = side.content buffer first frames)
      (results.filterMap Except.toOption) received.reduceOption := by
  induction hresults with
  | nil => exact .nil
  | cons hresult _ ih =>
      obtain ⟨buffer, hdelivers⟩ := hresult
      cases hdelivers with
      | packet hhead => exact .cons ⟨buffer, _, hhead, rfl⟩ ih
      | failed error => exact ih

theorem returned_payloads {side : Side} {capacity : Nat}
    {next : UInt32} (hbounded : Bounded accepts capacity payloads)
    {delivered : List Bytes} {received : List (List DataLinkFrame)}
    (hdelivered : List.Forall₂ (fun payload frames => ∃ buffer first, frames.head? = some first ∧
      payload = side.content buffer first frames) delivered received) {ks : List Nat}
    (hks : ks.map ((sessionFrames accepts capacity next payloads)[·]?) = received.map some) :
    ks.map (payloads[·]?) = delivered.map some := by
  induction hdelivered generalizing ks with
  | nil =>
      rw [List.map_nil, List.map_eq_nil_iff] at hks
      rw [hks]
      rfl
  | cons hpayload _ ih =>
      obtain ⟨buffer, first, hhead, rfl⟩ := hpayload
      cases ks with
      | nil => cases hks
      | cons k ks =>
          obtain ⟨hframes, hrest⟩ := List.cons.inj hks
          obtain ⟨payload, linkSequence, hget, rfl⟩ :=
            getElem?_sessionFrames hframes (fun hnil => by rw [hnil] at hhead; cases hhead)
          have hsize := hbounded.size payload (List.mem_of_getElem? hget)
          rw [List.map_cons, List.map_cons, hget, ih hrest,
            side.content_eq buffer hbounded.capacity_pos hsize hhead]

/-- Every frame that reaches the receiver fits its buffers, and no frame that carries
a whole packet reaches it twice. -/
def Unrepeated (receiver : Side) {UL UR : Type} (state : Link.State Bytes UL UR)
    (action : Link.Action UL UR) : Prop :=
  action = .deliverRight → ∀ bytes ∈ state.toRight.head?,
    (receiver = .firmware → bytes.length ≤ acDatalinkMaxFrameSize) ∧
      (Sole bytes → bytes ∉ Arrival.messages state.rightHistory)

section Exchange

variable {sender receiver : Side} {bound mtu mtu' attempts attempts' capacity : Nat}
  {next next' : UInt32} {left : sender.Endpoint} {right : receiver.Endpoint}
  {sends : List SendCall} {receives : List ReceiveCall}
  {state : Link.State Bytes (Upset sender.Error) (Upset receiver.Error)}

theorem pairwise_unrepeated
    (hreach : Link.Reach (sender.sender bound left sends) (receiver.receiver bound right receives)
      (Unrepeated receiver) state) :
    (Arrival.messages state.rightHistory).Pairwise fun bytes later =>
      Sole bytes → bytes ≠ later := by
  refine hreach.rightMessages (List.Pairwise fun bytes later => Sole bytes → bytes ≠ later) .nil ?_
  intro state bytes rest hqueue hallowed hpairwise
  rw [List.pairwise_append]
  refine ⟨hpairwise, List.pairwise_singleton _ _, ?_⟩
  intro earlier hmem other hother hsole heq
  rw [List.mem_singleton.mp hother] at heq
  subst heq
  exact (hallowed rfl earlier (by rw [hqueue]; rfl)).2 hsole hmem

/-- On every run both sides read nothing but frames they can make sense of. -/
theorem readable_of_reach (hbound : 0 < bound) (hmtu : dataLinkHeaderSize < mtu)
    (hmtu' : dataLinkHeaderSize < mtu') (hleft : sender.Ready mtu attempts next left)
    (hright : receiver.Ready mtu' attempts' next' right)
    (hsize : ∀ call ∈ sends, call.payload.length < 2 ^ 32) (hcount : sends.length ≤ 2 ^ 32)
    (hbuffers : ∀ call ∈ receives, call.buffer.length = capacity)
    (hreach : Link.Reach (sender.sender bound left sends) (receiver.receiver bound right receives)
      (Unrepeated receiver) state) :
    Readable encode receiver.Takes state.rightHistory ∧
      Readable encode Side.IsReply state.leftHistory := by
  have hbounded := bounded_packets sender hmtu hsize hcount
  obtain ⟨hrights, hlefts⟩ := hreach.assured
    (fun bytes => ∃ frame ∈ (sender.packets mtu next sends).flatten, bytes = encode frame)
    (fun bytes => ∃ frame, receiver.Takes frame ∧ bytes = encode frame)
    (fun bytes => ∃ reply, Side.IsReply reply ∧ bytes = encode reply)
    (fun history hhistory => sender_sends hleft fun bytes hmem =>
      hhistory bytes (Arrival.mem_messages.mpr hmem))
    (fun history hhistory => receiver_sends hbound hmtu' hbuffers hright fun bytes hmem =>
      hhistory bytes (Arrival.mem_messages.mpr hmem))
    (fun state bytes rest hqueue hallowed hsent => by
      obtain ⟨frame, hmem, rfl⟩ := hsent
      exact ⟨frame, takes_of_mem hbounded hmem (hallowed rfl _ (by rw [hqueue]; rfl)).1, rfl⟩)
  exact ⟨fun bytes hmem => hrights bytes (Arrival.mem_messages.mpr hmem),
    fun bytes hmem => hlefts bytes (Arrival.mem_messages.mpr hmem)⟩

/-- The packets a receiver returns are, in order, packets of different send calls, and
those of all calls that returned success are among them. -/
theorem delivered_exactly_once (hbound : 0 < bound) (hmtu : dataLinkHeaderSize < mtu)
    (hmtu' : dataLinkHeaderSize < mtu') (hleft : sender.Ready mtu attempts next left)
    (hright : receiver.Ready mtu' attempts' next' right)
    (hsize : ∀ call ∈ sends, call.payload.length < 2 ^ 32) (hcount : sends.length ≤ 2 ^ 32)
    (hbuffers : ∀ call ∈ receives, call.buffer.length = capacity)
    (hreach : Link.Reach (sender.sender bound left sends) (receiver.receiver bound right receives)
      (Unrepeated receiver) state) :
    ∃ ks : List Nat, ks.Pairwise (· < ·) ∧
      ks.map (fun k => sends[k]?.map SendCall.payload) =
        (receiver.returned bound right receives state.rightHistory).map some ∧
      ∀ k, (sender.sendResults bound left sends state.leftHistory)[k]? = some (.ok ()) →
        k ∈ ks := by
  have hbounded := bounded_packets sender hmtu hsize hcount
  have hformat := receiver.format_link capacity
  have hdist : Distinguishes (receiver.format capacity) (sender.packets mtu next sends) :=
    distinguishes hformat hbounded
  obtain ⟨hrights, hlefts⟩ :=
    readable_of_reach hbound hmtu hmtu' hleft hright hsize hcount hbuffers hreach
  obtain ⟨obsLeft, restLeft, sentLeft, hobsLeft, hrunsLeft, hsendsLeft⟩ :=
    sender_runs hformat.answers hleft hlefts
  obtain ⟨obsRight, restRight, sentRight, received, hobsRight, hrunsRight, hresults, hsendsRight⟩ :=
    receiver_runs hbound hmtu' hbuffers hright hrights
  have hfaithful := hreach.faithful
  have hrightward : obsRight.reduceOption.Sublist sentLeft := by
    refine sublist_of_encode ?_
    rw [← hsendsLeft]
    refine (List.sublist_append_of_sublist_left ?_).trans hfaithful.rightward
    rw [hobsRight.messages]
    exact List.sublist_append_left _ _
  have hleftward : obsLeft.reduceOption.Sublist sentRight := by
    refine sublist_of_encode ?_
    rw [← hsendsRight]
    refine (List.sublist_append_of_sublist_left ?_).trans hfaithful.leftward
    rw [hobsLeft.messages]
    exact List.sublist_append_left _ _
  have hsole := pairwise_unrepeated hreach
  rw [hobsRight.messages, List.pairwise_append, List.pairwise_map] at hsole
  obtain ⟨ks, hincreasing, hks, hsuccess⟩ := exactly_once hdist hrunsLeft hrunsRight hrightward
    hleftward (hsole.1.imp fun hdiffer hmem heq => hdiffer (sole_of_mem hmem) (by rw [heq]))
  refine ⟨ks, hincreasing, ?_, fun k hok => hsuccess k ?_⟩
  · have hpayloads := returned_payloads hbounded (returned_fragments hresults) hks
    simpa only [List.getElem?_map, Side.returned] using hpayloads
  · rw [List.getElem?_map, hok]
    rfl

end Exchange

/-! ### A packet of one byte -/

def oneCall : List SendCall := [{ payload := [7], timeoutMs := 100 }]

def twoCalls : List ReceiveCall := List.replicate 2 { buffer := [], timeoutMs := 100 }

def smallHost : DataLinkManager := { caps := { maxPayloadSize := 64 } }

def oneSender : Party (LinkEvent AcError) Bytes :=
  Side.firmware.sender 8 (acDatalinkInit 64) oneCall

def twoReceiver : Party (LinkEvent Status) Bytes :=
  Side.host.receiver 8 smallHost twoCalls

/-- A single send whose packet arrives and is acknowledged. -/
theorem delivered_exactly_once_single :
    ∃ state, Link.step oneSender twoReceiver (Link.start oneSender twoReceiver) .deliverRight =
        some state ∧
      ∃ ks : List Nat, ks.Pairwise (· < ·) ∧
        ks.map (fun k => oneCall[k]?.map SendCall.payload) =
          (Side.host.returned 8 smallHost twoCalls state.rightHistory).map some ∧
        ∀ k, (Side.firmware.sendResults 8 (acDatalinkInit 64) oneCall
          state.leftHistory)[k]? = some (.ok ()) → k ∈ ks := by
  have hsent : (Link.step oneSender twoReceiver (Link.start oneSender twoReceiver)
      .deliverRight).isSome := by
    decide +kernel
  obtain ⟨state, hstep⟩ := Option.isSome_iff_exists.mp hsent
  refine ⟨state, hstep, ?_⟩
  exact delivered_exactly_once (by decide) (by decide) (by decide)
    (Side.ready_acDatalinkInit (by decide) (by decide))
    (Side.ready_dataLinkManager { maxPayloadSize := 64 } {})
    (fun call hmem => by rw [List.mem_singleton.mp hmem]; decide) (by decide)
    (fun call hmem => by rw [List.eq_of_mem_replicate hmem])
    (Link.Reach.start.step (fun _ bytes _ => ⟨nofun, fun _ => List.not_mem_nil⟩) hstep)

/-- The acknowledgement is late, the packet is sent again and returned again. -/
theorem retransmission_delivers_twice :
    ∃ state, Link.Reach oneSender twoReceiver (fun _ _ => True) state ∧
      (Side.firmware.sendResults 8 (acDatalinkInit 64) oneCall state.leftHistory).map
        Except.isOk = [true] ∧
      Side.host.returned 8 smallHost twoCalls state.rightHistory = [[7], [7]] := by
  have hplay : ((Link.play oneSender twoReceiver
      [.deliverRight, .upsetLeft .silence, .deliverRight, .deliverLeft]
      (Link.start oneSender twoReceiver)).map fun state =>
        ((Side.firmware.sendResults 8 (acDatalinkInit 64) oneCall state.leftHistory).map Except.isOk,
          Side.host.returned 8 smallHost twoCalls state.rightHistory)) =
      some ([true], [[7], [7]]) := by
    decide +kernel
  obtain ⟨state, hstate, hresults⟩ := Option.map_eq_some_iff.mp hplay
  obtain ⟨hsends, hreturned⟩ := Prod.mk.inj hresults
  exact ⟨state, Link.Reach.start.play hstate, hsends, hreturned⟩

end AudioStudio.DataLink
