import AudioStudio.Core.Lockstep
import AudioStudio.DataLink.Delivery

/-!
# Round trip of one packet

On a link that loses nothing the exchange of one packet ends, for either
implementation at either end, with the packet delivered and every fragment
acknowledged once.
-/

namespace AudioStudio.DataLink

open LittleEndian
open StopAndWait
open Wire
open DataLinkFrameCodec

/-! ## Reads without upsets -/

theorem Observed.arrivals {ε M : Type} {wire : M → Bytes} (hwire : Function.Injective wire)
    {msgs : List M} {obs : List (Option M)} {rest : List (LinkEvent ε)}
    (hobs : Observed wire (Link.arrivals (msgs.map wire)) obs rest) :
    ∃ later : List M, msgs.map some = obs ++ later.map some ∧
      rest = Link.arrivals (later.map wire) := by
  generalize hevents : (Link.arrivals (msgs.map wire) : List (LinkEvent ε)) = events at hobs
  induction hobs generalizing msgs with
  | stop rest => exact ⟨msgs, rfl, hevents.symm⟩
  | @frame frame events rest obs _ ih =>
      cases msgs with
      | nil => cases hevents
      | cons msg msgs =>
          obtain ⟨hmsg, htail⟩ := List.cons.inj hevents
          obtain rfl := hwire (Arrival.message.inj hmsg)
          obtain ⟨later, hseen, hrest⟩ := ih htail
          exact ⟨later, by rw [List.map_cons, hseen]; rfl, hrest⟩
  | trouble _ _ => cases msgs <;> cases hevents
  | passed _ _ => cases msgs <;> cases hevents

/-- How a call on a link object ends that reads only these frames. -/
structure Single {ε M S α γ : Type} (wire : M → Bytes) (call : S → LinkProc ε (α × S))
    (object : S) (model : FrameProc M γ) (rel : α → γ → Prop) (msgs : List M)
    (obs : List (Option M)) (sent : List M) (outcome : Outcome γ) : Prop where
  runs : Runs model obs sent outcome
  observed : obs <+: msgs.map some
  sends : (linkParty [call] object).sends (Link.arrivals (msgs.map wire)) = sent.map wire
  ended : (∃ value result, outcome = .done value ∧ rel result value ∧
      results [call] object (Link.arrivals (msgs.map wire)) = [result]) ∨
    outcome = .waiting ∧ obs = msgs.map some ∧
      results [call] object (Link.arrivals (msgs.map wire)) = []

theorem Tracks.single {ε M S α γ : Type} {wire : M → Bytes} (hwire : Function.Injective wire)
    {valid : M → Prop} {patient : Prop} {call : S → LinkProc ε (α × S)} {object : S}
    {model : FrameProc M γ} {rel : α × S → γ → Prop}
    (htracks : Tracks wire valid patient (call object) model rel) (hpatient : patient)
    (msgs : List M) (hmsgs : ∀ msg ∈ msgs, valid msg) :
    ∃ obs sent outcome, Single wire call object model
      (fun result value => ∃ object, rel (result, object) value) msgs obs sent outcome := by
  have hcalm : ∀ upset : Upset ε, .upset upset ∉ Link.arrivals (msgs.map wire) := by
    simp [Link.arrivals]
  have hrun := htracks { reads := Link.arrivals (msgs.map wire) } (by
    intro bytes hmem
    simp only [Link.arrivals, List.mem_map, Arrival.message.injEq, exists_eq_right] at hmem
    obtain ⟨msg, hmsg, rfl⟩ := hmem
    exact ⟨msg, hmsgs msg hmsg, rfl⟩)
  have hdone : ∀ result object' script, (call object).run Script.handle
      { reads := Link.arrivals (msgs.map wire) } = (.done (result, object'), script) →
      runScript [call] object (Link.arrivals (msgs.map wire)) = ([result], script) := by
    intro result object' script hrun
    rw [runScript, runCalls, hrun]
    rfl
  have hwaiting : ∀ script, (call object).run Script.handle
      { reads := Link.arrivals (msgs.map wire) } = (.waiting, script) →
      runScript [call] object (Link.arrivals (msgs.map wire)) = ([], script) := by
    intro script hrun
    rw [runScript, runCalls, hrun]
  generalize (call object).run Script.handle _ = result at hrun hdone hwaiting
  cases hrun with
  | @done obs rest sent concrete value script' hobs hruns hrel hscript =>
      have hresult := hdone _ _ _ rfl
      obtain ⟨later, hseen, _⟩ := hobs.arrivals hwire
      refine ⟨obs, sent, .done value, hruns, ⟨_, hseen.symm⟩, ?_,
        .inl ⟨value, concrete.1, rfl, ⟨concrete.2, hrel⟩, ?_⟩⟩
      · simp only [linkParty, hresult, hscript, List.nil_append]
      · simp only [results, hresult]
  | @waiting obs sent script' hobs hruns hscript =>
      have hresult := hwaiting _ rfl
      obtain ⟨later, hseen, hrest⟩ := hobs.arrivals hwire
      obtain rfl : later = [] := by
        cases later with
        | nil => rfl
        | cons msg later => cases hrest
      rw [List.map_nil, List.append_nil] at hseen
      refine ⟨obs, sent, .waiting, hruns, ⟨[], by simp [hseen]⟩, ?_, .inr ⟨rfl, hseen.symm, ?_⟩⟩
      · simp only [linkParty, hresult, hscript, List.nil_append]
      · simp only [results, hresult]
  | spent _ _ _ hspent =>
      obtain ⟨upset, hmem⟩ := hspent hpatient
      exact absurd hmem (hcalm upset)

/-! ## The fragments of one packet -/

section Packet

variable {side : Side} {payload : Bytes} {mtu : Nat} {next : UInt32}

theorem fragmentCount_le (hpayload : payload.length ≤ acDatalinkMaxPacketSize)
    (hmtu : dataLinkHeaderSize < mtu) :
    fragmentCount payload (mtu - dataLinkHeaderSize) ≤ acDatalinkMaxPacketSize := by
  have hcapacity : 0 < mtu - dataLinkHeaderSize := Nat.sub_pos_of_lt hmtu
  have hdiv : (payload.length + (mtu - dataLinkHeaderSize) - 1) / (mtu - dataLinkHeaderSize) <
      payload.length + 1 := by
    rw [Nat.div_lt_iff_lt_mul hcapacity, Nat.succ_mul]
    have hmul := Nat.le_mul_of_pos_right payload.length hcapacity
    omega
  have hmax : acDatalinkMaxPacketSize = 4096 := rfl
  rw [fragmentCount]
  omega

theorem accepts_of_le (side : Side) (hpayload : payload.length ≤ acDatalinkMaxPacketSize)
    (hmtu : dataLinkHeaderSize < mtu) : side.accepts mtu payload = true := by
  have hcount := fragmentCount_le hpayload hmtu
  have hmax : acDatalinkMaxPacketSize = 4096 := rfl
  cases side with
  | firmware =>
      simp only [Side.accepts, acAccepts, Bool.and_eq_true, decide_eq_true_eq]
      exact ⟨⟨hpayload, hmtu⟩, by omega⟩
  | host =>
      simp only [Side.accepts, DataLinkManager.accepts, Bool.and_eq_true, decide_eq_true_eq]
      exact ⟨hmtu, by omega⟩

theorem fragment_fits (hmtu : dataLinkHeaderSize < mtu) (hsmall : mtu ≤ acDatalinkMaxFrameSize)
    {frame : DataLinkFrame} (hmem : frame ∈ fragments payload next (mtu - dataLinkHeaderSize)) :
    acFits frame := by
  obtain ⟨index, _, rfl⟩ := mem_fragments hmem
  rw [acFits, encode_length, fragment, List.length_take]
  omega

theorem fragments_inOrder (side : Side) (next : UInt32) {capacity : Nat} (hcapacity : 0 < capacity)
    (hpayload : payload.length ≤ acDatalinkMaxPacketSize)
    (hcount : fragmentCount payload capacity ≤ 0xffff) :
    InOrder (side.format acDatalinkMaxPacketSize)
      (fragment payload next capacity (fragmentCount payload capacity) 0)
      (fragments payload next capacity) := by
  have hmax : acDatalinkMaxPacketSize = 4096 := rfl
  have hsize : payload.length < 2 ^ 32 := by omega
  have hpos : 0 < fragmentCount payload capacity := by
    rw [fragmentCount]
    omega
  have hends : ∀ index, index < fragmentCount payload capacity →
      (fragment payload next capacity (fragmentCount payload capacity)
        index).fragmentOffset.toNat + (fragment payload next capacity
          (fragmentCount payload capacity) index).payload.length ≤ payload.length :=
    fun index hindex => fragment_end_le _ (offset_le hcapacity hindex) hsize next
  have hcounts := fragmentCount_toNat hcount next 0
  have htransport : ∀ index, (fragment payload next capacity (fragmentCount payload capacity)
      index).transportSize.toNat = payload.length :=
    fun index => UInt32.toNat_ofNat_of_lt' hsize
  constructor
  · rw [List.head?_eq_getElem?, getElem?_fragments hpos]
  · have hend := hends 0 hpos
    have hzero : (fragment payload next capacity (fragmentCount payload capacity)
        0).fragmentOffset = 0 := by
      simp [fragment]
    have hnonzero : (fragment payload next capacity (fragmentCount payload capacity)
        0).fragmentCount ≠ 0 := by
      intro hzero
      rw [hzero] at hcounts
      exact absurd hcounts hpos.ne
    have hdata := fragment_data payload next capacity (fragmentCount payload capacity) 0
    rw [fragments_length]
    cases side with
    | firmware =>
        simp only [Side.format, acFormat, htransport, hcounts]
        rw [if_neg]
        rintro (h | h | h | h | h | h)
        · exact hdata h
        · exact h hzero
        · exact hnonzero h
        · omega
        · omega
        · omega
    | host =>
        simp only [Side.format, hostFormat, htransport, hcounts]
        rw [if_neg]
        rintro (h | h | h)
        · exact hdata h
        · exact h hzero
        · omega
  · intro index frame _ hget
    have hindex : index < fragmentCount payload capacity := by
      rw [← fragments_length payload next]
      exact (List.getElem?_eq_some_iff.mp hget).1
    rw [getElem?_fragments hindex, Option.some.injEq] at hget
    subst hget
    have hend := hends index hindex
    cases side with
    | firmware =>
        simp only [Side.format, acFormat, fragment_isNext, Bool.true_and, Bool.and_eq_true,
          decide_eq_true_eq]
        exact ⟨rfl, by omega⟩
    | host =>
        simp only [Side.format, hostFormat, fragment_isNext, Bool.true_and, Bool.and_eq_true,
          decide_eq_true_eq, htransport]
        exact ⟨rfl, hend⟩

end Packet

/-! ## The exchange -/

section Exchange

variable {sender receiver : Side} {payload buffer : Bytes}
  {bound mtu mtu' attempts attempts' : Nat} {next next' timeoutMs timeoutMs' : UInt32}
  {left : sender.Endpoint} {right : receiver.Endpoint}

/-- What the sender puts on the link. -/
def requests (payload : Bytes) (next : UInt32) (mtu : Nat) : List Bytes :=
  (fragments payload next (mtu - dataLinkHeaderSize)).map encode

def acks (payload : Bytes) (next : UInt32) (mtu : Nat) : List DataLinkFrame :=
  (fragments payload next (mtu - dataLinkHeaderSize)).map makeAck

/-- What the receiver answers. -/
def replies (payload : Bytes) (next : UInt32) (mtu : Nat) : List Bytes :=
  (acks payload next mtu).map encode

theorem ready_attempts {side : Side} {endpoint : side.Endpoint}
    (hready : side.Ready mtu attempts next endpoint) : ∃ retries, attempts = retries + 1 := by
  cases side with
  | firmware => exact ⟨_, hready.2⟩
  | host =>
      obtain ⟨_, config, _, _, rfl⟩ := hready
      exact ⟨config.maxRetries, rfl⟩

/-- The sender after the first `count` acknowledgements. -/
theorem sender_acked (hpayload : payload.length ≤ acDatalinkMaxPacketSize)
    (hmtu : dataLinkHeaderSize < mtu) (hbound : dataLinkHeaderSize < bound)
    (hleft : sender.Ready mtu attempts next left) (timeoutMs : UInt32) (count : Nat) :
    (sender.sender bound left [⟨payload, timeoutMs⟩]).sends
        (Link.arrivals ((replies payload next mtu).take count)) =
      (requests payload next mtu).take (count + 1) ∧
    ((requests payload next mtu).length ≤ count →
      sender.sendResults bound left [⟨payload, timeoutMs⟩]
        (Link.arrivals ((replies payload next mtu).take count)) = [.ok ()]) := by
  obtain ⟨retries, rfl⟩ := ready_attempts hleft
  have htracks : Tracks _ _ (Patient encode Side.IsReply bound) _ _ _ :=
    Side.sendPacket_tracks (rfl : hostFormat.answers = answersFragment) ⟨payload, timeoutMs⟩ hleft
  rw [if_pos (accepts_of_le sender hpayload hmtu)] at htracks
  have hpatient : Patient encode Side.IsReply bound := by
    refine ⟨by omega, fun reply hreply => ?_⟩
    rw [encode_length, hreply.payload]
    exact hbound
  obtain ⟨obs, sent, outcome, hsingle⟩ := htracks.single encode_injective hpatient
    ((acks payload next mtu).take count) (fun reply hmem => by
      obtain ⟨frame, _, rfl⟩ := List.mem_map.mp (List.mem_of_mem_take hmem)
      exact ⟨frame, .inl rfl⟩)
  have hacks : obs <+: (acks payload next mtu).map some :=
    hsingle.observed.trans ((List.take_prefix count _).map some)
  rw [requests, replies, ← List.map_take, ← List.map_take, List.length_map]
  have hsends : (sender.sender bound left [⟨payload, timeoutMs⟩]).sends
      (Link.arrivals (((acks payload next mtu).take count).map encode)) = sent.map encode :=
    hsingle.sends
  rcases sendPacket_acked (fragments_ne_nil _ _ _) (fun frame _ => answers_makeAck frame)
    hsingle.runs hacks with ⟨rfl, hlength, rfl⟩ | ⟨rfl, hlength, rfl⟩
  · have hle := hsingle.observed.length_le
    rw [List.length_map, List.length_take, hlength] at hle
    rw [hsends, List.take_of_length_le (Nat.le_succ_of_le (hle.trans (Nat.min_le_left _ _)))]
    refine ⟨rfl, fun _ => ?_⟩
    rcases hsingle.ended with ⟨value, result, hvalue, ⟨_, hok, _⟩, hresults⟩ | ⟨hwaiting, _⟩
    · cases hvalue
      cases result with
      | error error => cases hok
      | ok done => exact hresults
    · cases hwaiting
  · rcases hsingle.ended with ⟨value, result, hvalue, _⟩ | ⟨_, hobs, _⟩
    · cases hvalue
    · have hcount : obs.length = count := by
        rw [hobs, List.length_map, List.length_take, acks, List.length_map] at hlength ⊢
        simp only [] at hlength
        omega
      rw [hsends, hcount]
      exact ⟨rfl, fun hall => by simp only [] at hlength; omega⟩

/-- The receiver after the first `count` fragments. -/
theorem receiver_inOrder (hpayload : payload.length ≤ acDatalinkMaxPacketSize)
    (hmtu : dataLinkHeaderSize < mtu) (hsmall : mtu ≤ acDatalinkMaxFrameSize)
    (hmtu' : dataLinkHeaderSize < mtu') (hbound : acDatalinkMaxFrameSize < bound)
    (hbuffer : buffer.length = acDatalinkMaxPacketSize)
    (hright : receiver.Ready mtu' attempts' next' right) (next timeoutMs' : UInt32) (count : Nat) :
    (receiver.receiver bound right [⟨buffer, timeoutMs'⟩]).sends
        (Link.arrivals ((requests payload next mtu).take count)) =
      (replies payload next mtu).take count ∧
    ((requests payload next mtu).length ≤ count →
      receiver.receiveResults bound right [⟨buffer, timeoutMs'⟩]
        (Link.arrivals ((requests payload next mtu).take count)) = [.ok payload]) := by
  have hcapacity : 0 < mtu - dataLinkHeaderSize := Nat.sub_pos_of_lt hmtu
  have hcount : fragmentCount payload (mtu - dataLinkHeaderSize) ≤ 0xffff :=
    (fragmentCount_le hpayload hmtu).trans (by decide)
  have hsize : payload.length < 2 ^ 32 := Nat.lt_of_le_of_lt hpayload (by decide)
  have hpatient : Patient encode (fun frame => receiver.Takes frame ∧ acFits frame) bound :=
    ⟨by omega, fun frame hframe => Nat.lt_of_le_of_lt hframe.2 hbound⟩
  have hvalid : ∀ frame, receiver.Takes frame ∧ acFits frame → receiver.Takes frame :=
    fun frame hframe => hframe.1
  have htracks := Side.receivePacket_tracks hvalid (by omega : 0 < bound) hmtu'
    ⟨buffer, timeoutMs'⟩ hright
  rw [show (⟨buffer, timeoutMs'⟩ : ReceiveCall).buffer.length = acDatalinkMaxPacketSize
    from hbuffer] at htracks
  obtain ⟨obs, sent, outcome, hsingle⟩ := htracks.single encode_injective hpatient
    ((fragments payload next (mtu - dataLinkHeaderSize)).take count) (fun frame hmem => by
      have hframe := List.mem_of_mem_take hmem
      have hfits := fragment_fits hmtu hsmall hframe
      exact ⟨takes_fragment hcapacity hsize hframe fun _ => hfits, hfits⟩)
  have horder := fragments_inOrder receiver next hcapacity hpayload hcount
  have hobs : obs <+: (fragments payload next (mtu - dataLinkHeaderSize)).map some :=
    hsingle.observed.trans ((List.take_prefix count _).map some)
  have hack : (receiver.format acDatalinkMaxPacketSize).ack = makeAck :=
    (receiver.format_link acDatalinkMaxPacketSize).ack
  rw [requests, replies, acks, ← List.map_take, ← List.map_take, ← List.map_take, List.length_map]
  have hsends : (receiver.receiver bound right [⟨buffer, timeoutMs'⟩]).sends (Link.arrivals
      (((fragments payload next (mtu - dataLinkHeaderSize)).take count).map encode)) =
        sent.map encode :=
    hsingle.sends
  rcases receivePacket_inOrder horder hsingle.runs hobs with
    ⟨rfl, hlength, rfl⟩ | ⟨rfl, hlength, rfl⟩
  · have hle := hsingle.observed.length_le
    rw [List.length_map, List.length_take, hlength] at hle
    rw [hsends, hack, List.take_of_length_le (hle.trans (Nat.min_le_left _ _))]
    refine ⟨rfl, fun _ => ?_⟩
    rcases hsingle.ended with ⟨value, result, hvalue, ⟨_, hdelivers, _⟩, hresults⟩ | ⟨hwaiting, _⟩
    · cases hvalue
      cases hdelivers with
      | packet hhead =>
          rw [receiver.content_eq buffer hcapacity hsize hhead] at hresults
          rw [List.take_of_length_le (hle.trans (Nat.min_le_left _ _))] at hresults
          exact hresults
    · cases hwaiting
  · rcases hsingle.ended with ⟨value, result, hvalue, _⟩ | ⟨_, hseen, _⟩
    · cases hvalue
    · have hcount : obs.length = count := by
        rw [hseen, List.length_map, List.length_take] at hlength ⊢
        omega
      rw [hsends, hack, hcount]
      exact ⟨rfl, fun hall => by omega⟩

/-- Every exchange of one packet on a lossless link comes to an end, and then the
receiver has returned the packet, every fragment has been sent and acknowledged once,
and the sender has returned success. -/
theorem packet_round_trip (sender receiver : Side) {left : sender.Endpoint}
    {right : receiver.Endpoint} (hpayload : payload.length ≤ acDatalinkMaxPacketSize)
    (hmtu : dataLinkHeaderSize < mtu) (hsmall : mtu ≤ acDatalinkMaxFrameSize)
    (hmtu' : dataLinkHeaderSize < mtu') (hbound : acDatalinkMaxFrameSize < bound)
    (hbuffer : buffer.length = acDatalinkMaxPacketSize)
    (hleft : sender.Ready mtu attempts next left)
    (hright : receiver.Ready mtu' attempts' next' right) :
    let sends : List SendCall := [⟨payload, timeoutMs⟩]
    let receives : List ReceiveCall := [⟨buffer, timeoutMs'⟩]
    let reach := Link.Reach (sender.sender bound left sends) (receiver.receiver bound right receives)
      Link.Lossless
    (∃ state, reach state ∧ state.Quiet) ∧
      ∀ state, reach state →
        state.leftHistory.length + state.rightHistory.length ≤
          2 * (requests payload next mtu).length ∧
        (state.Quiet →
          state.rightHistory = Link.arrivals (requests payload next mtu) ∧
          state.leftHistory = Link.arrivals (replies payload next mtu) ∧
          sender.sendResults bound left sends state.leftHistory = [.ok ()] ∧
          receiver.receiveResults bound right receives state.rightHistory = [.ok payload]) := by
  have hheader : dataLinkHeaderSize < bound := by
    have : dataLinkHeaderSize < acDatalinkMaxFrameSize := by decide
    omega
  have hlength : (replies payload next mtu).length = (requests payload next mtu).length := by
    rw [replies, acks, requests, List.length_map, List.length_map, List.length_map]
  have hsender := sender_acked hpayload hmtu hheader hleft timeoutMs
  have hreceiver := receiver_inOrder hpayload hmtu hsmall hmtu' hbound hbuffer hright next timeoutMs'
  have hturn : ∀ state, Link.Reach (sender.sender bound left [⟨payload, timeoutMs⟩])
      (receiver.receiver bound right [⟨buffer, timeoutMs'⟩]) Link.Lossless state →
      ∃ taken given, Link.Turn (requests payload next mtu) (replies payload next mtu) state taken
        given :=
    fun state hreach => hreach.turn hlength (fun count _ => (hsender count).1)
      (fun count _ => (hreceiver count).1)
  have hmost : ∀ state, Link.Reach (sender.sender bound left [⟨payload, timeoutMs⟩])
      (receiver.receiver bound right [⟨buffer, timeoutMs'⟩]) Link.Lossless state →
      state.leftHistory.length + state.rightHistory.length ≤
        2 * (requests payload next mtu).length := by
    intro state hreach
    obtain ⟨taken, given, hstate⟩ := hturn state hreach
    obtain ⟨hle, _, hgiven⟩ := hstate.order
    rw [hstate.left, hstate.right, Link.arrivals, Link.arrivals, List.length_map, List.length_map,
      List.length_take, List.length_take]
    omega
  refine ⟨Link.Reach.exists_quiet hmost, fun state hreach => ⟨hmost state hreach, fun hquiet => ?_⟩⟩
  obtain ⟨taken, given, hstate⟩ := hturn state hreach
  obtain ⟨hlefts, hrights⟩ := hstate.quiet hlength hquiet
  have hsends := (hsender _).2 (Nat.le_refl _)
  have hreceives := (hreceiver _).2 (Nat.le_refl _)
  rw [← hlength, List.take_length] at hsends
  rw [List.take_length] at hreceives
  exact ⟨hrights, hlefts, by rw [hlefts]; exact hsends, by rw [hrights]; exact hreceives⟩

end Exchange

/-- Three bytes in three fragments, from the firmware to the host. -/
theorem packet_round_trip_three_bytes :
    ∃ state, Link.Reach (Side.firmware.sender 1025 (acDatalinkInit 37) [⟨[1, 2, 3], 100⟩])
        (Side.host.receiver 1025 smallHost [⟨List.replicate 4096 0, 100⟩]) Link.Lossless state ∧
      Side.firmware.sendResults 1025 (acDatalinkInit 37) [⟨[1, 2, 3], 100⟩] state.leftHistory =
        [.ok ()] ∧
      Side.host.receiveResults 1025 smallHost [⟨List.replicate 4096 0, 100⟩]
        state.rightHistory = [.ok [1, 2, 3]] := by
  have hleft : Side.firmware.Ready 37 _ 1 (acDatalinkInit 37) :=
    Side.ready_acDatalinkInit (by decide) (by decide)
  have hpayload : ([1, 2, 3] : Bytes).length ≤ acDatalinkMaxPacketSize := by decide
  have hbound : acDatalinkMaxFrameSize < 1025 := by decide
  obtain ⟨⟨state, hreach, hquiet⟩, hall⟩ := packet_round_trip .firmware .host hpayload
    (by decide) (by decide) (by decide) hbound List.length_replicate hleft
    (Side.ready_dataLinkManager { maxPayloadSize := 64 } {})
  obtain ⟨_, _, hsent, hreceived⟩ := (hall state hreach).2 hquiet
  exact ⟨state, hreach, hsent, hreceived⟩

end AudioStudio.DataLink
