import AudioStudio.Transport.Peer
import AudioStudio.Wire.TransportCodec

/-!
# Requests after failed exchanges

Nothing in a data-link manager remembers a failed exchange but the bytes it left
unread.  Without such leftovers every exchange over a link that delivers succeeds;
a few of them are enough to make every later exchange fail.
-/

namespace AudioStudio.Transport

open AudioStudio.Common
open AudioStudio.DataLink
open LittleEndian
open Wire
open DataLinkFrameCodec

section Exchange

variable {service : Service} {caps : DataLinkDeviceCaps} {config : DataLinkManagerConfig}
  {next linkSequence : UInt32} {peer : Peer} {manager : DataLinkManager} {link : PeerLink}
  {payload : Bytes} {capacity bound : Nat} {timeoutMs : UInt32}

/-! ## The peer's reactions -/

theorem makeAck_flags (frame : DataLinkFrame) :
    (makeAck frame).flags &&& flagData = 0 ∧ (makeAck frame).flags &&& flagAck ≠ 0 := by
  have hflags : flagAck &&& flagData = 0 ∧ flagAck &&& flagAck ≠ 0 := by decide
  exact hflags

/-- The peer that has collected the first `index` fragments of a packet. -/
def Peer.collecting (peer : Peer) (payload : Bytes) (linkSequence : UInt32)
    (capacity index : Nat) : Peer :=
  { peer with collected := (fragments payload linkSequence capacity).take index }

variable {index : Nat}

theorem react_collecting (service : Service) (hlast : peer.lastPacket ≠ some linkSequence)
    (hcount : fragmentCount payload capacity ≤ 0xffff)
    (hindex : index < fragmentCount payload capacity) :
    (peer.collecting payload linkSequence capacity index).react service
        (fragment payload linkSequence capacity (fragmentCount payload capacity) index) =
      if index + 1 < fragmentCount payload capacity then
        (peer.collecting payload linkSequence capacity (index + 1),
          [makeAck (fragment payload linkSequence capacity (fragmentCount payload capacity) index)])
      else
        peer.complete service
          (fragment payload linkSequence capacity (fragmentCount payload capacity) index)
          (fragments payload linkSequence capacity) := by
  have hlength : ((fragments payload linkSequence capacity).take index).length = index :=
    List.length_take_of_le (by rw [fragments_length]; omega)
  unfold Peer.react
  rw [if_pos (fragment_data _ _ _ _ _), if_neg, fragmentIndex_toNat (by omega),
    fragmentCount_toNat hcount]
  · by_cases hmore : index + 1 < fragmentCount payload capacity
    · rw [if_pos hmore, if_pos hmore, Peer.collecting, Peer.collecting, take_fragments_succ hindex]
    · rw [if_neg hmore, if_neg hmore, Peer.collecting, ← take_fragments_succ hindex,
        List.take_of_length_le (by rw [fragments_length]; omega)]
      rfl
  · rw [fragmentIndex_toNat (by omega)]
    rintro (hseen | hshort)
    · exact hlast hseen
    · exact absurd hshort (by rw [Peer.collecting, hlength]; omega)

/-- The peer after a request is complete. -/
def Peer.answering (peer : Peer) (service : Service) (request : TransportFrame)
    (linkSequence : UInt32) : Peer where
  collected := []
  lastPacket := some linkSequence
  outgoing := fragments (FrameCodec.encode (service.answer peer.served request))
    peer.nextLinkSequence service.capacity
  nextLinkSequence := peer.nextLinkSequence + 1
  served := peer.served + 1

variable {request : TransportFrame}

theorem complete_request (service : Service) (hcapacity : 0 < capacity)
    (hsize : payload.length < 2 ^ 32) (hrequest : FrameCodec.decode payload = .ok request)
    (count index : Nat) :
    peer.complete service (fragment payload linkSequence capacity count index)
        (fragments payload linkSequence capacity) =
      (peer.answering service request linkSequence,
        makeAck (fragment payload linkSequence capacity count index) ::
          (peer.answering service request linkSequence).outgoing.take 1) := by
  have htransport : (fragment payload linkSequence capacity count index).transportSize.toNat =
      payload.length :=
    UInt32.toNat_ofNat_of_lt' hsize
  unfold Peer.complete
  rw [htransport, assemble_fragments hcapacity hsize, List.drop_of_length_le (by simp),
    List.append_nil, hrequest]
  rfl

/-! ## Sending the request -/

variable {frame : DataLinkFrame}

theorem sendFragment_answered (hpayload : frame.payload.length < 2 ^ 32)
    (hbound : dataLinkHeaderSize < bound) {peer' : Peer} {more : List DataLinkFrame}
    (hreact : peer.react service frame = (peer', makeAck frame :: more)) (retries : Nat)
    (hlinked : Linked caps config next peer [] manager link) :
    ∃ manager' link', (manager.sendFragment bound frame timeoutMs retries).run
        (PeerLink.handle service) link = (.done (.ok (), manager'), link') ∧
      Linked caps config next peer' more manager' link' := by
  have hwritten := hlinked.deliver hpayload hreact
  have hcounted : Linked caps config next peer' (makeAck frame :: more) manager.countFragmentSent
      (link.deliver service (encode frame)) :=
    ⟨hwritten.caps, hwritten.config, hwritten.sequence, hwritten.peer, hwritten.pending⟩
  have hack : (encode (makeAck frame)).length = dataLinkHeaderSize := by
    rw [encode_length]
    rfl
  obtain ⟨manager', link', hrun, hlinked'⟩ :=
    readFrame_pending service (by rw [show (makeAck frame).payload = [] from rfl]; decide)
      manager.config.ackTimeoutMs hcounted (by omega : _ < bound)
  refine ⟨manager', link', ?_, hlinked'⟩
  unfold DataLinkManager.sendFragment
  rw [PeerLink.run_writeBlock_bind]
  dsimp only
  rw [Proc.run_bind_done (PeerLink.handle service) hrun]
  have hmatch := answers_makeAck frame
  unfold answersFragment at hmatch
  rw [if_pos hmatch]
  rfl

variable {rest : Nat}

theorem sendFragments_acknowledged {count : Nat} {manager' : DataLinkManager}
    {link' : PeerLink}
    (hrun : (manager.sendFragment bound (fragment payload linkSequence capacity count index)
        timeoutMs manager.config.maxRetries).run (PeerLink.handle service) link =
      (.done (.ok (), manager'), link')) :
    (manager.sendFragments bound payload linkSequence capacity count timeoutMs (rest + 1)
        index).run (PeerLink.handle service) link =
      (manager'.sendFragments bound payload linkSequence capacity count timeoutMs rest
        (index + 1)).run (PeerLink.handle service) link' := by
  rw [DataLinkManager.sendFragments, take_min_drop]
  exact Proc.run_bind_done (PeerLink.handle service) hrun _

/-- The fragment loop, from a peer that has collected the fragments before `index`. -/
theorem sendFragments_answered (timeoutMs : UInt32) (hcapacity : 0 < capacity) (hsize : payload.length < 2 ^ 32)
    (hcount : fragmentCount payload capacity ≤ 0xffff) (hbound : dataLinkHeaderSize < bound)
    (hlast : peer.lastPacket ≠ some linkSequence)
    (hrequest : FrameCodec.decode payload = .ok request)
    (hindex : index + (rest + 1) = fragmentCount payload capacity)
    (hlinked : Linked caps config next (peer.collecting payload linkSequence capacity index) []
      manager link) :
    ∃ manager' link', (manager.sendFragments bound payload linkSequence capacity
        (fragmentCount payload capacity) timeoutMs (rest + 1) index).run
        (PeerLink.handle service) link = (.done (.ok (), manager'), link') ∧
      Linked caps config next (peer.answering service request linkSequence)
        ((peer.answering service request linkSequence).outgoing.take 1) manager' link' := by
  have hfragment : (fragment payload linkSequence capacity (fragmentCount payload capacity)
      index).payload.length < 2 ^ 32 := by
    simp only [fragment, List.length_take, List.length_drop]
    omega
  have hreact := react_collecting service hlast hcount
    (by omega : index < fragmentCount payload capacity)
  induction rest generalizing index manager link with
  | zero =>
      rw [if_neg (by omega), complete_request service hcapacity hsize hrequest] at hreact
      obtain ⟨manager', link', hrun, hlinked'⟩ :=
        sendFragment_answered hfragment hbound hreact manager.config.maxRetries hlinked
      rw [sendFragments_acknowledged hrun]
      exact ⟨_, link', rfl, hlinked'.caps, hlinked'.config, hlinked'.sequence, hlinked'.peer,
        hlinked'.pending⟩
  | succ rest ih =>
      rw [if_pos (by omega)] at hreact
      obtain ⟨manager', link', hrun, hlinked'⟩ :=
        sendFragment_answered hfragment hbound hreact manager.config.maxRetries hlinked
      rw [sendFragments_acknowledged hrun]
      refine ih (by omega) hlinked' ?_ (react_collecting service hlast hcount (by omega))
      simp only [fragment, List.length_take, List.length_drop]
      omega

theorem sendPacket_answered (timeoutMs : UInt32) (hmtu : dataLinkHeaderSize < caps.maxPayloadSize)
    (hsize : payload.length < 2 ^ 32)
    (hcount : fragmentCount payload (caps.maxPayloadSize - dataLinkHeaderSize) ≤ 0xffff)
    (hbound : dataLinkHeaderSize < bound) (hcollected : peer.collected = [])
    (hlast : peer.lastPacket ≠ some next) (hrequest : FrameCodec.decode payload = .ok request)
    (hlinked : Linked caps config next peer [] manager link) :
    ∃ manager' link', (manager.sendPacket bound payload timeoutMs).run
        (PeerLink.handle service) link = (.done (.ok (), manager'), link') ∧
      Linked caps config (next + 1) (peer.answering service request next)
        ((peer.answering service request next).outgoing.take 1) manager' link' := by
  have hpos : 0 < fragmentCount payload (caps.maxPayloadSize - dataLinkHeaderSize) := by
    rw [fragmentCount]
    omega
  obtain ⟨rest, hrest⟩ := Nat.exists_eq_succ_of_ne_zero hpos.ne'
  have hstart : Linked caps config (next + 1)
      (peer.collecting payload next (caps.maxPayloadSize - dataLinkHeaderSize) 0) []
      { manager with nextLinkSequence := manager.nextLinkSequence + 1 } link := by
    refine ⟨hlinked.caps, hlinked.config, ?_, ?_, hlinked.pending⟩
    · rw [← hlinked.sequence]
    · rw [hlinked.peer, Peer.collecting, List.take_zero, ← hcollected]
  obtain ⟨manager', link', hrun, hlinked'⟩ := sendFragments_answered timeoutMs
    (Nat.sub_pos_of_lt hmtu) hsize hcount hbound hlast hrequest
    (by omega : 0 + (rest + 1) = _) hstart
  refine ⟨manager', link', ?_, hlinked'⟩
  rw [← hrun, DataLinkManager.sendPacket, PeerLink.run_isConnected_bind]
  rw [if_neg (by decide), hlinked.caps, if_neg (Nat.not_le.mpr hmtu)]
  dsimp only
  rw [← fragmentCount, if_neg (Nat.not_lt.mpr hcount), hlinked.sequence, hrest]

/-! ## Receiving the response -/

theorem react_ack (service : Service) {rest : List DataLinkFrame}
    (houtgoing : peer.outgoing = frame :: rest) :
    peer.react service (makeAck frame) = ({ peer with outgoing := rest }, rest.take 1) := by
  unfold Peer.react
  rw [if_neg (not_not.mpr (makeAck_flags frame).1), houtgoing]
  exact if_pos (answers_makeAck frame)

variable {buffer : Bytes}

theorem copyFragment_answered (timeoutMs : UInt32) {first : DataLinkFrame}
    {rest : List DataLinkFrame} (houtgoing : peer.outgoing = frame :: rest)
    (htransport : frame.transportSize = first.transportSize)
    (hfits : frame.fragmentOffset.toNat + frame.payload.length ≤ buffer.length)
    (hlinked : Linked caps config next peer [] manager link) :
    ∃ manager' link', (manager.copyFragment first frame timeoutMs buffer).run
        (PeerLink.handle service) link =
        (.done (.ok (poke buffer frame.fragmentOffset.toNat frame.payload), manager'), link') ∧
      Linked caps config next { peer with outgoing := rest } (rest.take 1) manager' link' := by
  have hwritten := hlinked.deliver
    (by rw [show (makeAck frame).payload = [] from rfl]; decide) (react_ack service houtgoing)
  refine ⟨manager.countFragmentReceived, _, ?_, hwritten.caps, hwritten.config, hwritten.sequence,
    hwritten.peer, hwritten.pending⟩
  rw [DataLinkManager.copyFragment, if_neg (not_not.mpr htransport),
    if_neg (Nat.not_lt.mpr hfits)]
  exact PeerLink.run_writeBlock_bind service link _ timeoutMs _

theorem drop_fragments (hindex : index < fragmentCount payload capacity) :
    (fragments payload linkSequence capacity).drop index =
      fragment payload linkSequence capacity (fragmentCount payload capacity) index ::
        (fragments payload linkSequence capacity).drop (index + 1) := by
  rw [List.drop_eq_getElem?_toList_append, getElem?_fragments hindex]
  rfl

variable {response : Bytes}

/-- The fragments of a response that a peer sends one after another. -/
theorem receiveFragments_answered (timeoutMs : UInt32) (hcapacity : 0 < service.capacity)
    (hsize : response.length < 2 ^ 32)
    (hbound : dataLinkHeaderSize + service.capacity < bound)
    (hindex : index + rest = fragmentCount response service.capacity)
    (hbuffer : buffer = assemble (List.replicate response.length 0)
      ((fragments response linkSequence service.capacity).take index))
    (hlength : buffer.length = response.length)
    (houtgoing : peer.outgoing = (fragments response linkSequence service.capacity).drop index)
    (hlinked : Linked caps config next peer (peer.outgoing.take 1) manager link) :
    ∃ manager' link', (manager.receiveFragments bound
        (fragment response linkSequence service.capacity
          (fragmentCount response service.capacity) 0) timeoutMs rest index.toUInt16 buffer).run
        (PeerLink.handle service) link = (.done (.ok response, manager'), link') ∧
      Linked caps config next { peer with outgoing := [] } [] manager' link' := by
  induction rest generalizing index buffer peer manager link with
  | zero =>
      rw [List.drop_of_length_le (by rw [fragments_length]; omega)] at houtgoing
      rw [List.take_of_length_le (by rw [fragments_length]; omega),
        assemble_fragments hcapacity hsize, List.drop_of_length_le (by simp),
        List.append_nil] at hbuffer
      rw [houtgoing] at hlinked
      refine ⟨{ manager with
          stats := { manager.stats with packetsReceived := manager.stats.packetsReceived + 1 } },
        link, by rw [hbuffer]; rfl, hlinked.caps, hlinked.config, hlinked.sequence, ?_,
        hlinked.pending⟩
      rw [hlinked.peer, ← houtgoing]
  | succ rest ih =>
      have hmore : index < fragmentCount response service.capacity := by omega
      rw [drop_fragments hmore] at houtgoing
      rw [houtgoing, List.take_succ_cons, List.take_zero] at hlinked
      have hoffset := offset_le hcapacity hmore
      have hpiece : (fragment response linkSequence service.capacity
          (fragmentCount response service.capacity) index).payload.length ≤ service.capacity := by
        simp only [fragment, List.length_take]
        omega
      have hend := fragment_end_le (fragmentCount response service.capacity) hoffset hsize
        linkSequence
      obtain ⟨manager₁, link₁, hread, hlinked₁⟩ := readFrame_pending service (by omega) timeoutMs
        hlinked
        (by rw [encode_length]; omega : _ < bound)
      have htransport : (fragment response linkSequence service.capacity
          (fragmentCount response service.capacity) index).transportSize =
          (fragment response linkSequence service.capacity
            (fragmentCount response service.capacity) 0).transportSize := rfl
      obtain ⟨manager₂, link₂, hcopy, hlinked₂⟩ := copyFragment_answered timeoutMs houtgoing
        htransport (hlength ▸ hend) hlinked₁
      obtain ⟨manager', link', hrun, hlinked'⟩ := ih (by omega)
        (by rw [take_fragments_succ hmore, assemble_snoc, ← hbuffer])
        (by rw [poke_length (hlength ▸ hend)]; exact hlength) rfl hlinked₂
      refine ⟨manager', link', ?_, hlinked'⟩
      have hnext : index.toUInt16 + 1 = (index + 1).toUInt16 := (UInt16.ofNat_add index 1).symm
      rw [DataLinkManager.receiveFragments, Proc.run_bind_done (PeerLink.handle service) hread]
      dsimp only
      rw [if_neg]
      · rw [Proc.run_bind_done (PeerLink.handle service) hcopy]
        dsimp only
        rw [hnext]
        exact hrun
      · rintro (h | h | h)
        · exact fragment_data _ _ _ _ _ h
        · exact h rfl
        · exact h rfl

theorem receivePacket_answered (timeoutMs : UInt32) (hcapacity : 0 < service.capacity)
    (hsize : response.length < 2 ^ 32) (hcount : fragmentCount response service.capacity ≤ 0xffff)
    (hbound : dataLinkHeaderSize + service.capacity < bound)
    (houtgoing : peer.outgoing = fragments response linkSequence service.capacity)
    (hlinked : Linked caps config next peer (peer.outgoing.take 1) manager link) :
    ∃ manager' link', (manager.receivePacket bound timeoutMs).run (PeerLink.handle service) link =
        (.done (.ok response, manager'), link') ∧
      Linked caps config next { peer with outgoing := [] } [] manager' link' := by
  have hpos : 0 < fragmentCount response service.capacity := by
    rw [fragmentCount]
    omega
  have hoffset := offset_le hcapacity hpos
  have hend := fragment_end_le (fragmentCount response service.capacity) hoffset hsize linkSequence
  have hpiece : (fragment response linkSequence service.capacity
      (fragmentCount response service.capacity) 0).payload.length ≤ service.capacity := by
    simp only [fragment, List.length_take]
    omega
  have htransport : (fragment response linkSequence service.capacity
      (fragmentCount response service.capacity) 0).transportSize.toNat = response.length :=
    UInt32.toNat_ofNat_of_lt' hsize
  have hzero : (fragment response linkSequence service.capacity
      (fragmentCount response service.capacity) 0).fragmentOffset = 0 := by
    simp [fragment]
  have hzeros : (List.replicate response.length (0 : UInt8)).length = response.length :=
    List.length_replicate
  have hall : (fragments response linkSequence service.capacity).drop 0 = _ := drop_fragments hpos
  rw [List.drop_zero] at hall
  rw [hall] at houtgoing
  rw [houtgoing, List.take_succ_cons, List.take_zero] at hlinked
  obtain ⟨manager₁, link₁, hread, hlinked₁⟩ := readFrame_pending service (by omega) timeoutMs
        hlinked (by rw [encode_length]; omega : _ < bound)
  obtain ⟨manager₂, link₂, hcopy, hlinked₂⟩ := copyFragment_answered timeoutMs houtgoing rfl
    (hzeros ▸ hend) hlinked₁
  have hfirst : poke (List.replicate response.length 0)
      (fragment response linkSequence service.capacity
        (fragmentCount response service.capacity) 0).fragmentOffset.toNat
      (fragment response linkSequence service.capacity
        (fragmentCount response service.capacity) 0).payload =
      assemble (List.replicate response.length 0)
        ((fragments response linkSequence service.capacity).take 1) := by
    rw [take_fragments_succ hpos, List.take_zero]
    rfl
  obtain ⟨manager', link', hrun, hlinked'⟩ := receiveFragments_answered timeoutMs hcapacity hsize
    hbound (by omega : 1 + (fragmentCount response service.capacity - 1) = _) hfirst
    (by rw [poke_length (by rw [hzeros]; exact hend)]; exact hzeros) rfl hlinked₂
  refine ⟨manager', link', ?_, hlinked'⟩
  rw [DataLinkManager.receivePacket, Proc.run_bind_done (PeerLink.handle service) hread]
  dsimp only
  rw [if_neg (fragment_data _ _ _ _ _), if_neg (not_not.mpr hzero), htransport]
  rw [Proc.run_bind_done (PeerLink.handle service) hcopy, fragmentCount_toNat hcount]
  exact hrun

end Exchange

/-! ## The channel table -/

namespace TransportManager

variable {id : UInt16} {manager : TransportManager}

/-- The channel is in the table and open. -/
def IsOpen (id : UInt16) (manager : TransportManager) : Prop :=
  ∃ channel, manager.requireChannel id = .ok channel ∧ channel.isOpen = true

theorem isOpen_iff : IsOpen id manager ↔
    ∃ channel, manager.channels.find? (·.id = id) = some channel ∧ channel.isOpen = true := by
  unfold IsOpen requireChannel
  cases manager.channels.find? (·.id = id) <;> simp

/-- An update that keeps ids and open flags keeps a channel open. -/
theorem IsOpen.updateChannel (hopen : IsOpen id manager) {other : UInt16}
    {update : LogicalChannel → LogicalChannel} (hid : ∀ channel, (update channel).id = channel.id)
    (hflag : other = id → ∀ channel, (update channel).isOpen = channel.isOpen) :
    IsOpen id (manager.updateChannel other update) := by
  rw [isOpen_iff] at hopen ⊢
  obtain ⟨channel, hfind, hchannel⟩ := hopen
  have hkeep : ∀ entry : LogicalChannel,
      (if entry.id = other then update entry else entry).id = entry.id := by
    intro entry
    split
    · exact hid entry
    · rfl
  refine ⟨if channel.id = other then update channel else channel, ?_, ?_⟩
  · rw [TransportManager.updateChannel, List.find?_map]
    have hsame : (fun entry : LogicalChannel => decide (entry.id = id)) ∘
        (fun entry => if entry.id = other then update entry else entry) =
          fun entry => decide (entry.id = id) := by
      ext entry
      rw [Function.comp_apply, hkeep]
    rw [hsame, hfind]
    rfl
  · have hfound : channel.id = id := by simpa using List.find?_some hfind
    split
    · next heq => rw [hflag (heq.symm.trans hfound)]; exact hchannel
    · exact hchannel

/-- Other threads do not close this channel. -/
def Spares (id : UInt16) (ops : List ChannelOp) : Prop :=
  ChannelOp.markClosed id ∉ ops ∧ ChannelOp.erase id ∉ ops

theorem IsOpen.applyOp (hopen : IsOpen id manager) {op : ChannelOp}
    (hmark : op ≠ .markClosed id) (herase : op ≠ .erase id) :
    IsOpen id (manager.applyOp op) := by
  cases op with
  | openChannel other service =>
      rw [TransportManager.applyOp]
      cases hresult : manager.openChannel other service with
      | error status => exact hopen
      | ok opened =>
          obtain ⟨channel, hfind, hchannel⟩ := isOpen_iff.mp hopen
          have hopened : ∃ added, opened.channels = manager.channels ++ added := by
            unfold TransportManager.openChannel at hresult
            split at hresult
            · cases hresult
            · split at hresult
              · cases hresult
              · split at hresult
                · cases hresult
                · cases hresult
                  exact ⟨_, rfl⟩
          obtain ⟨added, hadded⟩ := hopened
          refine isOpen_iff.mpr ⟨channel, ?_, hchannel⟩
          rw [Except.toOption, Option.getD_some, hadded, List.find?_append, hfind, Option.some_or]
  | markClosed other =>
      refine hopen.updateChannel (fun _ => rfl) fun heq => ?_
      exact absurd (by rw [heq]) hmark
  | erase other =>
      obtain ⟨channel, hfind, hchannel⟩ := isOpen_iff.mp hopen
      refine isOpen_iff.mpr ⟨channel, ?_, hchannel⟩
      rw [TransportManager.applyOp, List.find?_filter, ← hfind]
      congr
      ext entry
      by_cases hentry : entry.id = id
      · have hother : id ≠ other := fun heq => herase (by rw [heq])
        simp [hentry, hother]
      · simp [hentry]

theorem IsOpen.applyOps (hopen : IsOpen id manager) {ops : List ChannelOp}
    (hspares : Spares id ops) : IsOpen id (manager.applyOps ops) := by
  induction ops generalizing manager with
  | nil => exact hopen
  | cons op ops ih =>
      obtain ⟨hmark, herase⟩ := hspares
      rw [List.mem_cons, not_or] at hmark herase
      exact ih (hopen.applyOp (Ne.symm hmark.1) (Ne.symm herase.1)) ⟨hmark.2, herase.2⟩

theorem IsOpen.record (hopen : IsOpen id manager) {count : LogicalChannel → LogicalChannel}
    (hid : ∀ channel, (count channel).id = channel.id)
    (hflag : ∀ channel, (count channel).isOpen = channel.isOpen) :
    ∃ manager', manager.record id count = .ok manager' ∧ IsOpen id manager' ∧
      manager'.datalink = manager.datalink := by
  obtain ⟨channel, hrequire, hchannel⟩ := hopen
  refine ⟨manager.updateChannel id count, ?_, ?_, rfl⟩
  · rw [TransportManager.record, hrequire]
    change (if !channel.isOpen then _ else _) = _
    rw [hchannel]
    rfl
  · exact IsOpen.updateChannel ⟨channel, hrequire, hchannel⟩ hid fun _ => hflag

@[simp] theorem applyOp_datalink (op : ChannelOp) (manager : TransportManager) :
    (manager.applyOp op).datalink = manager.datalink := by
  cases op with
  | openChannel other service =>
      simp only [TransportManager.applyOp, TransportManager.openChannel]
      split <;> [rfl; split <;> [rfl; split <;> rfl]]
  | markClosed other => rfl
  | erase other => rfl

@[simp] theorem applyOps_datalink (ops : List ChannelOp) (manager : TransportManager) :
    (manager.applyOps ops).datalink = manager.datalink := by
  induction ops generalizing manager with
  | nil => rfl
  | cons op ops ih => exact (ih _).trans (applyOp_datalink op manager)

end TransportManager

/-! ## Exchanges over a link that delivers -/

/-- Nothing of an earlier exchange is left: no bytes in the receive buffer or on the
link, and the peer neither waits for fragments nor for acknowledgements. -/
structure Settled (manager : TransportManager) (link : PeerLink) (datalink : DataLinkManager) :
    Prop where
  bound : manager.datalink = some datalink
  mtu : dataLinkHeaderSize < datalink.caps.maxPayloadSize
  buffer : datalink.rxBuffer = []
  stream : link.stream = []
  collected : link.peer.collected = []
  outgoing : link.peer.outgoing = []
  lastPacket : link.peer.lastPacket ≠ some datalink.nextLinkSequence

/-- A call on a channel that stays open, with a request that fits the link. -/
structure Proper (call : SyncCall) (manager : TransportManager) (datalink : DataLinkManager) :
    Prop where
  isOpen : manager.IsOpen call.channelId
  beforeTx : TransportManager.Spares call.channelId call.beforeTx
  beforeRx : TransportManager.Spares call.channelId call.beforeRx
  size : acTransportHeaderSize + call.payload.length < 2 ^ 32
  count : fragmentCount (FrameCodec.encode (TransportManager.request call manager.nextSequence))
    (datalink.caps.maxPayloadSize - dataLinkHeaderSize) ≤ 0xffff

theorem request_round_trip (call : SyncCall) (sequenceId : UInt32)
    (hsize : acTransportHeaderSize + call.payload.length < 2 ^ 32) :
    FrameCodec.decode (FrameCodec.encode (TransportManager.request call sequenceId)) =
      .ok (TransportManager.request call sequenceId) :=
  FrameCodec.decode_encode (Nat.lt_of_le_of_lt (Nat.le_add_left _ _) hsize)

/-- A response of the service passes all of `sendSync`'s checks. -/
theorem acceptResponse_answer (service : Service) (number : Nat) (request : TransportFrame)
    {manager : TransportManager} (hopen : manager.IsOpen request.channelId) :
    ∃ response manager', manager.acceptResponse request
        (FrameCodec.encode (service.answer number request)) = (.ok response, manager') ∧
      response.channelId = request.channelId ∧ response.sequenceId = request.sequenceId ∧
      manager'.datalink = manager.datalink := by
  have hsize := service.size number request
  rw [FrameCodec.encode_length] at hsize
  have hchannel := service.channelId number request
  obtain ⟨manager', hrecord, _, hdatalink⟩ : ∃ manager', manager.recordRx
      { service.answer number request with serviceId := (service.answer number request).channelId } =
        .ok manager' ∧ _ ∧ manager'.datalink = manager.datalink := by
    rw [TransportManager.recordRx, hchannel]
    exact hopen.record (fun _ => rfl) fun _ => rfl
  refine ⟨{ service.answer number request with
    serviceId := (service.answer number request).channelId }, manager', ?_, hchannel, service.sequenceId number request, hdatalink⟩
  rw [TransportManager.acceptResponse, FrameCodec.decode_encode (by omega)]
  dsimp only
  rw [if_neg, if_neg (service.flags number request), hrecord]
  · rintro (h | h)
    · exact h hchannel
    · exact h (service.sequenceId number request)

variable {datalink : DataLinkManager}

theorem sendSync_answered (service : Service) {bound : Nat}
    (hbound : dataLinkHeaderSize + service.capacity < bound) {manager : TransportManager}
    {link : PeerLink} (hsettled : Settled manager link datalink) {call : SyncCall}
    (hproper : Proper call manager datalink) :
    ∃ response manager' link' datalink', (manager.sendSync bound call).run
        (PeerLink.handle service) link = (.done (.ok response, manager'), link') ∧
      response.channelId = call.channelId ∧ response.sequenceId = manager.nextSequence ∧
      Settled manager' link' datalink' ∧ datalink'.caps = datalink.caps := by
  have hstart : Linked datalink.caps datalink.config datalink.nextLinkSequence link.peer []
      datalink link :=
    ⟨rfl, rfl, rfl, rfl, by rw [hsettled.buffer, hsettled.stream]; rfl⟩
  have hsize : (FrameCodec.encode (TransportManager.request call manager.nextSequence)).length <
      2 ^ 32 := by
    rw [FrameCodec.encode_length]
    exact hproper.size
  have hdecode := request_round_trip call manager.nextSequence hproper.size
  obtain ⟨datalink₁, link₁, hsend, hlinked₁⟩ := sendPacket_answered call.timeoutMs hsettled.mtu
    hsize hproper.count (by omega : dataLinkHeaderSize < bound) hsettled.collected
    hsettled.lastPacket hdecode hstart
  obtain ⟨datalink₂, link₂, hreceive, hlinked₂⟩ := receivePacket_answered call.timeoutMs
    service.capacity_pos (service.size link.peer.served _) (service.count link.peer.served _)
    hbound rfl hlinked₁
  obtain ⟨channel, hrequire, hchannel⟩ := hproper.isOpen
  have hopen : TransportManager.IsOpen call.channelId
      { manager with datalink := some datalink, nextSequence := manager.nextSequence + 1 } :=
    ⟨channel, hrequire, hchannel⟩
  obtain ⟨manager₁, hrecord, hopen₁, _⟩ : ∃ manager₁, TransportManager.recordTx
      (TransportManager.request call manager.nextSequence) (TransportManager.applyOps call.beforeTx
        { manager with datalink := some datalink, nextSequence := manager.nextSequence + 1 }) =
        .ok manager₁ ∧ TransportManager.IsOpen call.channelId manager₁ ∧ _ :=
    (hopen.applyOps hproper.beforeTx).record (fun _ => rfl) fun _ => rfl
  have hreceived : TransportManager.IsOpen call.channelId
      { manager₁ with datalink := some datalink₂ } :=
    hopen₁
  have hopen₂ := hreceived.applyOps hproper.beforeRx
  obtain ⟨response, manager', haccept, hid, hsequence, hdatalink⟩ :=
    acceptResponse_answer service link.peer.served
      (TransportManager.request call manager.nextSequence) hopen₂
  have hbuffer := List.append_eq_nil_iff.mp hlinked₂.pending
  refine ⟨response, manager', link₂, datalink₂, ?_, hid, hsequence, ⟨?_, ?_, hbuffer.1, hbuffer.2,
    ?_, ?_, ?_⟩, hlinked₂.caps⟩
  · rw [TransportManager.sendSync, hrequire]
    dsimp only
    rw [if_neg (by rw [hchannel]; decide), hsettled.bound]
    dsimp only
    rw [TransportManager.exchange, Proc.run_bind_done (PeerLink.handle service) hsend]
    dsimp only
    rw [hrecord]
    dsimp only
    rw [Proc.run_bind_done (PeerLink.handle service) hreceive]
    dsimp only
    rw [haccept]
    rfl
  · rw [hdatalink, TransportManager.applyOps_datalink]
  · rw [hlinked₂.caps]
    exact hsettled.mtu
  · rw [hlinked₂.peer]
    rfl
  · rw [hlinked₂.peer]
  · rw [hlinked₂.peer, hlinked₂.sequence]
    intro hsame
    have hnext := Option.some.inj hsame
    exact absurd (UInt32.left_eq_add.mp hnext) (by decide)

/-! ## After any history -/

/-- A manager with a bound data link after calls and channel operations in any order.
Each call ran over a device that answered in any way. -/
inductive History : TransportManager → Prop where
  | start (caps : DataLinkDeviceCaps) (config : DataLinkManagerConfig) :
      History { datalink := some { caps, config } }
  | others {manager : TransportManager} (ops : List ChannelOp) :
      History manager → History (manager.applyOps ops)
  | exchanged {manager manager' : TransportManager} {call : SyncCall} {bound : Nat} {σ : Type}
      {device : Handler (LinkReply Status) σ} {state state' : σ} {result : Result TransportFrame} :
      History manager →
        (manager.sendSync bound call).run device state = (.done (result, manager'), state') →
          History manager'

/-- From a moment on at which nothing is left of the history, the link delivers and the
peer answers; no call loses its channel while it runs. -/
inductive Recovered (service : Service) (bound : Nat) :
    TransportManager → PeerLink → DataLinkManager → Prop where
  | settled {manager : TransportManager} {link : PeerLink} {datalink : DataLinkManager} :
      History manager → Settled manager link datalink →
        Recovered service bound manager link datalink
  | others {manager : TransportManager} {link : PeerLink} {datalink : DataLinkManager}
      (ops : List ChannelOp) : Recovered service bound manager link datalink →
        Recovered service bound (manager.applyOps ops) link datalink
  | exchanged {manager manager' : TransportManager} {link link' : PeerLink}
      {datalink datalink' : DataLinkManager} {call : SyncCall} {result : Result TransportFrame} :
      Recovered service bound manager link datalink → Proper call manager datalink →
        (manager.sendSync bound call).run (PeerLink.handle service) link =
          (.done (result, manager'), link') →
        manager'.datalink = some datalink' → Recovered service bound manager' link' datalink'

theorem Recovered.stays_settled {service : Service} {bound : Nat}
    (hbound : dataLinkHeaderSize + service.capacity < bound) {manager : TransportManager}
    {link : PeerLink} (hrecovered : Recovered service bound manager link datalink) :
    Settled manager link datalink := by
  induction hrecovered with
  | settled _ hsettled => exact hsettled
  | others ops _ ih =>
      exact ⟨by rw [TransportManager.applyOps_datalink, ih.bound], ih.mtu, ih.buffer, ih.stream,
        ih.collected, ih.outgoing, ih.lastPacket⟩
  | exchanged _ hproper hrun hdatalink ih =>
      obtain ⟨response, manager', link', datalink', hrun', _, _, hsettled, _⟩ :=
        sendSync_answered service hbound ih hproper
      rw [hrun] at hrun'
      cases hrun'
      rw [hsettled.bound] at hdatalink
      cases hdatalink
      exact hsettled

/-- Whatever failed before: once nothing of it is left, every call on an open channel
succeeds with the response to its own request. -/
theorem sendSync_recovers {service : Service} {bound : Nat}
    (hbound : dataLinkHeaderSize + service.capacity < bound) {manager : TransportManager}
    {link : PeerLink} {datalink : DataLinkManager}
    (hrecovered : Recovered service bound manager link datalink) {call : SyncCall}
    (hproper : Proper call manager datalink) :
    ∃ response manager' link', (manager.sendSync bound call).run (PeerLink.handle service) link =
        (.done (.ok response, manager'), link') ∧
      response.channelId = call.channelId ∧ response.sequenceId = manager.nextSequence := by
  obtain ⟨response, manager', link', _, hrun, hchannel, hsequence, _, _⟩ :=
    sendSync_answered service hbound (hrecovered.stays_settled hbound) hproper
  exact ⟨response, manager', link', hrun, hchannel, hsequence⟩

/-! ### Two requests on one channel -/

/-- A peer that acknowledges every request with an empty payload. -/
def plainService : Service where
  capacity := 220
  answer _ request :=
    { request with flags := kTransportFrameResponse ||| kTransportFrameAck, payload := [] }
  capacity_pos := by decide
  channelId _ _ := rfl
  sequenceId _ _ := rfl
  flags _ _ := by
    change (kTransportFrameResponse ||| kTransportFrameAck) &&&
      (kTransportFrameAck ||| kTransportFrameResponse) ≠ 0
    decide
  size _ _ := by
    rw [FrameCodec.encode_length]
    change acTransportHeaderSize + 0 < 2 ^ 32
    decide
  count _ _ := by
    rw [fragmentCount, FrameCodec.encode_length]
    change max 1 ((acTransportHeaderSize + 0 + 220 - 1) / 220) ≤ 0xffff
    decide

def logManager : TransportManager :=
  TransportManager.applyOps [.openChannel 6 "log"]
    { datalink := some { caps := { maxPayloadSize := 256 } } }

def logCall : SyncCall := { channelId := 6, commandId := 1, payload := [1, 2], timeoutMs := 100 }

theorem sendSync_recovers_first :
    ∃ response manager' link', (logManager.sendSync 300 logCall).run
        (PeerLink.handle plainService) { peer := {} } = (.done (.ok response, manager'), link') ∧
      response.channelId = 6 ∧ response.sequenceId = 1 := by
  have hhistory : History logManager := .others _ (.start _ _)
  have hsettled : Settled logManager { peer := {} } { caps := { maxPayloadSize := 256 } } :=
    ⟨rfl, by decide, rfl, rfl, rfl, rfl, nofun⟩
  have hopen : logManager.IsOpen 6 := ⟨_, rfl, rfl⟩
  have hcount : fragmentCount (FrameCodec.encode (TransportManager.request logCall 1)) 220 ≤
      0xffff := by
    rw [fragmentCount, FrameCodec.encode_length]
    decide
  exact sendSync_recovers (by decide) (.settled hhistory hsettled)
    ⟨hopen, ⟨nofun, nofun⟩, ⟨nofun, nofun⟩, by decide, hcount⟩

/-- Calls made one after another all fail. -/
def keepsFailing (service : Service) (bound : Nat) (call : SyncCall) :
    Nat → TransportManager → PeerLink → Bool
  | 0, _, _ => true
  | calls + 1, manager, link =>
      match (manager.sendSync bound call).run (PeerLink.handle service) link with
      | (.done (.error _, manager), link) => keepsFailing service bound call calls manager link
      | _ => false

/-- A first call failed with its channels kept, and so do the calls behind it. -/
def failsForGood : Outcome (Result TransportFrame × TransportManager) × Script Status → Bool
  | (.done (.error _, manager), script) =>
      decide (manager.channels = logManager.channels) && keepsFailing plainService 300 logCall 2
        manager (script.written.foldl (fun link bytes => link.deliver plainService bytes)
          { peer := {} })
  | _ => false

/-- Four acknowledgements come late: the first call fails, and although the link then
delivers everything and the peer answers everything, so does every call after it. -/
theorem late_acknowledgements_desynchronise :
    ∃ status manager script, (logManager.sendSync 300 logCall).run Script.handle
        { reads := List.replicate 4 (.upset .deadline) } =
        (.done (.error status, manager), script) ∧
      History manager ∧ manager.channels = logManager.channels ∧
      keepsFailing plainService 300 logCall 2 manager
        (script.written.foldl (fun link bytes => link.deliver plainService bytes)
          { peer := {} }) = true := by
  have hruns : failsForGood ((logManager.sendSync 300 logCall).run Script.handle
      { reads := List.replicate 4 (.upset .deadline) }) = true := by
    decide +kernel
  unfold failsForGood at hruns
  split at hruns
  · next status manager script hfirst =>
      rw [Bool.and_eq_true, decide_eq_true_eq] at hruns
      have hhistory : History logManager := .others _ (.start _ _)
      exact ⟨status, manager, script, hfirst, hhistory.exchanged hfirst, hruns⟩
  · cases hruns

end AudioStudio.Transport
