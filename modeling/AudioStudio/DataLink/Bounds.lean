import AudioStudio.Core.Ensures
import AudioStudio.DataLink.Chunks
import AudioStudio.DataLink.Firmware
import AudioStudio.Wire.DataLinkCodec

/-!
# The firmware's link buffers

Whatever bytes a device delivers, and in whatever pieces: which copies of
`ac_datalink.c` stay inside the stream buffer, the frame copy and the caller's
buffer.  A copy that does not is a fault of the model.
-/

namespace AudioStudio.DataLink

open LittleEndian
open Wire

/-- A device that delivers a stream in pieces of its own choice, each no longer than
the reader's buffer, and answers everything else at will.  The state is what it has
yet to deliver. -/
def delivering : Effect (LinkReply AcError) Bytes
  | .read capacity _, rest, .ok block, rest' => block.length ≤ capacity ∧ rest = block ++ rest'
  | .read _ _, rest, .error _, rest' => rest' = rest
  | .isConnected, rest, _, rest' => rest' = rest
  | .write _ _, rest, _, rest' => rest' = rest
  | .remaining _, rest, _, rest' => rest' = rest

/-! ## Calls -/

/-- A call on the link; `buffer` is the caller's memory as it is before the call. -/
inductive AcCall where
  | send (payload : Bytes) (timeoutMs : UInt32)
  | receive (buffer : Bytes) (timeoutMs : UInt32)
  deriving DecidableEq, Repr

namespace AcCall

def memory : AcCall → Bytes
  | .send payload _ => payload
  | .receive buffer _ => buffer

/-- The call, and the caller's memory after it. -/
def run (bound : Nat) :
    AcCall → AcDatalinkController → LinkProc AcError (Bytes × AcDatalinkController)
  | .send payload timeoutMs, datalink => do
      let (_, datalink) ← acDatalinkSendPacket bound payload timeoutMs datalink
      pure (payload, datalink)
  | .receive buffer timeoutMs, datalink => do
      let (received, datalink) ← acDatalinkReceivePacket bound buffer timeoutMs datalink
      pure (received.payload, datalink)

end AcCall

/-- Calls one after another, with the memory each of them leaves. -/
def acSession (bound : Nat) :
    List AcCall → AcDatalinkController → LinkProc AcError (List Bytes × AcDatalinkController)
  | [], datalink => pure ([], datalink)
  | call :: calls, datalink => do
      let (memory, datalink) ← call.run bound datalink
      let (later, datalink) ← acSession bound calls datalink
      pure (memory :: later, datalink)

/-! ## Frames that escape the checks -/

/-- The frame fits the stream buffer but not a caller's frame copy. -/
def Oversized (segment : Bytes) : Prop :=
  acDatalinkMaxFrameSize < segment.length ∧ segment.length ≤ acDatalinkRxStreamSize

/-- The end of the fragment passes 2^32 and its 32-bit sum comes out inside the buffer. -/
def Wraps (capacity : Nat) (view : AcDatalinkFrameView) : Prop :=
  view.flags &&& flagData ≠ 0 ∧ view.fragmentIndex ≠ 0 ∧
    2 ^ 32 ≤ view.fragmentOffset.toNat + view.payloadSize.toNat ∧
    (view.fragmentOffset + view.payloadSize).toNat ≤ capacity

/-- No frame with valid checksums, wherever in the stream it stands, is of a kind that
the checks let through. -/
def Harmless (capacities : List Nat) (stream : Bytes) : Prop :=
  ∀ segment view, segment <:+: stream → acDatalinkDecodeFrame segment = some view →
    ¬Oversized segment ∧ ∀ capacity ∈ capacities, ¬Wraps capacity view

/-! ## The stream buffer -/

/-- The stream buffer keeps its length, and what counts in it was delivered just before
what is still to come. -/
structure Buffered (stream rest : Bytes) (datalink : AcDatalinkController) : Prop where
  length : datalink.rxStream.length = acDatalinkRxStreamSize
  size : datalink.rxStreamSize ≤ acDatalinkRxStreamSize
  front : datalink.rxStream.take datalink.rxStreamSize ++ rest <:+ stream

namespace Buffered

variable {stream rest : Bytes} {datalink : AcDatalinkController}

theorem discard (hbuffered : Buffered stream rest datalink) {count : Nat}
    (hcount : count ≤ datalink.rxStreamSize) :
    Buffered stream rest (datalink.discard count) := by
  have hsize := hbuffered.size
  have hlength := hbuffered.length
  have hkept : ((datalink.rxStream.drop count).take (datalink.rxStreamSize - count)).length =
      datalink.rxStreamSize - count := by
    rw [List.length_take, List.length_drop, hlength]
    omega
  constructor
  · simp only [AcDatalinkController.discard, List.length_append, hkept, List.length_drop, hlength]
    omega
  · exact Nat.le_trans (Nat.sub_le _ _) hsize
  · have hfront : (datalink.discard count).rxStream.take (datalink.discard count).rxStreamSize =
        (datalink.rxStream.take datalink.rxStreamSize).drop count := by
      rw [List.drop_take]
      exact List.take_left' hkept
    rw [hfront]
    refine List.IsSuffix.trans ?_ hbuffered.front
    have hdrop : count ≤ (datalink.rxStream.take datalink.rxStreamSize).length := by
      rw [List.length_take, hlength]
      omega
    rw [← List.drop_append_of_le_length hdrop]
    exact List.drop_suffix _ _

theorem skipNoise (hbuffered : Buffered stream rest datalink) (size : Nat) :
    Buffered stream rest (datalink.skipNoise size) := by
  induction size generalizing datalink with
  | zero => exact hbuffered
  | succ size ih =>
      rw [AcDatalinkController.skipNoise]
      split
      · next hnoise => exact ih (hbuffered.discard hnoise.1)
      · exact hbuffered

theorem store {block rest' : Bytes} (hbuffered : Buffered stream rest datalink)
    (hrest : rest = block ++ rest')
    (hroom : datalink.rxStreamSize + block.length ≤ acDatalinkRxStreamSize) :
    Buffered stream rest' (datalink.store block) := by
  have hlength := hbuffered.length
  constructor
  · exact (poke_length (by rw [hlength]; exact hroom)).trans hlength
  · exact hroom
  · have htake : (datalink.rxStream.take datalink.rxStreamSize ++ block).length =
        datalink.rxStreamSize + block.length := by
      rw [List.length_append, List.length_take_of_le (by omega)]
    have hstored : (datalink.store block).rxStream.take (datalink.store block).rxStreamSize =
        datalink.rxStream.take datalink.rxStreamSize ++ block :=
      List.take_left' htake
    rw [hstored, List.append_assoc, ← hrest]
    exact hbuffered.front

/-- What counts in the buffer was delivered. -/
theorem delivered (hbuffered : Buffered stream rest datalink) {count : Nat}
    (hcount : count ≤ datalink.rxStreamSize) : datalink.rxStream.take count <:+: stream := by
  have hprefix : datalink.rxStream.take count <+:
      datalink.rxStream.take datalink.rxStreamSize ++ rest :=
    (List.take_prefix_take_left hcount).trans (List.prefix_append _ _)
  exact hprefix.isInfix.trans hbuffered.front.isInfix

end Buffered

/-! ## Reading frames -/

section Reading

variable {stream rest : Bytes} {datalink : AcDatalinkController} {timeoutMs : UInt32}

/-- What a read leaves: a buffer in order, and a frame of the stream if it brought one. -/
structure FrameRead (stream rest : Bytes)
    (result : Except AcError AcDatalinkFrameView × AcDatalinkController) : Prop where
  buffered : Buffered stream rest result.2
  frame : ∀ view, result.1 = .ok view →
    ∃ segment, segment <:+: stream ∧ acDatalinkDecodeFrame segment = some view

/-- No frame in the stream is too large for a frame copy. -/
def NoneOversized (stream : Bytes) : Prop :=
  ∀ segment view, segment <:+: stream → acDatalinkDecodeFrame segment = some view →
    ¬Oversized segment

theorem FrameRead.failed {ret : AcError} (hbuffered : Buffered stream rest datalink) :
    FrameRead stream rest (.error ret, datalink) where
  buffered := hbuffered
  frame := by rintro view ⟨⟩

theorem acDatalinkReadLoop_safe (hfits : NoneOversized stream) (bound : Nat)
    (hbuffered : Buffered stream rest datalink) :
    (acDatalinkReadLoop timeoutMs bound datalink).Safe delivering rest
      fun result rest' => FrameRead stream rest' result := by
  induction bound generalizing datalink rest with
  | zero => trivial
  | succ bound ih =>
      rw [acDatalinkReadLoop]
      generalize hskipped : datalink.skipNoise datalink.rxStreamSize = skipped
      have hkept : Buffered stream rest skipped := hskipped ▸ hbuffered.skipNoise _
      generalize acDatalinkFrameSize skipped.rxStream skipped.rxStreamSize = completeSize
      split
      · exact .failed hkept
      · next hsmall =>
          split
          · next hcomplete =>
              have hinfix := hkept.delivered hcomplete.2
              split
              · have hone : 1 ≤ skipped.rxStreamSize := by omega
                exact ih (hkept.discard hone)
              · next view hview =>
                  have hnot := hfits _ view hinfix hview
                  have hlength : (skipped.rxStream.take completeSize).length = completeSize := by
                    have hlong := hkept.length
                    rw [List.length_take]
                    omega
                  rw [Oversized, hlength] at hnot
                  split
                  · omega
                  · exact ⟨hkept.discard hcomplete.2, fun _ hok => ⟨_, hinfix, by cases hok; exact hview⟩⟩
          · split
            · exact .failed hkept
            · next hroom =>
                refine Proc.safe_request_bind.mpr fun reply rest' hreply => ?_
                cases reply with
                | error ret =>
                    obtain rfl : rest' = rest := hreply
                    exact .failed hkept
                | ok buffer =>
                    obtain ⟨hcapacity, hrest⟩ := hreply

                    dsimp only
                    split
                    · next hempty =>
                        obtain rfl : buffer = [] := List.length_eq_zero_iff.mp hempty
                        rw [List.nil_append] at hrest
                        exact hrest ▸ .failed hkept
                    · split
                      · omega
                      · next hroom' => exact ih (hkept.store hrest (by omega))

theorem acDatalinkReadFrame_safe (hfits : NoneOversized stream) (bound : Nat)
    (hbuffered : Buffered stream rest datalink) :
    (acDatalinkReadFrame bound timeoutMs datalink).Safe delivering rest
      fun result rest' => FrameRead stream rest' result := by
  rw [acDatalinkReadFrame]
  split
  · exact .failed hbuffered
  · split
    · exact .failed hbuffered
    · exact acDatalinkReadLoop_safe hfits bound hbuffered

theorem writeBlock_safe (data : Bytes) :
    (writeBlock data timeoutMs).Safe delivering rest fun _ rest' => rest' = rest :=
  fun _ _ hreply => hreply

theorem acDatalinkSendAck_safe (frame : AcDatalinkFrameView) (ok : Bool) :
    (acDatalinkSendAck datalink frame ok timeoutMs).Safe delivering rest
      fun _ rest' => rest' = rest := by
  rw [acDatalinkSendAck]
  split
  · rfl
  · split
    · rfl
    · dsimp only
      split
      · rfl
      · exact writeBlock_safe _

end Reading

/-! ## Sending packets -/

section Sending

variable {stream rest : Bytes} {datalink : AcDatalinkController} {timeoutMs : UInt32}

/-- The statistics and the sequence number are no part of the buffer's order. -/
theorem Buffered.congr {datalink' : AcDatalinkController} (hbuffered : Buffered stream rest datalink)
    (hstream : datalink'.rxStream = datalink.rxStream)
    (hsize : datalink'.rxStreamSize = datalink.rxStreamSize) :
    Buffered stream rest datalink' := by
  constructor
  · rw [hstream]
    exact hbuffered.length
  · rw [hsize]
    exact hbuffered.size
  · rw [hstream, hsize]
    exact hbuffered.front

theorem acDatalinkSendFragment_safe (hfits : NoneOversized stream) (bound : Nat) (frame : Bytes)
    (linkSequence : UInt32) (index attempts : Nat) (hbuffered : Buffered stream rest datalink) :
    (acDatalinkSendFragment bound frame linkSequence index timeoutMs attempts datalink).Safe
      delivering rest fun result rest' => Buffered stream rest' result.2 := by
  induction attempts generalizing datalink rest with
  | zero => exact hbuffered
  | succ attempts ih =>
      rw [acDatalinkSendFragment]
      refine (writeBlock_safe frame).bind fun reply rest' hrest => ?_
      subst hrest
      cases reply with
      | error ret => exact hbuffered
      | ok =>
          refine (acDatalinkReadFrame_safe hfits bound hbuffered).bind fun result rest' hread => ?_
          obtain ⟨ret, datalink'⟩ := result
          have hread' := hread.buffered
          cases ret with
          | error ret => exact ih (hread'.congr rfl rfl)
          | ok ack =>
              dsimp only
              split
              · exact hread'
              · split
                · exact ih (hread'.congr rfl rfl)
                · exact ih hread'

theorem acDatalinkSendFragments_safe (hfits : NoneOversized stream) (bound : Nat)
    (payload : Bytes) (linkSequence : UInt32) (fragmentCapacity fragmentCount left index : Nat)
    (hbuffered : Buffered stream rest datalink) :
    (acDatalinkSendFragments bound payload linkSequence fragmentCapacity fragmentCount timeoutMs
      left index datalink).Safe delivering rest
        fun result rest' => Buffered stream rest' result.2 := by
  induction left generalizing index datalink rest with
  | zero => exact hbuffered.congr rfl rfl
  | succ left ih =>
      rw [acDatalinkSendFragments]
      dsimp only
      split
      · exact hbuffered
      · refine (acDatalinkSendFragment_safe hfits bound _ _ _ _ hbuffered).bind
          fun result rest' hsent => ?_
        obtain ⟨ret, datalink'⟩ := result
        cases ret with
        | error ret => exact hsent
        | ok => exact ih (index + 1) hsent

theorem acDatalinkSendPacket_safe (hfits : NoneOversized stream) (bound : Nat) (payload : Bytes)
    (hbuffered : Buffered stream rest datalink) :
    (acDatalinkSendPacket bound payload timeoutMs datalink).Safe delivering rest
      fun result rest' => Buffered stream rest' result.2 := by
  rw [acDatalinkSendPacket]
  split
  · exact hbuffered
  · split
    · exact hbuffered
    · split
      · exact hbuffered
      · dsimp only
        split
        · exact hbuffered
        · generalize (if _ = 0 then 1 else _) = fragmentCount
          have hnext : Buffered stream rest
              { datalink with nextLinkSequence := datalink.nextLinkSequence + 1 } :=
            hbuffered.congr rfl rfl
          split
          · exact hbuffered
          · exact acDatalinkSendFragments_safe hfits bound payload _ _ _ _ 0 hnext

end Sending

/-! ## Receiving packets -/

/-- The payload of a decoded frame is as long as its size field says. -/
theorem acDatalinkDecodeFrame_payload {data : Bytes} {view : AcDatalinkFrameView}
    (hview : acDatalinkDecodeFrame data = some view) :
    view.payload.length = view.payloadSize.toNat := by
  unfold acDatalinkDecodeFrame at hview
  split at hview
  · cases hview
  · next hlong =>
      split at hview
      · cases hview
      · next hmagic =>
          split at hview
          · cases hview
          · next hsize =>
              dsimp only at hview
              split at hview
              · cases hview
              · split at hview
                · cases hview
                · obtain rfl := Option.some.inj hview
                  rw [not_not, acDatalinkFrameSize, if_neg hlong, if_neg (by simp_all),
                    if_neg (by simp_all)] at hsize
                  dsimp only
                  rw [List.length_drop, hsize, Nat.add_sub_cancel_left]

section Receiving

variable {stream rest : Bytes} {datalink : AcDatalinkController} {timeoutMs : UInt32}

/-- No fragment in the stream slips past the bound check of a buffer. -/
def NoneWraps (capacity : Nat) (stream : Bytes) : Prop :=
  ∀ segment view, segment <:+: stream → acDatalinkDecodeFrame segment = some view →
    ¬Wraps capacity view

theorem acDatalinkFirstFrame_safe (hfits : NoneOversized stream) (bound rounds : Nat)
    (hbuffered : Buffered stream rest datalink) :
    (acDatalinkFirstFrame bound timeoutMs rounds datalink).Safe delivering rest
      fun result rest' => FrameRead stream rest' result := by
  induction rounds generalizing datalink rest with
  | zero => trivial
  | succ rounds ih =>
      rw [acDatalinkFirstFrame]
      refine (acDatalinkReadFrame_safe hfits bound hbuffered).bind fun result rest' hread => ?_
      obtain ⟨ret, datalink'⟩ := result
      cases ret with
      | error ret => exact .failed hread.buffered
      | ok first =>
          dsimp only
          split
          · exact ih hread.buffered
          · exact hread

/-- What a call of `ac_datalink_receive_packet` leaves. -/
structure InBounds (stream rest : Bytes) (capacity : Nat)
    (result : AcReceived × AcDatalinkController) : Prop where
  buffered : Buffered stream rest result.2
  memory : result.1.payload.length = capacity

theorem acDatalinkReceiveFragments_safe (hfits : NoneOversized stream) {capacity : Nat}
    (hwraps : NoneWraps capacity stream) (bound : Nat) (first : AcDatalinkFrameView)
    (left : Nat) (expected : UInt16) (hexpected : 1 ≤ expected.toNat)
    (hcount : expected.toNat + left < 2 ^ 16) {payload : Bytes} (hpayload : payload.length = capacity)
    (hbuffered : Buffered stream rest datalink) :
    (acDatalinkReceiveFragments bound first timeoutMs left expected payload datalink).Safe
      delivering rest fun result rest' => InBounds stream rest' capacity result := by
  induction left generalizing expected payload datalink rest with
  | zero => exact ⟨hbuffered.congr rfl rfl, hpayload⟩
  | succ left ih =>
      rw [acDatalinkReceiveFragments]
      refine (acDatalinkReadFrame_safe hfits bound hbuffered).bind fun result rest' hread => ?_
      obtain ⟨ret, datalink'⟩ := result
      have hbuffered' := hread.buffered
      cases ret with
      | error ret => exact ⟨hbuffered', hpayload⟩
      | ok frame =>
          obtain ⟨segment, hsegment, hdecode⟩ := hread.frame frame rfl
          have hsize := acDatalinkDecodeFrame_payload hdecode
          dsimp only
          split
          · refine (acDatalinkSendAck_safe frame false).bind fun _ rest'' hrest => ?_
            subst hrest
            exact ⟨hbuffered'.congr rfl rfl, hpayload⟩
          · next haccepted =>
              have hflags : frame.flags &&& flagData ≠ 0 := fun h => haccepted (.inl h)
              have hindex : frame.fragmentIndex = expected :=
                not_not.mp fun h => haccepted (.inr (.inr (.inl h)))
              have hchecked : (frame.fragmentOffset + frame.payloadSize).toNat ≤ payload.length :=
                Nat.not_lt.mp fun h => haccepted (.inr (.inr (.inr (.inr h))))
              have hnonzero : frame.fragmentIndex ≠ 0 := by
                intro hzero
                rw [← hindex, hzero] at hexpected
                exact absurd hexpected (by decide)
              have hinside : frame.fragmentOffset.toNat + frame.payloadSize.toNat ≤
                  payload.length := by
                have hwrap := hwraps segment frame hsegment hdecode
                by_cases hlarge : 2 ^ 32 ≤ frame.fragmentOffset.toNat + frame.payloadSize.toNat
                · exact absurd ⟨hflags, hnonzero, hlarge, hpayload ▸ hchecked⟩ hwrap
                · rwa [UInt32.toNat_add, Nat.mod_eq_of_lt (Nat.not_le.mp hlarge)] at hchecked
              rw [if_neg (fun hescapes => absurd hescapes.2 (Nat.not_lt.mpr hinside))]
              have hcopied : (if frame.payloadSize > 0 then
                  poke payload frame.fragmentOffset.toNat frame.payload else payload).length =
                    capacity := by
                split
                · exact (poke_length (hsize ▸ hinside)).trans hpayload
                · exact hpayload
              refine (acDatalinkSendAck_safe frame true).bind fun reply rest'' hrest => ?_
              subst hrest
              cases reply with
              | error ret => exact ⟨hbuffered', hcopied⟩
              | ok =>
                  have hnext : (expected + 1).toNat = expected.toNat + 1 := by
                    rw [UInt16.toNat_add, UInt16.toNat_one]
                    exact Nat.mod_eq_of_lt (by omega)
                  exact ih (expected + 1) (by omega) (by omega) hcopied hbuffered'

theorem acDatalinkReceivePacket_safe (hfits : NoneOversized stream) (bound : Nat) {buffer : Bytes}
    (hwraps : NoneWraps buffer.length stream) (hbuffered : Buffered stream rest datalink) :
    (acDatalinkReceivePacket bound buffer timeoutMs datalink).Safe delivering rest
      fun result rest' => InBounds stream rest' buffer.length result := by
  rw [acDatalinkReceivePacket]
  split
  · exact ⟨hbuffered, rfl⟩
  · refine (acDatalinkFirstFrame_safe hfits bound bound hbuffered).bind fun result rest' hread => ?_
    obtain ⟨ret, datalink'⟩ := result
    have hbuffered' := hread.buffered
    cases ret with
    | error ret => exact ⟨hbuffered', rfl⟩
    | ok first =>
        obtain ⟨segment, hsegment, hdecode⟩ := hread.frame first rfl
        have hsize := acDatalinkDecodeFrame_payload hdecode
        dsimp only
        split
        · exact ⟨hbuffered', rfl⟩
        · next hfirst =>
            split
            · exact ⟨hbuffered', rfl⟩
            · next hroom =>
                split
                · exact ⟨hbuffered', rfl⟩
                · next hpayload =>
                    have hinside : first.payload.length ≤ buffer.length := by
                      have hle := UInt32.not_lt.mp hpayload
                      rw [UInt32.le_iff_toNat_le] at hle
                      omega
                    have hcopied : (if first.payloadSize > 0 then poke buffer 0 first.payload
                        else buffer).length = buffer.length := by
                      split
                      · exact poke_length (by omega)
                      · rfl
                    have hcount : first.fragmentCount.toNat < 2 ^ 16 :=
                      first.fragmentCount.toNat_lt
                    refine (acDatalinkSendAck_safe first true).bind fun reply rest'' hrest => ?_
                    subst hrest
                    cases reply with
                    | error ret => exact ⟨hbuffered', hcopied⟩
                    | ok =>
                        exact acDatalinkReceiveFragments_safe hfits hwraps bound first _ 1
                          (by decide) (by rw [UInt16.toNat_one]; omega) hcopied hbuffered'

end Receiving

/-! ## Sessions -/

section Sessions

variable {stream rest : Bytes} {datalink : AcDatalinkController}

theorem AcCall.run_safe (hfits : NoneOversized stream) (bound : Nat) (call : AcCall)
    (hwraps : NoneWraps call.memory.length stream) (hbuffered : Buffered stream rest datalink) :
    (call.run bound datalink).Safe delivering rest fun result rest' =>
      Buffered stream rest' result.2 ∧ result.1.length = call.memory.length := by
  cases call with
  | send payload timeoutMs =>
      exact (acDatalinkSendPacket_safe hfits bound payload hbuffered).bind
        fun result rest' hsent => ⟨hsent, rfl⟩
  | receive buffer timeoutMs =>
      exact (acDatalinkReceivePacket_safe hfits bound hwraps hbuffered).bind
        fun result rest' hreceived => ⟨hreceived.buffered, hreceived.memory⟩

/-- What a session leaves: a stream buffer in order, and the memory of every call as
long as it was. -/
structure Contained (stream rest : Bytes) (calls : List AcCall)
    (result : List Bytes × AcDatalinkController) : Prop where
  buffered : Buffered stream rest result.2
  memory : result.1.map List.length = calls.map (·.memory.length)

theorem acSession_safe (bound : Nat) (calls : List AcCall)
    (hharmless : Harmless (calls.map (·.memory.length)) stream)
    (hbuffered : Buffered stream rest datalink) :
    (acSession bound calls datalink).Safe delivering rest
      fun result rest' => Contained stream rest' calls result := by
  have hfits : NoneOversized stream := fun segment view hsegment hdecode =>
    (hharmless segment view hsegment hdecode).1
  induction calls generalizing datalink rest with
  | nil => exact ⟨hbuffered, rfl⟩
  | cons call calls ih =>
      have hwraps : NoneWraps call.memory.length stream := fun segment view hsegment hdecode =>
        (hharmless segment view hsegment hdecode).2 _ (List.mem_cons_self)
      have hlater : Harmless (calls.map (·.memory.length)) stream :=
        fun segment view hsegment hdecode =>
          ⟨hfits segment view hsegment hdecode, fun capacity hcapacity =>
            (hharmless segment view hsegment hdecode).2 capacity (List.mem_cons_of_mem _ hcapacity)⟩
      rw [acSession]
      refine (call.run_safe hfits bound hwraps hbuffered).bind fun result rest' hcall => ?_
      refine (ih hlater hcall.1).bind fun later rest'' hrun => ?_
      refine ⟨hrun.buffered, ?_⟩
      rw [List.map_cons, List.map_cons, hcall.2, hrun.memory]

end Sessions

/-! ## The whole life of a link -/

/-- No run of the calls copies outside a buffer, the stream buffer never holds more than
it has room for, and no call changes memory behind its caller's buffer. -/
def StaysInside (datalink : AcDatalinkController) (bound : Nat) (calls : List AcCall)
    (stream : Bytes) : Prop :=
  (acSession bound calls datalink).Safe delivering stream fun result _ =>
    result.2.rxStreamSize ≤ acDatalinkRxStreamSize ∧
      result.2.rxStream.length = acDatalinkRxStreamSize ∧
      result.1.map List.length = calls.map (·.memory.length)

/-- A device that hands out what is left of its stream, as much as fits. -/
def deliverAll : Handler (LinkReply AcError) Bytes
  | .isConnected, rest => some (true, rest)
  | .read _ _, [] => none
  | .read capacity _, rest => some (.ok (rest.take capacity), rest.drop capacity)
  | .write _ _, rest => some (.ok (), rest)
  | .remaining timeoutMs, rest => some (some timeoutMs, rest)

theorem deliverAll_delivering {cmd : LinkCmd} {rest rest' : Bytes} {reply : LinkReply AcError cmd}
    (hreply : deliverAll cmd rest = some (reply, rest')) : delivering cmd rest reply rest' := by
  cases cmd with
  | isConnected =>
      cases hreply
      rfl
  | write data timeoutMs =>
      cases hreply
      rfl
  | remaining timeoutMs =>
      cases hreply
      rfl
  | read capacity timeoutMs =>
      cases rest with
      | nil => cases hreply
      | cons head tail =>
          cases hreply
          exact ⟨List.length_take_le _ _, (List.take_append_drop _ _).symm⟩

/-- A stream too short for a payload is harmless. -/
theorem harmless_of_short (capacities : List Nat) {stream : Bytes}
    (hshort : stream.length ≤ dataLinkHeaderSize) : Harmless capacities stream := by
  intro segment view hsegment hdecode
  have hlength := hsegment.length_le
  have hsize := acDatalinkDecodeFrame_size hdecode
  have hpayload := acDatalinkDecodeFrame_payload hdecode
  rw [viewSize, hpayload] at hsize
  constructor
  · rw [Oversized, acDatalinkMaxFrameSize]
    rw [dataLinkHeaderSize] at hshort
    omega
  · rintro capacity - ⟨_, _, hlarge, _⟩
    have hoffset := view.fragmentOffset.toNat_lt
    omega

/-- The firmware link stays inside its buffers on every stream without an oversized
frame and without a fragment whose end wraps into the buffer. -/
theorem link_stays_inside (ops : Option AcDatalinkOps) (isOpen : Bool) (mtu bound : Nat)
    (calls : List AcCall) (stream : Bytes)
    (hharmless : Harmless (calls.map (·.memory.length)) stream) :
    StaysInside { acDatalinkInit mtu with ops := ops, isOpen := isOpen } bound calls stream := by
  refine (acSession_safe bound calls hharmless ⟨?_, ?_, ?_⟩).mono
    fun result rest' hcontained => ⟨hcontained.buffered.size, hcontained.buffered.length,
      hcontained.memory⟩
  · exact List.length_replicate
  · exact Nat.zero_le _
  · exact List.suffix_rfl

/-- An acknowledgement that arrives while a packet is sent. -/
theorem link_stays_inside_ack :
    StaysInside { acDatalinkInit 0 with ops := some ⟨true, true⟩, isOpen := true } 8
      [.send [1, 2, 3, 4] 100]
      (DataLinkFrameCodec.encode
        { flags := flagAck, linkSequence := 1, transportSize := 4, fragmentCount := 1 }) :=
  link_stays_inside (some ⟨true, true⟩) true 0 8 [.send [1, 2, 3, 4] 100] _
    (harmless_of_short _ (DataLinkFrameCodec.encode_length _).le)

/-- Two fragments with valid checksums, the second of which ends at 2^32 + 4. -/
def wrappingStream : Bytes :=
  DataLinkFrameCodec.encode
      { flags := flagData, linkSequence := 1, transportSize := 8, fragmentCount := 2
        payload := [1, 2, 3, 4] } ++
    DataLinkFrameCodec.encode
      { flags := flagData ||| flagEnd, linkSequence := 1, transportSize := 8
        fragmentOffset := 0xfffffffc, fragmentIndex := 1, fragmentCount := 2
        payload := [1, 2, 3, 4, 5, 6, 7, 8] }

theorem wrappingStream_faults :
    ((acSession 4 [.receive (List.replicate 16 0) 100] (acDatalinkInit 256)).run deliverAll
      wrappingStream).1 = .fault := by
  decide +kernel

/-- The second fragment is copied to an address 4 GiB behind the caller's buffer. -/
theorem link_leaves_buffer : ¬∀ (ops : Option AcDatalinkOps) (isOpen : Bool) (mtu bound : Nat)
    (calls : List AcCall) (stream : Bytes),
    StaysInside { acDatalinkInit mtu with ops := ops, isOpen := isOpen } bound calls stream := by
  intro hinside
  have hsafe := hinside (some ⟨true, true⟩) true 256 4 [.receive (List.replicate 16 0) 100]
    wrappingStream
  exact hsafe.run_ne_fault (fun _ _ _ _ => deliverAll_delivering) wrappingStream_faults

end AudioStudio.DataLink
