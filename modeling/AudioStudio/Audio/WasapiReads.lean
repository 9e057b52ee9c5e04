import AudioStudio.Audio.WasapiDevice

/-!
# Reads of the WASAPI capture device

What a read returns beside the packets it has released, and when runs of reads lose nothing.
-/

namespace AudioStudio.Audio

open AudioStudio.Common
open LittleEndian
open WasapiAudioCaptureDevice (requestedBytes framesToCopy readLoop readFrame)

/-! ## Packets -/

/-- All that a packet holds. -/
def CapturePacket.content (packet : CapturePacket) (frameBytes : Nat) : Bytes :=
  packet.bytes (packet.frames.toNat * frameBytes)

/-- The packets whose release succeeded, in order. -/
def releasedPackets : List WasapiExchange → List CapturePacket
  | ⟨.getBuffer, got⟩ :: ⟨.releaseBuffer _, hr⟩ :: rest =>
      let got : Int32 × CapturePacket := got
      let hr : Int32 := hr
      if hr < 0 then releasedPackets rest else got.2 :: releasedPackets rest
  | _ :: rest => releasedPackets rest
  | [] => []

def framesOf (packets : List CapturePacket) : Nat :=
  (packets.map fun packet => packet.frames.toNat).sum

def contentOf (frameBytes : Nat) (packets : List CapturePacket) : Bytes :=
  packets.flatMap fun packet => packet.content frameBytes

section Packets

variable {packet : CapturePacket} {packets : List CapturePacket} {frameBytes : Nat}

theorem CapturePacket.length_bytes (packet : CapturePacket) (size : Nat) :
    (packet.bytes size).length = size := by
  unfold CapturePacket.bytes
  split
  · rw [List.length_map, List.length_range]
  · exact List.length_replicate

theorem bytes_zero (packet : CapturePacket) {count : UInt32} (hcount : count = 0)
    (frameBytes : Nat) : packet.bytes (count.toNat * frameBytes) = [] := by
  apply List.eq_nil_of_length_eq_zero
  rw [CapturePacket.length_bytes, hcount, UInt32.toNat_zero, Nat.zero_mul]

theorem framesOf_cons : framesOf (packet :: packets) = packet.frames.toNat + framesOf packets := by
  rw [framesOf, List.map_cons, List.sum_cons, framesOf]

theorem contentOf_cons :
    contentOf frameBytes (packet :: packets) =
      packet.content frameBytes ++ contentOf frameBytes packets := by
  rw [contentOf, List.flatMap_cons, contentOf]

theorem length_contentOf (frameBytes : Nat) (packets : List CapturePacket) :
    (contentOf frameBytes packets).length = framesOf packets * frameBytes := by
  induction packets with
  | nil => rw [framesOf, List.map_nil, List.sum_nil, Nat.zero_mul, contentOf, List.flatMap_nil,
      List.length_nil]
  | cons packet packets ih =>
      rw [contentOf_cons, List.length_append, CapturePacket.content, CapturePacket.length_bytes, ih,
        framesOf_cons, Nat.add_mul]

end Packets

/-! ## One read -/

/-- How a loop that has collected so many bytes goes on: the packets it releases, and its result. -/
inductive Collects (frameBytes requested : Nat) :
    Bytes → List CapturePacket → Result Bytes → Prop where
  | full {frame : Bytes} (hfull : ¬frame.length < requested) :
      Collects frameBytes requested frame [] (.ok frame)
  | fails {frame : Bytes} (hmore : frame.length < requested) (status : Status) :
      Collects frameBytes requested frame [] (.error status)
  | stops {frame : Bytes} (hmore : frame.length < requested) (packet : CapturePacket)
      (hcount : framesToCopy packet (requested / frameBytes).toUInt32 frame frameBytes = 0) :
      Collects frameBytes requested frame [packet] (.ok frame)
  | takes {frame : Bytes} (hmore : frame.length < requested) (packet : CapturePacket)
      {packets : List CapturePacket} {result : Result Bytes}
      (hcount : framesToCopy packet (requested / frameBytes).toUInt32 frame frameBytes ≠ 0)
      (hrest : Collects frameBytes requested
        (frame ++ packet.bytes ((framesToCopy packet (requested / frameBytes).toUInt32 frame
          frameBytes).toNat * frameBytes)) packets result) :
      Collects frameBytes requested frame (packet :: packets) result

section Calls

variable {α : Type} {cmd : WasapiCmd} {rest : WasapiReply cmd → WasapiProc α}
  {exchanges : List WasapiExchange} {frameBytes requested : Nat} {startedMs timeoutMs : UInt32}

theorem returns_callWasapi {result : α} :
    (callWasapi cmd >>= rest).Returns exchanges result ↔
      ∃ reply later, exchanges = ⟨cmd, reply⟩ :: later ∧ (rest reply).Returns later result :=
  Iff.rfl

/-- Asking for the time releases nothing. -/
theorem timedOut_returns {expired : Bool}
    (hreturns : (timedOut startedMs timeoutMs).Returns exchanges expired) :
    ∀ later, releasedPackets (exchanges ++ later) = releasedPackets later := by
  unfold timedOut at hreturns
  split at hreturns
  · obtain ⟨rfl, -⟩ := hreturns
    exact fun _ => rfl
  · obtain ⟨now, later, rfl, rfl, -⟩ := returns_callWasapi.mp hreturns
    exact fun _ => rfl

/-- Every run of the loop collects the packets that it releases. -/
theorem readLoop_collects {rounds : Nat} {frame : Bytes} {result : Result Bytes}
    (hreturns : (readLoop frameBytes requested startedMs timeoutMs rounds frame).Returns exchanges
      result) :
    Collects frameBytes requested frame (releasedPackets exchanges) result := by
  induction rounds generalizing frame exchanges with
  | zero => exact hreturns.elim
  | succ rounds ih =>
      unfold readLoop at hreturns
      split at hreturns
      · next hmore =>
          obtain ⟨size, later, rfl, hsize⟩ := returns_callWasapi.mp hreturns
          split_ifs at hsize with hfailed hempty
          · obtain ⟨rfl, rfl⟩ := hsize
            exact .fails hmore _
          · obtain ⟨expired, earlier, later, rfl, htime, hrest⟩ := Proc.returns_bind.mp hsize
            have hkept : releasedPackets
                (⟨.getNextPacketSize, size⟩ :: (earlier ++ later)) = releasedPackets later :=
              timedOut_returns htime later
            rw [hkept]
            split_ifs at hrest
            · obtain ⟨rfl, rfl⟩ := hrest
              exact .fails hmore _
            · obtain ⟨_, later, rfl, hslept⟩ := returns_callWasapi.mp hrest
              have hcollects := ih hslept
              exact hcollects
          · obtain ⟨got, later, rfl, hgot⟩ := returns_callWasapi.mp hsize
            split_ifs at hgot with hrefused
            · obtain ⟨rfl, rfl⟩ := hgot
              exact .fails hmore _
            · obtain ⟨hr, later, rfl, hreleased⟩ := returns_callWasapi.mp hgot
              simp only [releasedPackets]
              split_ifs at hreleased ⊢ with hkept hcount
              · obtain ⟨rfl, rfl⟩ := hreleased
                exact .fails hmore _
              · obtain ⟨rfl, rfl⟩ := hreleased
                have hnone := bytes_zero got.2 hcount frameBytes
                rw [hnone, List.append_nil]
                exact .stops hmore _ hcount
              · exact .takes hmore _ hcount (ih hreleased)
      · next hfull =>
          obtain ⟨rfl, rfl⟩ := hreturns
          exact .full hfull

end Calls

section Collecting

variable {frameBytes frames copied : Nat} {frame : Bytes} {packets : List CapturePacket}
  {result : Result Bytes}

theorem toNat_min (first second : UInt32) :
    (min first second).toNat = min first.toNat second.toNat := by
  change (if first ≤ second then first else second).toNat = _
  split
  · next hle => rw [min_eq_left (UInt32.le_iff_toNat_le.mp hle)]
  · next hgt =>
      rw [UInt32.le_iff_toNat_le, Nat.not_le] at hgt
      rw [min_eq_right hgt.le]

/-- The count of frames to copy, which wraps around the word with the request. -/
theorem toNat_framesToCopy (hbytes : 0 < frameBytes) (hcopied : copied ≤ frames)
    (hframe : frame.length = copied * frameBytes) (packet : CapturePacket) :
    (framesToCopy packet (frames * frameBytes / frameBytes).toUInt32 frame frameBytes).toNat =
      min packet.frames.toNat ((frames - copied) % 2 ^ 32) := by
  have hlacking : (frames.toUInt32 - copied.toUInt32).toNat = (frames - copied) % 2 ^ 32 := by
    rw [UInt32.toNat_sub, UInt32.toNat_ofNat', UInt32.toNat_ofNat']
    omega
  rw [framesToCopy, hframe, Nat.mul_div_cancel _ hbytes, Nat.mul_div_cancel _ hbytes, ← hlacking]
  exact toNat_min packet.frames _

/-- What a chunk adds to what has been collected. -/
theorem length_collected (hframe : frame.length = copied * frameBytes) (packet : CapturePacket)
    (count : Nat) :
    (frame ++ packet.bytes (count * frameBytes)).length = (copied + count) * frameBytes := by
  rw [List.length_append, CapturePacket.length_bytes, hframe, Nat.add_mul]

/-- Packets that add up to what is still lacking are returned whole. -/
theorem Collects.whole_of_sum (hcollects : Collects frameBytes (frames * frameBytes) frame packets
    result) (hbytes : 0 < frameBytes) (hsmall : frames < 2 ^ 32) (hcopied : copied ≤ frames)
    (hframe : frame.length = copied * frameBytes)
    (hsum : framesOf packets = frames - copied) :
    result = .ok (frame ++ contentOf frameBytes packets) := by
  induction hcollects generalizing copied with
  | full hfull => rw [contentOf, List.flatMap_nil, List.append_nil]
  | fails hmore status =>
      rw [hframe] at hmore
      have hless := Nat.lt_of_mul_lt_mul_right hmore
      rw [framesOf, List.map_nil, List.sum_nil] at hsum
      omega
  | stops hmore packet hcount =>
      have hnumber := toNat_framesToCopy hbytes hcopied hframe packet
      rw [hframe] at hmore
      have hless := Nat.lt_of_mul_lt_mul_right hmore
      rw [hcount, UInt32.toNat_zero, Nat.mod_eq_of_lt (by omega)] at hnumber
      rw [framesOf_cons, framesOf, List.map_nil, List.sum_nil] at hsum
      omega
  | takes hmore packet hcount hrest ih =>
      have hnumber := toNat_framesToCopy hbytes hcopied hframe packet
      rw [framesOf_cons] at hsum
      rw [Nat.mod_eq_of_lt (by omega), min_eq_left (by omega)] at hnumber
      rw [hnumber] at ih
      have hwhole := ih (by omega) (length_collected hframe packet _) (by omega)
      rw [hwhole, contentOf_cons, List.append_assoc, CapturePacket.content]

/-- A request of too many frames for the count is never filled. -/
theorem Collects.short_of_wrapped {whole : Bytes} (hcollects : Collects frameBytes
    (frames * frameBytes) frame packets (.ok whole)) (hbytes : 0 < frameBytes)
    (hlong : 2 ^ 32 ≤ frames - copied) (hframe : frame.length = copied * frameBytes) :
    whole.length < frames * frameBytes := by
  generalize hresult : (.ok whole : Result Bytes) = result at hcollects
  induction hcollects generalizing copied with
  | full hfull =>
      rw [hframe] at hfull
      exact absurd (Nat.mul_lt_mul_of_pos_right (by omega : copied < frames) hbytes) hfull
  | fails hmore status => cases hresult
  | stops hmore packet hcount =>
      cases hresult
      exact hmore
  | takes hmore packet hcount hrest ih =>
      have hnumber := toNat_framesToCopy hbytes (by omega : copied ≤ frames) hframe packet
      rw [hnumber] at ih
      refine ih ?_ (length_collected hframe packet _) hresult
      omega

/-- A read that fails has released something, unless it has released no packet. -/
theorem Collects.nil_of_error {status : Status} (hcollects : Collects frameBytes
    (frames * frameBytes) frame packets (.error status)) (hbytes : 0 < frameBytes)
    (hnothing : contentOf frameBytes packets = []) : packets = [] := by
  cases hcollects with
  | fails hmore status => rfl
  | takes hmore packet hcount hrest =>
      refine absurd ?_ hcount
      have hlength := congrArg List.length hnothing
      rw [length_contentOf, List.length_nil, framesOf_cons, Nat.mul_eq_zero] at hlength
      have hempty : packet.frames = 0 := UInt32.toNat_inj.mp (by rw [UInt32.toNat_zero]; omega)
      rw [framesToCopy, hempty, ← UInt32.toNat_inj, toNat_min, UInt32.toNat_zero, Nat.zero_min]

/-- A read that has released no packet has failed. -/
theorem Collects.error_of_nil {requested : Nat}
    (hcollects : Collects frameBytes requested [] packets result) (hnone : packets = [])
    (hrequested : 0 < requested) : ∃ status, result = .error status := by
  cases hcollects with
  | full hfull => exact absurd hrequested hfull
  | fails hmore status => exact ⟨status, rfl⟩
  | stops hmore packet hcount => cases hnone
  | takes hmore packet hcount hrest => cases hnone

end Collecting

/-! ## Reads -/

/-- A call that has returned: the size of its frame, its exchanges with the client, its result. -/
structure CaptureRead where
  frameSize : Nat
  exchanges : List WasapiExchange
  result : Result Bytes

namespace CaptureRead

def returned (read : CaptureRead) : Bytes :=
  match read.result with
  | .ok frame => frame
  | .error _ => []

def released (frameBytes : Nat) (read : CaptureRead) : Bytes :=
  contentOf frameBytes (releasedPackets read.exchanges)

def requestedFrames (frameBytes : Nat) (read : CaptureRead) : Nat :=
  requestedBytes read.frameSize frameBytes / frameBytes

/-- The read returns what it has released, and a frame of the requested size if it succeeds. -/
structure Exact (frameBytes : Nat) (read : CaptureRead) : Prop where
  returned_eq : read.returned = read.released frameBytes
  sized : ∀ frame, read.result = .ok frame →
    frame.length = requestedBytes read.frameSize frameBytes

/-- The packets that the read has released are none, or they add up to the request. -/
def Fits (frameBytes : Nat) (read : CaptureRead) : Prop :=
  releasedPackets read.exchanges = [] ∨
    framesOf (releasedPackets read.exchanges) = read.requestedFrames frameBytes ∧
      read.requestedFrames frameBytes < 2 ^ 32

end CaptureRead

section Reads

variable {frameBytes frameSize rounds : Nat} {timeoutMs : UInt32}
  {exchanges : List WasapiExchange} {result : Result Bytes}
  {device device' : WasapiAudioCaptureDevice}

/-- A request is rounded to whole frames, at least one. -/
theorem requestedBytes_eq (hbytes : 0 < frameBytes) (frameSize : Nat) :
    requestedBytes frameSize frameBytes =
        requestedBytes frameSize frameBytes / frameBytes * frameBytes ∧
      0 < requestedBytes frameSize frameBytes / frameBytes := by
  have hmultiple : ∃ frames, requestedBytes frameSize frameBytes = (frames + 1) * frameBytes := by
    unfold requestedBytes
    dsimp only
    generalize (if frameSize = 0 then frameBytes * 256 else frameSize) / frameBytes = frames
    rcases frames with - | frames
    · exact ⟨0, by rw [Nat.zero_mul, Nat.max_zero, Nat.zero_add, Nat.one_mul]⟩
    · exact ⟨frames, max_eq_right (Nat.le_mul_of_pos_left _ frames.succ_pos)⟩
  obtain ⟨frames, hframes⟩ := hmultiple
  rw [hframes, Nat.mul_div_cancel _ hbytes]
  exact ⟨rfl, frames.succ_pos⟩

theorem ensureStarted_returns {status : Result Unit}
    (hreturns : device.ensureStarted.Returns exchanges (status, device')) :
    device'.frameBytes = device.frameBytes ∧
      ∀ later, releasedPackets (exchanges ++ later) = releasedPackets later := by
  unfold WasapiAudioCaptureDevice.ensureStarted at hreturns
  split at hreturns
  · obtain ⟨rfl, heq⟩ := hreturns
    cases heq
    exact ⟨rfl, fun _ => rfl⟩
  · obtain ⟨reply, later, rfl, hreply⟩ := returns_callWasapi.mp hreturns
    cases reply with
    | error status =>
        obtain ⟨rfl, heq⟩ := hreply
        cases heq
        exact ⟨rfl, fun _ => rfl⟩
    | ok value =>
        obtain ⟨rfl, heq⟩ := hreply
        cases heq
        exact ⟨rfl, fun _ => rfl⟩

/-- A read fails and releases nothing, or it collects packets. -/
theorem readFrame_collects
    (hreturns : (readFrame rounds frameSize timeoutMs device).Returns exchanges
      (result, device')) :
    device'.frameBytes = device.frameBytes ∧
      ((releasedPackets exchanges = [] ∧ ∃ status, result = .error status) ∨
        0 < device.frameBytes ∧
          Collects device.frameBytes (requestedBytes frameSize device.frameBytes) []
            (releasedPackets exchanges) result) := by
  unfold readFrame at hreturns
  split at hreturns
  · obtain ⟨rfl, heq⟩ := hreturns
    cases heq
    exact ⟨rfl, .inl ⟨rfl, _, rfl⟩⟩
  · next hrunning =>
      obtain ⟨⟨status, started⟩, earlier, later, rfl, hstarts, hrest⟩ :=
        Proc.returns_bind.mp hreturns
      obtain ⟨hframeBytes, hnothing⟩ := ensureStarted_returns hstarts
      rw [hnothing later]
      cases status with
      | error status =>
          obtain ⟨rfl, heq⟩ := hrest
          cases heq
          exact ⟨hframeBytes, .inl ⟨rfl, _, rfl⟩⟩
      | ok value =>
          obtain ⟨startedMs, later, rfl, hloop⟩ := returns_callWasapi.mp hrest
          obtain ⟨outcome, collected, last, rfl, hcollects, hlast⟩ := Proc.returns_bind.mp hloop
          obtain ⟨rfl, heq⟩ := hlast
          cases heq
          have hpositive := device.frameBytes_pos (by simpa using hrunning)
          have hcollected := readLoop_collects hcollects
          rw [List.append_nil, ← hframeBytes]
          exact ⟨rfl, .inr ⟨hframeBytes ▸ hpositive, hcollected⟩⟩

theorem collects_exact_iff (hbytes : 0 < frameBytes)
    (hcollects : Collects frameBytes (requestedBytes frameSize frameBytes) []
      (releasedPackets exchanges) result) :
    CaptureRead.Exact frameBytes ⟨frameSize, exchanges, result⟩ ↔
      CaptureRead.Fits frameBytes ⟨frameSize, exchanges, result⟩ := by
  obtain ⟨hwhole, hsome⟩ := requestedBytes_eq hbytes frameSize
  have hstart : ([] : Bytes).length = 0 * frameBytes := by rw [Nat.zero_mul, List.length_nil]
  rw [hwhole] at hcollects
  constructor
  · rintro ⟨hreturned, hsized⟩
    cases result with
    | ok frame =>
        have hsize : frame.length = requestedBytes frameSize frameBytes := hsized frame rfl
        rw [CaptureRead.returned, CaptureRead.released] at hreturned
        have hlengths := congrArg List.length hreturned
        rw [hsize, length_contentOf, hwhole] at hlengths
        refine .inr ⟨(Nat.eq_of_mul_eq_mul_right hbytes hlengths).symm, ?_⟩
        by_contra hwraps
        have hshort := hcollects.short_of_wrapped hbytes (Nat.le_of_not_lt hwraps) hstart
        rw [← hwhole, hsize] at hshort
        exact lt_irrefl _ hshort
    | error status => exact .inl (hcollects.nil_of_error hbytes hreturned.symm)
  · rintro (hnone | ⟨hsum, hsmall⟩)
    · have hfails := hcollects.error_of_nil hnone (Nat.mul_pos hsome hbytes)
      obtain ⟨status, rfl⟩ := hfails
      refine ⟨?_, nofun⟩
      rw [CaptureRead.released, hnone]
      rfl
    · have hresult := hcollects.whole_of_sum hbytes hsmall (Nat.zero_le _) hstart hsum
      subst hresult
      refine ⟨rfl, ?_⟩
      rintro frame hframe
      cases hframe
      rw [List.nil_append, length_contentOf, hsum]
      exact hwhole.symm

/-- A read is exact exactly when what it releases is nothing or adds up to its request. -/
theorem exact_iff
    (hreturns : (readFrame rounds frameSize timeoutMs device).Returns exchanges
      (result, device')) :
    CaptureRead.Exact device.frameBytes ⟨frameSize, exchanges, result⟩ ↔
      CaptureRead.Fits device.frameBytes ⟨frameSize, exchanges, result⟩ := by
  obtain ⟨-, houtcome⟩ := readFrame_collects hreturns
  rcases houtcome with ⟨hnone, status, rfl⟩ | ⟨hbytes, hcollects⟩
  · refine iff_of_true ⟨?_, nofun⟩ (.inl hnone)
    rw [CaptureRead.released, hnone]
    rfl
  · exact collects_exact_iff hbytes hcollects

end Reads

/-! ## Runs of reads -/

/-- Calls one after another, each of which has returned. -/
inductive Reads : WasapiAudioCaptureDevice → List CaptureRead → Prop where
  | nil (device : WasapiAudioCaptureDevice) : Reads device []
  | cons {device next : WasapiAudioCaptureDevice} {rounds frameSize : Nat} {timeoutMs : UInt32}
      {exchanges : List WasapiExchange} {result : Result Bytes} {reads : List CaptureRead}
      (hread : (readFrame rounds frameSize timeoutMs device).Returns exchanges (result, next))
      (hrest : Reads next reads) : Reads device (⟨frameSize, exchanges, result⟩ :: reads)

/-- Whenever no call is in progress, the frames returned so far are the packets released so far;
and every frame has the size that was requested. -/
structure LosesNothing (frameBytes : Nat) (reads : List CaptureRead) : Prop where
  returned_eq : ∀ count, (reads.take count).flatMap CaptureRead.returned =
    (reads.take count).flatMap (CaptureRead.released frameBytes)
  sized : ∀ read ∈ reads, ∀ frame, read.result = .ok frame →
    frame.length = requestedBytes read.frameSize frameBytes

/-- Two maps agree on what every beginning of a list is mapped to when they agree on its items. -/
theorem flatMap_take_eq_iff {α β : Type} {first second : α → List β} (items : List α) :
    (∀ count, (items.take count).flatMap first = (items.take count).flatMap second) ↔
      ∀ item ∈ items, first item = second item := by
  induction items with
  | nil => exact iff_of_true (fun _ => by rw [List.take_nil]; rfl) nofun
  | cons item items ih =>
      rw [List.forall_mem_cons, ← ih]
      constructor
      · intro hagree
        have hitem : first item = second item := by
          have hone := hagree 1
          rwa [List.take_succ_cons, List.take_zero, List.flatMap_singleton,
            List.flatMap_singleton] at hone
        refine ⟨hitem, fun count => ?_⟩
        have hmore := hagree (count + 1)
        rwa [List.take_succ_cons, List.flatMap_cons, List.flatMap_cons, hitem,
          List.append_cancel_left_eq] at hmore
      · rintro ⟨hitem, hagree⟩ count
        cases count with
        | zero => rfl
        | succ count =>
            rw [List.take_succ_cons, List.flatMap_cons, List.flatMap_cons, hitem, hagree]

theorem losesNothing_iff (frameBytes : Nat) (reads : List CaptureRead) :
    LosesNothing frameBytes reads ↔ ∀ read ∈ reads, read.Exact frameBytes := by
  constructor
  · rintro ⟨hreturned, hsized⟩ read hread
    exact ⟨(flatMap_take_eq_iff reads).mp hreturned read hread, hsized read hread⟩
  · intro hexact
    exact ⟨(flatMap_take_eq_iff reads).mpr fun read hread => (hexact read hread).returned_eq,
      fun read hread => (hexact read hread).sized⟩

/-- A run of reads loses nothing exactly when every read of it releases no packet, or packets that
add up to its request. -/
theorem reads_lose_nothing_iff {device : WasapiAudioCaptureDevice} {reads : List CaptureRead}
    (hreads : Reads device reads) :
    LosesNothing device.frameBytes reads ↔ ∀ read ∈ reads, read.Fits device.frameBytes := by
  rw [losesNothing_iff]
  induction hreads with
  | nil device => exact iff_of_true nofun nofun
  | cons hread hrest ih =>
      rw [List.forall_mem_cons, List.forall_mem_cons, exact_iff hread]
      rw [(readFrame_collects hread).1] at ih
      rw [ih]

/-! ### Two runs -/

/-- A device with a started client and frames of two bytes. -/
def twoByteDevice : WasapiAudioCaptureDevice where
  running := true
  clientStarted := true
  frameBytes := 2
  frameBytes_pos _ := by decide

/-- A packet of equal bytes. -/
def packetOf (frames : UInt32) (byte : UInt8) : CapturePacket := ⟨frames, false, some fun _ => byte⟩

/-- Two frames are requested, and a packet of one frame comes twice. -/
def twoPackets : CaptureRead where
  frameSize := 4
  exchanges :=
    [⟨.getTickCount, (0 : UInt32)⟩, ⟨.getNextPacketSize, ((0, 1) : Int32 × UInt32)⟩,
      ⟨.getBuffer, ((0, packetOf 1 5) : Int32 × CapturePacket)⟩, ⟨.releaseBuffer 1, (0 : Int32)⟩,
      ⟨.getNextPacketSize, ((0, 1) : Int32 × UInt32)⟩,
      ⟨.getBuffer, ((0, packetOf 1 6) : Int32 × CapturePacket)⟩, ⟨.releaseBuffer 1, (0 : Int32)⟩]
  result := .ok [5, 5, 6, 6]

theorem twoPackets_read : Reads twoByteDevice [twoPackets] := by
  have hread : (readFrame 3 4 20 twoByteDevice).Returns twoPackets.exchanges
      (twoPackets.result, twoByteDevice) :=
    ⟨0, _, rfl, (0, 1), _, rfl, (0, packetOf 1 5), _, rfl, 0, _, rfl, (0, 1), _, rfl,
      (0, packetOf 1 6), _, rfl, 0, _, rfl, rfl, rfl⟩
  exact .cons hread (.nil _)

theorem reads_lose_nothing_two :
    LosesNothing 2 [twoPackets] ↔ ∀ read ∈ [twoPackets], read.Fits 2 :=
  reads_lose_nothing_iff twoPackets_read

/-- Two frames are requested, and a packet of three comes. -/
def longPacket : CaptureRead where
  frameSize := 4
  exchanges :=
    [⟨.getTickCount, (0 : UInt32)⟩, ⟨.getNextPacketSize, ((0, 3) : Int32 × UInt32)⟩,
      ⟨.getBuffer, ((0, packetOf 3 5) : Int32 × CapturePacket)⟩, ⟨.releaseBuffer 3, (0 : Int32)⟩]
  result := .ok [5, 5, 5, 5]

/-- The third frame is released and never returned. -/
theorem longPacket_loses :
    ¬∀ device reads, Reads device reads → LosesNothing device.frameBytes reads := by
  intro hclaim
  have hread : (readFrame 2 4 20 twoByteDevice).Returns longPacket.exchanges
      (longPacket.result, twoByteDevice) :=
    ⟨0, _, rfl, (0, 3), _, rfl, (0, packetOf 3 5), _, rfl, 0, _, rfl, rfl, rfl⟩
  have hreturned := (hclaim twoByteDevice [longPacket] (.cons hread (.nil _))).returned_eq 1
  exact absurd (congrArg List.length hreturned) (by decide)

end AudioStudio.Audio
