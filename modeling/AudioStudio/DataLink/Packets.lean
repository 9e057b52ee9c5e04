import AudioStudio.DataLink.FirmwareTracking
import AudioStudio.DataLink.HostTracking

/-!
# The packets of a session

The fragments of a packet put together again are the packet, and the fragments of
a session's packets can all be told apart, as long as sizes and the number of
packets fit the header's fields.
-/

namespace AudioStudio.DataLink

open LittleEndian
open StopAndWait
open Wire
open DataLinkFrameCodec

/-! ## Reassembly -/

variable {payload : Bytes} {capacity index : Nat}

theorem fragment_offset (hoffset : index * capacity ≤ payload.length)
    (hpayload : payload.length < 2 ^ 32) (linkSequence : UInt32) (count : Nat) :
    (fragment payload linkSequence capacity count index).fragmentOffset.toNat =
      index * capacity :=
  UInt32.toNat_ofNat_of_lt' (Nat.lt_of_le_of_lt hoffset hpayload)

/-- The offset of a packet's fragment lies inside the packet. -/
theorem offset_le (hcapacity : 0 < capacity) (hindex : index < fragmentCount payload capacity) :
    index * capacity ≤ payload.length := by
  rw [fragmentCount] at hindex
  cases index with
  | zero => simp
  | succ index =>
      have hlt : index + 1 < (payload.length + capacity - 1) / capacity := by omega
      have hmul := (Nat.lt_div_iff_mul_lt hcapacity).mp hlt
      omega

theorem length_le_count (hcapacity : 0 < capacity) :
    payload.length ≤ fragmentCount payload capacity * capacity := by
  have hmod := Nat.mod_lt (payload.length + capacity - 1) hcapacity
  have hdiv := Nat.div_add_mod (payload.length + capacity - 1) capacity
  have hle : (payload.length + capacity - 1) / capacity ≤ fragmentCount payload capacity :=
    Nat.le_max_right _ _
  have hmul := Nat.mul_le_mul_right capacity hle
  rw [Nat.mul_comm capacity] at hdiv
  omega

variable {buffer : Bytes}

/-- Copying the next fragment extends the part of the buffer that is already right. -/
theorem poke_fragment (hoffset : index * capacity ≤ payload.length) :
    poke (payload.take (index * capacity) ++ buffer.drop (index * capacity)) (index * capacity)
        ((payload.drop (index * capacity)).take capacity) =
      payload.take ((index + 1) * capacity) ++
        buffer.drop (min ((index + 1) * capacity) payload.length) := by
  have hfront : (payload.take (index * capacity)).length = index * capacity :=
    List.length_take_of_le hoffset
  have hend : index * capacity + ((payload.drop (index * capacity)).take capacity).length =
      min ((index + 1) * capacity) payload.length := by
    rw [List.length_take, List.length_drop, Nat.succ_mul]
    omega
  rw [poke, List.take_left' hfront, ← List.take_add, ← Nat.succ_mul, hend, List.drop_append,
    List.drop_of_length_le (by rw [hfront]; omega), hfront, List.nil_append, List.drop_drop]
  rw [show index * capacity + (min ((index + 1) * capacity) payload.length - index * capacity) =
    min ((index + 1) * capacity) payload.length by rw [Nat.succ_mul]; omega]

theorem assemble_fragmentsFrom (hcapacity : 0 < capacity) (hpayload : payload.length < 2 ^ 32)
    (linkSequence : UInt32) (rest index : Nat)
    (hindex : index + rest = fragmentCount payload capacity) :
    assemble (payload.take (index * capacity) ++
        buffer.drop (min (index * capacity) payload.length))
      (fragmentsFrom payload linkSequence capacity (fragmentCount payload capacity) index rest) =
    payload ++ buffer.drop payload.length := by
  induction rest generalizing index with
  | zero =>
      have hle : payload.length ≤ _ := length_le_count hcapacity
      rw [← hindex, Nat.add_zero] at hle
      rw [fragmentsFrom, List.range'_zero, List.map_nil, assemble, List.foldl_nil,
        List.take_of_length_le hle, Nat.min_eq_right hle]
  | succ rest ih =>
      have hoffset := offset_le hcapacity (by omega : index < fragmentCount payload capacity)
      rw [fragmentsFrom_succ, assemble, List.foldl_cons, ← assemble,
        fragment_offset hoffset hpayload, Nat.min_eq_left hoffset]
      rw [show (fragment payload linkSequence capacity (fragmentCount payload capacity)
        index).payload = (payload.drop (index * capacity)).take capacity from rfl,
        poke_fragment hoffset]
      exact ih (index + 1) (by omega)

/-- A buffer starts with the packet after its fragments were copied. -/
theorem assemble_fragments (hcapacity : 0 < capacity) (hpayload : payload.length < 2 ^ 32)
    (linkSequence : UInt32) :
    assemble buffer (fragments payload linkSequence capacity) =
      payload ++ buffer.drop payload.length := by
  simpa [fragments] using assemble_fragmentsFrom hcapacity hpayload linkSequence
    (fragmentCount payload capacity) 0 (Nat.zero_add _)

variable {linkSequence : UInt32} {first : DataLinkFrame}

theorem fragments_head (hhead : (fragments payload linkSequence capacity).head? = some first) :
    first = fragment payload linkSequence capacity (fragmentCount payload capacity) 0 := by
  have hcount : fragmentCount payload capacity ≠ 0 := by
    rw [fragmentCount]
    omega
  obtain ⟨count, hcount⟩ := Nat.exists_eq_succ_of_ne_zero hcount
  rw [fragments, hcount, Nat.succ_eq_add_one, fragmentsFrom_succ] at hhead
  rw [hcount]
  cases hhead
  rfl

theorem content_fragments (hcapacity : 0 < capacity) (hpayload : payload.length < 2 ^ 32)
    (hhead : (fragments payload linkSequence capacity).head? = some first) :
    DataLinkManager.content first (fragments payload linkSequence capacity) = payload := by
  have hsize : first.transportSize.toNat = payload.length := by
    rw [fragments_head hhead]
    exact UInt32.toNat_ofNat_of_lt' hpayload
  rw [DataLinkManager.content, hsize, assemble_fragments hcapacity hpayload]
  simp

theorem acContent_fragments (hcapacity : 0 < capacity) (hpayload : payload.length < 2 ^ 32)
    (hhead : (fragments payload linkSequence capacity).head? = some first) :
    acContent buffer first (fragments payload linkSequence capacity) = payload := by
  have hsize : first.transportSize.toNat = payload.length := by
    rw [fragments_head hhead]
    exact UInt32.toNat_ofNat_of_lt' hpayload
  rw [acContent, hsize, assemble_fragments hcapacity hpayload, List.take_left]

/-! ## Telling fragments apart -/

theorem getElem?_fragments (hindex : index < fragmentCount payload capacity) :
    (fragments payload linkSequence capacity)[index]? =
      some (fragment payload linkSequence capacity (fragmentCount payload capacity) index) := by
  simp [fragments, fragmentsFrom, hindex]

theorem fragments_length (payload : Bytes) (linkSequence : UInt32) (capacity : Nat) :
    (fragments payload linkSequence capacity).length = fragmentCount payload capacity := by
  simp [fragments, fragmentsFrom]

variable {frame : DataLinkFrame}

theorem mem_fragments (hmem : frame ∈ fragments payload linkSequence capacity) :
    ∃ index < fragmentCount payload capacity,
      frame = fragment payload linkSequence capacity (fragmentCount payload capacity) index := by
  obtain ⟨index, hindex, rfl⟩ := List.mem_iff_getElem.mp hmem
  rw [fragments_length] at hindex
  refine ⟨index, hindex, ?_⟩
  have hget : (fragments payload linkSequence capacity)[index]? = _ := getElem?_fragments hindex
  exact (List.getElem?_eq_some_iff.mp hget).2

theorem fragment_data (payload : Bytes) (linkSequence : UInt32) (capacity count index : Nat) :
    (fragment payload linkSequence capacity count index).flags &&& flagData ≠ 0 := by
  simp only [fragment]
  split <;> decide

theorem fragment_isNext (payload : Bytes) (linkSequence : UInt32) (capacity count index : Nat) :
    isNext (fragment payload linkSequence capacity count 0) index
      (fragment payload linkSequence capacity count index) = true :=
  isNext_iff.mpr ⟨fragment_data payload linkSequence capacity count index, rfl, rfl⟩

/-- The end of a fragment lies inside the packet. -/
theorem fragment_end_le (count : Nat) (hoffset : index * capacity ≤ payload.length)
    (hsize : payload.length < 2 ^ 32) (linkSequence : UInt32) :
    (fragment payload linkSequence capacity count index).fragmentOffset.toNat +
      (fragment payload linkSequence capacity count index).payload.length ≤ payload.length := by
  rw [fragment_offset hoffset hsize]
  simp only [fragment, List.length_take, List.length_drop]
  omega

theorem take_fragments_succ (hindex : index < fragmentCount payload capacity) :
    (fragments payload linkSequence capacity).take (index + 1) =
      (fragments payload linkSequence capacity).take index ++
        [fragment payload linkSequence capacity (fragmentCount payload capacity) index] := by
  rw [List.take_add_one, getElem?_fragments hindex]
  rfl

theorem answers_makeAck (frame : DataLinkFrame) :
    answersFragment (makeAck frame) frame = true := by
  have hflags : flagAck ≠ 0 := by decide
  simp [answersFragment, makeAck, hflags]

/-- What every format for data-link frames has in common. -/
structure LinkFormat (format : Format DataLinkFrame) : Prop where
  opens : ∀ frame rest, format.opens frame = some rest →
    frame.fragmentOffset = 0 ∧ rest = frame.fragmentCount.toNat - 1
  continues : ∀ first index frame, format.continues first index frame = true →
    isNext first index frame = true
  ack : format.ack = makeAck
  refusal : ∀ first index frame reply, reply ∈ format.refusal first index frame →
    reply = makeNak frame
  answers : format.answers = answersFragment

theorem hostFormat_link : LinkFormat hostFormat where
  opens frame rest hopens := by
    simp only [hostFormat] at hopens
    split at hopens
    · cases hopens
    · next hgood =>
        cases hopens
        exact ⟨not_not.mp fun h => hgood (.inr (.inl h)), rfl⟩
  continues first index frame hcontinues := by
    simp only [hostFormat, Bool.and_eq_true] at hcontinues
    exact hcontinues.1.1
  ack := rfl
  refusal first index frame reply hmem := by
    simp only [hostFormat] at hmem
    split at hmem
    · cases hmem
    · exact List.mem_singleton.mp hmem
  answers := rfl

theorem acFormat_link (capacity : Nat) : LinkFormat (acFormat capacity) where
  opens frame rest hopens := by
    simp only [acFormat] at hopens
    split at hopens
    · cases hopens
    · next hgood =>
        cases hopens
        exact ⟨not_not.mp fun h => hgood (.inr (.inl h)), rfl⟩
  continues first index frame hcontinues := by
    simp only [acFormat, Bool.and_eq_true] at hcontinues
    exact hcontinues.1.1
  ack := rfl
  refusal first index frame reply hmem := List.mem_singleton.mp hmem
  answers := rfl

/-- A session whose packets fit the fields of the header. -/
structure Bounded (accepts : Bytes → Bool) (capacity : Nat) (payloads : List Bytes) : Prop where
  capacity_pos : 0 < capacity
  count : ∀ payload, accepts payload = true → fragmentCount payload capacity ≤ 0xffff
  size : ∀ payload ∈ payloads, payload.length < 2 ^ 32
  packets : payloads.length ≤ 2 ^ 32

variable {accepts : Bytes → Bool} {next : UInt32} {payloads : List Bytes}
  {frames : List DataLinkFrame}

theorem mem_sessionFrames (hmem : frames ∈ sessionFrames accepts capacity next payloads)
    (hne : frames ≠ []) :
    ∃ payload ∈ payloads, ∃ k < payloads.length, accepts payload = true ∧
      frames = fragments payload (next + UInt32.ofNat k) capacity := by
  induction payloads generalizing next with
  | nil => cases hmem
  | cons payload payloads ih =>
      rw [sessionFrames] at hmem
      split at hmem
      · next haccepts =>
          rcases List.mem_cons.mp hmem with rfl | hmem
          · exact ⟨payload, List.mem_cons_self, 0, by simp, haccepts, by simp⟩
          · obtain ⟨other, hother, k, hk, haccepts, rfl⟩ := ih hmem
            refine ⟨other, List.mem_cons_of_mem _ hother, k + 1, by simpa using hk, haccepts, ?_⟩
            rw [UInt32.ofNat_add, UInt32.add_comm (UInt32.ofNat k), UInt32.add_assoc]
            rfl
      · rcases List.mem_cons.mp hmem with rfl | hmem
        · exact absurd rfl hne
        · obtain ⟨other, hother, k, hk, haccepts, rfl⟩ := ih hmem
          exact ⟨other, List.mem_cons_of_mem _ hother, k, by simp; omega, haccepts, rfl⟩

theorem getElem?_sessionFrames {k : Nat}
    (hframes : (sessionFrames accepts capacity next payloads)[k]? = some frames) (hne : frames ≠ [])
    :
    ∃ payload linkSequence, payloads[k]? = some payload ∧
      frames = fragments payload linkSequence capacity := by
  induction payloads generalizing next k with
  | nil => cases hframes
  | cons payload payloads ih =>
      rw [sessionFrames] at hframes
      cases k with
      | zero =>
          split at hframes
          · cases hframes
            exact ⟨payload, next, rfl, rfl⟩
          · cases hframes
            exact absurd rfl hne
      | succ k =>
          split at hframes
          · exact ih hframes
          · exact ih hframes

theorem sequence_of_mem (hframes : frames ∈ sessionFrames accepts capacity next payloads)
    (hframe : frame ∈ frames) :
    ∃ k < payloads.length, frame.linkSequence = next + UInt32.ofNat k := by
  obtain ⟨payload, _, k, hk, _, rfl⟩ :=
    mem_sessionFrames hframes (List.ne_nil_of_mem hframe)
  obtain ⟨index, _, rfl⟩ := mem_fragments hframe
  exact ⟨k, hk, rfl⟩

/-- Different packets of a session never share a link sequence number. -/
theorem sessionFrames_pairwise (hpackets : payloads.length ≤ 2 ^ 32) :
    (sessionFrames accepts capacity next payloads).Pairwise fun frames later =>
      ∀ frame ∈ frames, ∀ other ∈ later, frame.linkSequence ≠ other.linkSequence := by
  induction payloads generalizing next with
  | nil => exact .nil
  | cons payload payloads ih =>
      rw [List.length_cons] at hpackets
      rw [sessionFrames]
      split
      · refine .cons ?_ (ih (by omega))
        intro later hlater frame hframe other hother hsame
        obtain ⟨k, hk, hsequence⟩ := sequence_of_mem hlater hother
        obtain ⟨index, _, rfl⟩ := mem_fragments hframe
        have hfirst : next = next + 1 + UInt32.ofNat k := hsame.trans hsequence
        rw [UInt32.add_assoc] at hfirst
        have hzero : (1 + UInt32.ofNat k).toNat = 0 := by
          rw [UInt32.left_eq_add.mp hfirst]
          rfl
        rw [UInt32.toNat_add, UInt32.toNat_ofNat_of_lt' (by rw [UInt32.size]; omega)] at hzero
        have hone : (1 : UInt32).toNat = 1 := rfl
        omega
      · exact .cons (fun later _ frame hframe => by cases hframe) (ih (by omega))

theorem sessionFrames_same (hpackets : payloads.length ≤ 2 ^ 32) {later : List DataLinkFrame}
    {other : DataLinkFrame} (hframes : frames ∈ sessionFrames accepts capacity next payloads)
    (hlater : later ∈ sessionFrames accepts capacity next payloads) (hframe : frame ∈ frames)
    (hother : other ∈ later) (hsame : frame.linkSequence = other.linkSequence) :
    frames = later := by
  have hpairwise : (sessionFrames accepts capacity next payloads).Pairwise _ :=
    sessionFrames_pairwise hpackets
  rw [List.pairwise_iff_getElem] at hpairwise
  obtain ⟨j, hj, rfl⟩ := List.mem_iff_getElem.mp hframes
  obtain ⟨k, hk, rfl⟩ := List.mem_iff_getElem.mp hlater
  rcases Nat.lt_trichotomy j k with hlt | rfl | hgt
  · exact absurd hsame (hpairwise j k hj hk hlt frame hframe other hother)
  · rfl
  · exact absurd hsame.symm (hpairwise k j hk hj hgt other hother frame hframe)

theorem fragmentIndex_toNat (hindex : index ≤ 0xffff) (payload : Bytes) (linkSequence : UInt32)
    (capacity count : Nat) :
    (fragment payload linkSequence capacity count index).fragmentIndex.toNat = index :=
  UInt16.toNat_ofNat_of_lt' (by rw [UInt16.size]; omega)

theorem fragmentCount_toNat (hcount : fragmentCount payload capacity ≤ 0xffff)
    (linkSequence : UInt32) (index : Nat) :
    (fragment payload linkSequence capacity (fragmentCount payload capacity)
      index).fragmentCount.toNat = fragmentCount payload capacity :=
  UInt16.toNat_ofNat_of_lt' (by rw [UInt16.size]; omega)

/-- Fragments with the same link sequence number and index are the same. -/
theorem fragment_unique (hbounded : Bounded accepts capacity payloads) {other : DataLinkFrame}
    (hframe : frame ∈ (sessionFrames accepts capacity next payloads).flatten)
    (hother : other ∈ (sessionFrames accepts capacity next payloads).flatten)
    (hsequence : frame.linkSequence = other.linkSequence)
    (hindex : frame.fragmentIndex = other.fragmentIndex) : frame = other := by
  obtain ⟨frames, hframes, hframe⟩ := List.mem_flatten.mp hframe
  obtain ⟨later, hlater, hother⟩ := List.mem_flatten.mp hother
  obtain rfl := sessionFrames_same hbounded.packets hframes hlater hframe hother hsequence
  obtain ⟨payload, _, k, _, haccepts, rfl⟩ := mem_sessionFrames hframes (List.ne_nil_of_mem hframe)
  have hcount := hbounded.count payload haccepts
  obtain ⟨j, hj, rfl⟩ := mem_fragments hframe
  obtain ⟨j', hj', rfl⟩ := mem_fragments hother
  have hsame := congrArg UInt16.toNat hindex
  rw [fragmentIndex_toNat (by omega), fragmentIndex_toNat (by omega)] at hsame
  rw [hsame]

theorem sessionFrames_nodup (hbounded : Bounded accepts capacity payloads) :
    (sessionFrames accepts capacity next payloads).flatten.Nodup := by
  rw [List.nodup_flatten]
  constructor
  · intro frames hframes
    cases hempty : frames with
    | nil => exact .nil
    | cons frame rest =>
        rw [← hempty]
        obtain ⟨payload, _, k, _, haccepts, rfl⟩ :=
          mem_sessionFrames hframes (by rw [hempty]; exact List.cons_ne_nil _ _)
        have hcount := hbounded.count payload haccepts
        rw [fragments, fragmentsFrom]
        refine List.Nodup.map_on ?_ (List.nodup_range' 1)
        intro j hj j' hj' heq
        rw [List.mem_range'_1] at hj hj'
        have hsame := congrArg (·.fragmentIndex.toNat) heq
        rwa [fragmentIndex_toNat (by omega), fragmentIndex_toNat (by omega)] at hsame
  · refine (sessionFrames_pairwise hbounded.packets).imp ?_
    intro frames later hdiffer frame hframe hlater
    exact hdiffer frame hframe frame hlater rfl

theorem distinguishes {format : Format DataLinkFrame} (hformat : LinkFormat format)
    (hbounded : Bounded accepts capacity payloads) :
    Distinguishes format (sessionFrames accepts capacity next payloads) where
  nodup := sessionFrames_nodup hbounded
  opens frames hframes frame hframe rest hopens := by
    obtain ⟨hoffset, rfl⟩ := hformat.opens frame rest hopens
    obtain ⟨payload, hpayload, k, _, haccepts, rfl⟩ :=
      mem_sessionFrames hframes (List.ne_nil_of_mem hframe)
    obtain ⟨index, hindex, rfl⟩ := mem_fragments hframe
    have hcount := hbounded.count payload haccepts
    have hfits := offset_le hbounded.capacity_pos hindex
    have hzero := fragment_offset hfits (hbounded.size payload hpayload)
      (next + UInt32.ofNat k) (fragmentCount payload capacity)
    rw [hoffset, UInt32.toNat_zero] at hzero
    obtain rfl : index = 0 :=
      (Nat.mul_eq_zero.mp hzero.symm).resolve_right hbounded.capacity_pos.ne'
    rw [List.head?_eq_getElem?, getElem?_fragments hindex, fragments_length,
      fragmentCount_toNat hcount]
    exact ⟨rfl, by omega⟩
  continues frames hframes first rest hhead hopens other hother index hpos hle hcontinues := by
    have hfirst := List.mem_of_mem_head? hhead
    obtain ⟨_, rfl⟩ := hformat.opens first rest hopens
    obtain ⟨_, hsequence, hindex⟩ := isNext_iff.mp (hformat.continues first index other hcontinues)
    obtain ⟨later, hlater, hother⟩ := List.mem_flatten.mp hother
    obtain rfl := sessionFrames_same hbounded.packets hframes hlater hfirst hother hsequence.symm
    obtain ⟨payload, _, k, _, haccepts, rfl⟩ := mem_sessionFrames hframes (List.ne_nil_of_mem hfirst)
    have hcount := hbounded.count payload haccepts
    obtain ⟨j, hj, rfl⟩ := mem_fragments hother
    rw [fragments_head hhead, fragmentCount_toNat hcount] at hle
    have hsame := congrArg UInt16.toNat hindex
    rw [fragmentIndex_toNat (by omega),
      UInt16.toNat_ofNat_of_lt' (by rw [UInt16.size]; omega)] at hsame
    rw [← hsame, getElem?_fragments hj]
  answers frame hframe other hother hanswers := by
    rw [hformat.answers, hformat.ack] at hanswers
    simp only [answersFragment, Bool.and_eq_true, decide_eq_true_eq] at hanswers
    exact fragment_unique hbounded hframe hother hanswers.1.1 hanswers.1.2
  refusal reply hrefusal frame hframe := by
    obtain ⟨first, index, refused, hmem⟩ := hrefusal
    rw [hformat.answers, hformat.refusal first index refused reply hmem]
    have hflags : flagNak &&& flagAck = 0 := by decide
    simp [answersFragment, makeNak, hflags]

end AudioStudio.DataLink
