import AudioStudio.Core.Accumulate
import AudioStudio.Core.LittleEndian
import AudioStudio.Core.Text

/-!
# WAV files

`readWavHeader` and `writeWavHeader` of `cli_common.cpp`.  The reader walks over the chunks of a
file, and remembers where the samples begin.
-/

namespace AudioStudio.Cli

open LittleEndian

/-! ## Input streams -/

/-- An `std::ifstream` of a file; its position may lie behind the last byte. -/
structure InputFile where
  bytes : Bytes
  pos : Nat := 0
  good : Bool := true
  deriving DecidableEq, Repr

namespace InputFile

/-- `read` and `gcount`: what there is of so many bytes, and fewer end the stream. -/
def read (input : InputFile) (count : Nat) : Bytes × InputFile :=
  if input.good then
    let got := (input.bytes.drop input.pos).take count
    (got, { input with pos := input.pos + got.length, good := got.length = count })
  else ([], input)

def seekForward (input : InputFile) (bytes : Nat) : Bool × InputFile :=
  if input.good then (true, { input with pos := input.pos + bytes }) else (false, input)

/-- `clear`, and a seek from the beginning. -/
def rewind (input : InputFile) (offset : Nat) : InputFile :=
  { input with pos := offset, good := true }

/-- A good stream behind the front of its file. -/
def cut (front rest : Bytes) : InputFile where
  bytes := front ++ rest
  pos := front.length

@[simp] theorem read_bytes (input : InputFile) (count : Nat) :
    (input.read count).2.bytes = input.bytes := by
  unfold read
  split <;> rfl

@[simp] theorem read_pos (input : InputFile) (count : Nat) :
    (input.read count).2.pos = input.pos + (input.read count).1.length := by
  unfold read
  split
  · rfl
  · rfl

@[simp] theorem seekForward_bytes (input : InputFile) (count : Nat) :
    (input.seekForward count).2.bytes = input.bytes := by
  unfold seekForward
  split <;> rfl

theorem le_seekForward_pos (input : InputFile) (count : Nat) :
    input.pos ≤ (input.seekForward count).2.pos := by
  unfold seekForward
  split
  · exact Nat.le_add_right _ _
  · exact Nat.le_refl _

/-- What was read was in the file. -/
theorem read_fits {input : InputFile} {count : Nat} (hread : (input.read count).1 ≠ []) :
    input.pos + (input.read count).1.length ≤ input.bytes.length := by
  unfold read at hread ⊢
  split at hread
  · next hgood =>
      rw [if_pos hgood]
      have hpos : input.pos < input.bytes.length := by
        by_contra hbehind
        refine hread ?_
        change (input.bytes.drop input.pos).take count = []
        rw [List.drop_eq_nil_of_le (not_lt.mp hbehind), List.take_nil]
      have hlength := List.length_take_le' count (input.bytes.drop input.pos)
      rw [List.length_drop] at hlength
      change input.pos + ((input.bytes.drop input.pos).take count).length ≤ _
      omega
  · exact absurd rfl hread

theorem read_full {input : InputFile} {count : Nat} (hgood : input.good = true)
    (hfits : input.pos + count ≤ input.bytes.length) :
    input.read count = ((input.bytes.drop input.pos).take count,
      { bytes := input.bytes, pos := input.pos + count }) := by
  have hlength : ((input.bytes.drop input.pos).take count).length = count := by
    rw [List.length_take, List.length_drop]
    omega
  unfold read
  rw [if_pos hgood]
  dsimp only
  rw [hlength, decide_eq_true rfl]

theorem read_cut (front got rest : Bytes) :
    (cut front (got ++ rest)).read got.length = (got, cut (front ++ got) rest) := by
  unfold read cut
  rw [if_pos rfl]
  dsimp only
  rw [List.drop_left, List.take_left, List.append_assoc, List.length_append, decide_eq_true rfl]

theorem seekForward_cut (front passed rest : Bytes) :
    (cut front (passed ++ rest)).seekForward passed.length =
      (true, cut (front ++ passed) rest) := by
  unfold seekForward cut
  rw [if_pos rfl]
  dsimp only
  rw [List.append_assoc, List.length_append]

end InputFile

/-! ## Reading a header -/

structure WavInfo where
  sampleRate : UInt32 := 48000
  channels : UInt16 := 2
  bytesPerSample : UInt16 := 2
  dataOffset : Nat := 0
  dataBytes : Nat := 0
  deriving DecidableEq, Repr

def riffId : Bytes := asciiBytes "RIFF"
def waveId : Bytes := asciiBytes "WAVE"
def fmtId : Bytes := asciiBytes "fmt "
def dataId : Bytes := asciiBytes "data"

/-- The variables of the loop over the chunks. -/
structure WavScan where
  input : InputFile
  info : WavInfo
  sawFmt : Bool := false
  sawData : Bool := false

/-- The fields of a format chunk. -/
def readFmt (fmt : Bytes) (info : WavInfo) : Except String WavInfo :=
  if word16 fmt 0 ≠ 1 then .error "only PCM WAV is supported"
  else
    let bitsPerSample := word16 fmt 14
    if bitsPerSample = 0 ∨ bitsPerSample % 8 ≠ 0 then .error "unsupported WAV sample width"
    else
      .ok { info with
        channels := word16 fmt 2
        sampleRate := word32 fmt 4
        bytesPerSample := bitsPerSample / 8 }

/-- The three branches of a round. -/
def readChunkBody (id : Bytes) (size : Nat) (scan : WavScan) : Except String WavScan :=
  if id = fmtId then
    if size < 16 then .error "WAV fmt chunk is too small"
    else
      let fmt := scan.input.read size
      if fmt.1.length ≠ size then .error "failed to read WAV fmt chunk"
      else do
        let info ← readFmt fmt.1 scan.info
        .ok { scan with input := fmt.2, info, sawFmt := true }
  else if id = dataId then
    let info := { scan.info with dataOffset := scan.input.pos, dataBytes := size }
    let sought := scan.input.seekForward size
    if sought.1 then .ok { scan with input := sought.2, info, sawData := true }
    else .error "failed to seek WAV data chunk"
  else
    let sought := scan.input.seekForward size
    if sought.1 then .ok { scan with input := sought.2 } else .error "failed to seek WAV chunk"

/-- A chunk of odd size is padded. -/
def skipPadding (size : Nat) (scan : WavScan) : Except String WavScan :=
  if size % 2 ≠ 0 then
    let sought := scan.input.seekForward 1
    if sought.1 then .ok { scan with input := sought.2 } else .error "failed to seek WAV padding"
  else .ok scan

/-- A round of the loop, or nothing where the loop ends. -/
def readChunk (scan : WavScan) : Except String (Option WavScan) :=
  if scan.input.good then
    let chunkId := scan.input.read 4
    if chunkId.1.length ≠ 4 then .ok none
    else
      let chunkSize := chunkId.2.read 4
      if chunkSize.1.length ≠ 4 then .ok none
      else do
        let size := (word32 chunkSize.1 0).toNat
        let scan ← readChunkBody chunkId.1 size { scan with input := chunkSize.2 }
        let scan ← skipPadding size scan
        .ok (some scan)
  else .ok none

variable {size : Nat} {scan next : WavScan}

theorem readChunkBody_input {id : Bytes} (hbody : readChunkBody id size scan = .ok next) :
    next.input.bytes = scan.input.bytes ∧ scan.input.pos ≤ next.input.pos := by
  unfold readChunkBody at hbody
  split at hbody
  · split at hbody
    · cases hbody
    dsimp only at hbody
    split at hbody
    · cases hbody
    cases hfmt : readFmt (scan.input.read size).1 scan.info with
    | error text =>
        rw [hfmt] at hbody
        cases hbody
    | ok info =>
        rw [hfmt] at hbody
        cases hbody
        exact ⟨scan.input.read_bytes size, by
          rw [InputFile.read_pos]
          exact Nat.le_add_right _ _⟩
  · split at hbody
    all_goals
      dsimp only at hbody
      split at hbody
      · cases hbody
        exact ⟨scan.input.seekForward_bytes size, scan.input.le_seekForward_pos size⟩
      · cases hbody

theorem skipPadding_input (hpadding : skipPadding size scan = .ok next) :
    next.input.bytes = scan.input.bytes ∧ scan.input.pos ≤ next.input.pos := by
  unfold skipPadding at hpadding
  split at hpadding
  · dsimp only at hpadding
    split at hpadding
    · cases hpadding
      exact ⟨scan.input.seekForward_bytes 1, scan.input.le_seekForward_pos 1⟩
    · cases hpadding
  · cases hpadding
    exact ⟨rfl, Nat.le_refl _⟩

/-- A round takes at least the eight bytes in front of a chunk. -/
theorem readChunk_advances (hround : readChunk scan = .ok (some next)) :
    next.input.bytes.length - next.input.pos < scan.input.bytes.length - scan.input.pos := by
  unfold readChunk at hround
  split at hround
  · dsimp only at hround
    split at hround
    · cases hround
    next hid =>
    split at hround
    · cases hround
    next hsize =>
    obtain ⟨middle, hbody, hrest⟩ := bind_eq_ok hround
    obtain ⟨last, hpadding, hlast⟩ := bind_eq_ok hrest
    cases hlast
    obtain ⟨hbytes, hpos⟩ := readChunkBody_input hbody
    obtain ⟨hbytes', hpos'⟩ := skipPadding_input hpadding
    have hfits : ((scan.input.read 4).2.read 4).1 ≠ [] := by
      intro hnil
      rw [hnil] at hsize
      exact hsize (by decide)
    have hlength := InputFile.read_fits hfits
    rw [InputFile.read_bytes, InputFile.read_pos] at hlength
    rw [InputFile.read_bytes, InputFile.read_bytes] at hbytes
    rw [InputFile.read_pos, InputFile.read_pos] at hpos
    rw [hbytes', hbytes]
    omega
  · cases hround

def readChunks (scan : WavScan) : Except String WavScan :=
  match _hround : readChunk scan with
  | .error text => .error text
  | .ok none => .ok scan
  | .ok (some next) => readChunks next
termination_by scan.input.bytes.length - scan.input.pos
decreasing_by exact readChunk_advances _hround

/-- `readWavHeader`: what is found, or nothing for a file of another format, and the stream that
is left. -/
def readWavHeader (input : InputFile) (info : WavInfo) :
    Except String (Option WavInfo × InputFile) :=
  let riff := (input.rewind 0).read 12
  if riff.1.length ≠ 12 then .ok (none, riff.2.rewind 0)
  else if riff.1.take 4 ≠ riffId ∨ riff.1.drop 8 ≠ waveId then .ok (none, riff.2.rewind 0)
  else do
    let scan ← readChunks { input := riff.2, info }
    if scan.sawFmt && scan.sawData then
      .ok (some scan.info, scan.input.rewind scan.info.dataOffset)
    else .error "WAV file missing fmt or data chunk"

/-! ## Writing a header -/

structure AudioSessionConfig where
  sessionId : Bytes
  sampleRate : UInt32
  channels : UInt16
  bytesPerSample : UInt16
  sampleFormat : Bytes
  deviceName : Bytes
  driverFactory : Bytes
  blockingWrite : Bool
  deriving DecidableEq, Repr

def boundedU32 (value : Nat) (field : String) : Except String UInt32 :=
  if 2 ^ 32 ≤ value then .error (field ++ " exceeds WAV 32-bit size limit")
  else .ok value.toUInt32

/-- The format chunk behind its size. -/
def fmtBody (config : AudioSessionConfig) : Bytes :=
  let blockAlign := config.channels * config.bytesPerSample
  let byteRate := config.sampleRate * blockAlign.toUInt32
  le16 1 ++ le16 config.channels ++ le32 config.sampleRate ++ le32 byteRate ++ le16 blockAlign ++
    le16 (config.bytesPerSample * 8)

def writeWavHeader (config : AudioSessionConfig) (dataBytes : Nat) : Except String Bytes := do
  let dataSize ← boundedU32 dataBytes "WAV data"
  let riffSize ← boundedU32 (36 + dataSize.toNat) "WAV RIFF"
  .ok (riffId ++ le32 riffSize ++ waveId ++ (fmtId ++ le32 16 ++ fmtBody config) ++
    (dataId ++ le32 dataSize))

/-! ## Other chunks -/

/-- A chunk that is neither the format nor the samples, with its padding. -/
structure RiffChunk where
  id : Bytes
  body : Bytes
  pad : UInt8
  idLength : id.length = 4
  otherId : id ≠ fmtId ∧ id ≠ dataId
  bounded : body.length < 2 ^ 32

/-- The padding behind a body. -/
def padding (body : Bytes) (pad : UInt8) : Bytes :=
  if body.length % 2 ≠ 0 then [pad] else []

def RiffChunk.bytes (chunk : RiffChunk) : Bytes :=
  chunk.id ++ le32 chunk.body.length.toUInt32 ++ (chunk.body ++ padding chunk.body chunk.pad)

/-- A header with other chunks in front of its format and in front of its data. -/
def withChunks (header : Bytes) (before between : List RiffChunk) : Bytes :=
  header.take 12 ++ before.flatMap RiffChunk.bytes ++ (header.drop 12).take 24 ++
    between.flatMap RiffChunk.bytes ++ header.drop 36

/-! ## Rounds over what is written -/

theorem skipPadding_cut (front body rest : Bytes) (pad : UInt8) (scan : WavScan)
    (hinput : scan.input = .cut front (padding body pad ++ rest)) :
    skipPadding body.length scan =
      .ok { scan with input := .cut (front ++ padding body pad) rest } := by
  unfold skipPadding padding at *
  split
  · next hodd =>
      rw [if_pos hodd] at hinput
      rw [hinput, show 1 = [pad].length from rfl, InputFile.seekForward_cut]
      rfl
  · next heven =>
      rw [if_neg heven, List.nil_append] at hinput
      rw [List.append_nil, ← hinput]

theorem skipPadding_good (size : Nat) (scan : WavScan) (hgood : scan.input.good = true) :
    ∃ input : InputFile, input.bytes = scan.input.bytes ∧ scan.input.pos ≤ input.pos ∧
      skipPadding size scan = .ok { scan with input } := by
  unfold skipPadding
  split
  · refine ⟨{ scan.input with pos := scan.input.pos + 1 }, rfl, Nat.le_add_right _ 1, ?_⟩
    unfold InputFile.seekForward
    rw [if_pos hgood]
    rfl
  · exact ⟨scan.input, rfl, Nat.le_refl _, rfl⟩

/-- A round behind the eight bytes in front of a chunk. -/
theorem readChunk_cut {id : Bytes} (hid : id.length = 4) (front rest : Bytes) (size : UInt32)
    (scan : WavScan) (hinput : scan.input = .cut front (id ++ le32 size ++ rest)) :
    readChunk scan =
      (readChunkBody id size.toNat { scan with input := .cut (front ++ (id ++ le32 size)) rest } >>=
        fun scan => skipPadding size.toNat scan >>= fun scan => .ok (some scan)) := by
  have hfirst : scan.input.read 4 = (id, .cut (front ++ id) (le32 size ++ rest)) := by
    rw [hinput, List.append_assoc, ← hid]
    exact InputFile.read_cut front id _
  have hsecond := InputFile.read_cut (front ++ id) (le32 size) rest
  rw [le32_length] at hsecond
  have hgood : scan.input.good = true := by
    rw [hinput]
    rfl
  unfold readChunk
  rw [if_pos hgood, hfirst]
  dsimp only
  rw [hsecond]
  dsimp only
  have hword : word32 (le32 size) 0 = size := by
    rw [← List.append_nil (le32 size)]
    exact word32_le32 size []
  rw [if_neg (not_not.mpr hid), if_neg (not_not.mpr (le32_length size)), hword, List.append_assoc]

/-- Other chunks are skipped with their padding. -/
theorem readChunk_other (chunk : RiffChunk) (front rest : Bytes) (scan : WavScan)
    (hinput : scan.input = .cut front (chunk.bytes ++ rest)) :
    readChunk scan = .ok (some { scan with input := .cut (front ++ chunk.bytes) rest }) := by
  have hsize : chunk.body.length.toUInt32.toNat = chunk.body.length :=
    UInt32.toNat_ofNat_of_lt' chunk.bounded
  unfold RiffChunk.bytes at hinput ⊢
  rw [List.append_assoc] at hinput
  rw [readChunk_cut chunk.idLength front _ _ scan hinput, hsize]
  unfold readChunkBody
  rw [if_neg chunk.otherId.1, if_neg chunk.otherId.2, List.append_assoc chunk.body,
    InputFile.seekForward_cut]
  dsimp only
  rw [if_pos rfl]
  change (skipPadding chunk.body.length _ >>= _) = _
  rw [skipPadding_cut _ _ _ _ _ rfl, List.append_assoc _ chunk.body, List.append_assoc front]
  rfl

theorem readChunks_of_round (hround : readChunk scan = .ok (some next)) :
    readChunks scan = readChunks next := by
  rw [readChunks]
  split
  · next text herror => rw [hround] at herror; cases herror
  · next hend => rw [hround] at hend; cases hend
  · next next' hnext =>
      rw [hround] at hnext
      cases hnext
      rfl

/-- The loop ends where no chunk can begin. -/
theorem readChunks_end (hend : scan.input.bytes.length ≤ scan.input.pos) :
    readChunks scan = .ok scan := by
  have hround : readChunk scan = .ok none := by
    unfold readChunk
    split
    · have hnil : (scan.input.read 4).1 = [] := by
        by_contra hread
        have hfits := InputFile.read_fits hread
        exact hread (List.eq_nil_of_length_eq_zero (by omega))
      dsimp only
      rw [hnil, if_pos (by decide)]
    · rfl
  rw [readChunks]
  split
  · next text herror => rw [hround] at herror; cases herror
  · rfl
  · next next' hnext => rw [hround] at hnext; cases hnext

theorem readChunks_others (chunks : List RiffChunk) (front rest : Bytes) (scan : WavScan)
    (hinput : scan.input = .cut front (chunks.flatMap RiffChunk.bytes ++ rest)) :
    readChunks scan =
      readChunks { scan with input := .cut (front ++ chunks.flatMap RiffChunk.bytes) rest } := by
  induction chunks generalizing front scan with
  | nil =>
      rw [List.flatMap_nil, List.nil_append] at hinput
      rw [List.flatMap_nil, List.append_nil, ← hinput]
  | cons chunk chunks ih =>
      rw [List.flatMap_cons, List.append_assoc] at hinput
      rw [readChunks_of_round (readChunk_other chunk front _ scan hinput), ih _ _ rfl,
        List.flatMap_cons, List.append_assoc]

/-! ## The format and the data -/

/-- What the format chunk says of a configuration. -/
def WavInfo.ofConfig (config : AudioSessionConfig) (info : WavInfo) : WavInfo :=
  { info with
    channels := config.channels
    sampleRate := config.sampleRate
    bytesPerSample := config.bytesPerSample }

theorem fmtBody_length (config : AudioSessionConfig) : (fmtBody config).length = 16 := rfl

variable {config : AudioSessionConfig}

theorem readFmt_fmtBody (hsample : 1 ≤ config.bytesPerSample.toNat)
    (hwidth : config.bytesPerSample.toNat < 8192) (info : WavInfo) :
    readFmt (fmtBody config) info = .ok (.ofConfig config info) := by
  have hformat : word16 (fmtBody config) 0 = 1 := of16_le16 1
  have hchannels : word16 (fmtBody config) 2 = config.channels := of16_le16 _
  have hrate : word32 (fmtBody config) 4 = config.sampleRate := of32_le32 _
  have hbits : word16 (fmtBody config) 14 = config.bytesPerSample * 8 := of16_le16 _
  have htoNat : (config.bytesPerSample * 8).toNat = config.bytesPerSample.toNat * 8 := by
    rw [UInt16.toNat_mul]
    exact Nat.mod_eq_of_lt (by change _ * 8 < 65536; omega)
  have hzero : config.bytesPerSample * 8 ≠ 0 := by
    intro heq
    rw [heq] at htoNat
    change 0 = _ at htoNat
    omega
  have hwhole : (config.bytesPerSample * 8) % 8 = 0 := by
    rw [← UInt16.toNat_inj, UInt16.toNat_mod, htoNat]
    exact Nat.mul_mod_left _ 8
  have hbytes : config.bytesPerSample * 8 / 8 = config.bytesPerSample := by
    rw [← UInt16.toNat_inj, UInt16.toNat_div, htoNat]
    exact Nat.mul_div_cancel _ (by decide)
  unfold readFmt WavInfo.ofConfig
  rw [hformat, hchannels, hrate, hbits, if_neg (not_not.mpr rfl)]
  dsimp only
  rw [if_neg (not_or.mpr ⟨hzero, not_not.mpr hwhole⟩), hbytes]

theorem readChunk_fmt (hsample : 1 ≤ config.bytesPerSample.toNat)
    (hwidth : config.bytesPerSample.toNat < 8192) (front rest : Bytes) (scan : WavScan)
    (hinput : scan.input = .cut front (fmtId ++ le32 16 ++ fmtBody config ++ rest)) :
    readChunk scan = .ok (some
      { scan with
        input := .cut (front ++ (fmtId ++ le32 16 ++ fmtBody config)) rest
        info := .ofConfig config scan.info
        sawFmt := true }) := by
  have hread := InputFile.read_cut (front ++ (fmtId ++ le32 16)) (fmtBody config) rest
  rw [fmtBody_length, List.append_assoc front] at hread
  rw [List.append_assoc] at hinput
  rw [readChunk_cut rfl front _ 16 scan hinput]
  unfold readChunkBody
  rw [if_pos rfl, if_neg (by decide)]
  dsimp only
  rw [show (16 : UInt32).toNat = 16 from rfl, hread]
  dsimp only
  rw [if_neg (not_not.mpr (fmtBody_length config)), readFmt_fmtBody hsample hwidth]
  rfl

/-- The data may lack its padding at the end of the file. -/
theorem readChunks_data {data : Bytes} (hsize : data.length < 2 ^ 32) (front : Bytes)
    (scan : WavScan)
    (hinput : scan.input = .cut front (dataId ++ le32 data.length.toUInt32 ++ data)) :
    ∃ input : InputFile, input.bytes = scan.input.bytes ∧ readChunks scan = .ok
      { scan with
        input
        info := { scan.info with dataOffset := front.length + 8, dataBytes := data.length }
        sawData := true } := by
  have htoNat : data.length.toUInt32.toNat = data.length := UInt32.toNat_ofNat_of_lt' hsize
  have hsought := InputFile.seekForward_cut (front ++ (dataId ++ le32 data.length.toUInt32)) data []
  rw [List.append_nil] at hsought
  have hround := @readChunk_cut dataId rfl front data _ scan hinput
  rw [htoNat] at hround
  unfold readChunkBody at hround
  rw [if_neg (by decide), if_pos rfl] at hround
  dsimp only at hround
  rw [hsought, if_pos rfl] at hround
  obtain ⟨input, hbytes, hpos, hpadding⟩ := skipPadding_good data.length
    { scan with
      input := .cut (front ++ (dataId ++ le32 data.length.toUInt32) ++ data) []
      info := { scan.info with dataOffset := front.length + 8, dataBytes := data.length }
      sawData := true } rfl
  have hnext : readChunk scan = .ok (some
      { scan with
        input
        info := { scan.info with dataOffset := front.length + 8, dataBytes := data.length }
        sawData := true }) := by
    rw [hround]
    change (skipPadding data.length _ >>= _) = _
    have hoffset : (InputFile.cut (front ++ (dataId ++ le32 data.length.toUInt32)) data).pos =
        front.length + 8 := List.length_append
    rw [hoffset, hpadding]
    rfl
  refine ⟨input, ?_, ?_⟩
  · rw [hbytes, hinput]
    change _ ++ _ ++ _ ++ [] = _ ++ _
    rw [List.append_nil, List.append_assoc]
  · have hend : input.bytes.length ≤ input.pos := by
      rw [hbytes]
      refine le_trans (le_of_eq ?_) hpos
      change (_ ++ []).length = _
      rw [List.append_nil]
      rfl
    exact (readChunks_of_round hnext).trans (readChunks_end hend)

/-! ## The round trip -/

/-- The three parts of a header. -/
theorem writeWavHeader_parts (config : AudioSessionConfig) {size : Nat}
    (hsize : 36 + size < 2 ^ 32) :
    ∃ riffSize : UInt32, writeWavHeader config size =
      .ok (riffId ++ le32 riffSize ++ waveId ++ (fmtId ++ le32 16 ++ fmtBody config) ++
        (dataId ++ le32 size.toUInt32)) := by
  have htoNat : size.toUInt32.toNat = size :=
    UInt32.toNat_ofNat_of_lt' (lt_of_le_of_lt (Nat.le_add_left _ 36) hsize)
  have hdata : boundedU32 size "WAV data" = .ok size.toUInt32 := if_neg (by omega)
  have hriff : boundedU32 (36 + size) "WAV RIFF" = .ok (36 + size).toUInt32 := if_neg (by omega)
  refine ⟨(36 + size).toUInt32, ?_⟩
  unfold writeWavHeader
  rw [hdata]
  change (boundedU32 (36 + size.toUInt32.toNat) "WAV RIFF" >>= _) = _
  rw [htoNat, hriff]
  rfl

theorem withChunks_parts (riffSize size : UInt32) (config : AudioSessionConfig)
    (before between : List RiffChunk) :
    withChunks (riffId ++ le32 riffSize ++ waveId ++ (fmtId ++ le32 16 ++ fmtBody config) ++
        (dataId ++ le32 size)) before between =
      riffId ++ le32 riffSize ++ waveId ++ before.flatMap RiffChunk.bytes ++
        (fmtId ++ le32 16 ++ fmtBody config) ++ between.flatMap RiffChunk.bytes ++
        (dataId ++ le32 size) := rfl

/-- The header in front of some data is read as the configuration, and the stream is left at the
first byte of the data. -/
def ReadsBack (config : AudioSessionConfig) (front data : Bytes) : Prop :=
  ∀ (input : InputFile) (info : WavInfo), input.bytes = front ++ data →
    readWavHeader input info = .ok (
      some { WavInfo.ofConfig config info with
        dataOffset := front.length
        dataBytes := data.length },
      .cut front data)

/-- What is read of a written header, whatever other chunks stand in it. -/
theorem readWavHeader_withChunks {data : Bytes} (hsample : 1 ≤ config.bytesPerSample.toNat)
    (hwidth : config.bytesPerSample.toNat < 8192) (hsize : 36 + data.length < 2 ^ 32)
    (before between : List RiffChunk) :
    ∃ header, writeWavHeader config data.length = .ok header ∧
      ReadsBack config (withChunks header before between) data := by
  obtain ⟨riffSize, hheader⟩ := writeWavHeader_parts config hsize
  refine ⟨_, hheader, fun input info hbytes => ?_⟩
  rw [withChunks_parts] at hbytes ⊢
  generalize hriff : riffId ++ le32 riffSize ++ waveId = riff at hbytes ⊢
  generalize hfmt : fmtId ++ le32 16 ++ fmtBody config = fmt at hbytes ⊢
  have hlength : riff.length = 12 := by
    rw [← hriff]
    rfl
  have hids : ¬(riff.take 4 ≠ riffId ∨ riff.drop 8 ≠ waveId) := by
    rw [← hriff]
    exact not_or.mpr ⟨not_not.mpr rfl, not_not.mpr rfl⟩
  -- The stream behind the first twelve bytes.
  have hread : (input.rewind 0).read 12 = (riff, .cut riff (before.flatMap RiffChunk.bytes ++
      (fmt ++ (between.flatMap RiffChunk.bytes ++
        (dataId ++ le32 data.length.toUInt32 ++ data))))) := by
    have hcut := InputFile.read_cut [] riff (before.flatMap RiffChunk.bytes ++
      (fmt ++ (between.flatMap RiffChunk.bytes ++
        (dataId ++ le32 data.length.toUInt32 ++ data))))
    rw [hlength, List.nil_append] at hcut
    rw [← hcut]
    unfold InputFile.rewind InputFile.cut
    rw [hbytes]
    simp only [List.append_assoc, List.nil_append, List.length_nil]
  unfold readWavHeader
  rw [hread]
  dsimp only
  rw [if_neg (not_not.mpr hlength), if_neg hids, readChunks_others before riff _ _ rfl]
  have hround := readChunk_fmt hsample hwidth
  rw [hfmt] at hround
  rw [readChunks_of_round (hround _ _ _ rfl), readChunks_others between _ _ _ rfl]
  obtain ⟨last, hlast, hdata⟩ := readChunks_data (by omega : data.length < 2 ^ 32)
    (riff ++ before.flatMap RiffChunk.bytes ++ fmt ++ between.flatMap RiffChunk.bytes)
    { input := .cut _ (dataId ++ le32 data.length.toUInt32 ++ data)
      info := .ofConfig config info
      sawFmt := true } rfl
  dsimp only
  rw [hdata]
  have hoffset : (riff ++ before.flatMap RiffChunk.bytes ++ fmt ++
      between.flatMap RiffChunk.bytes ++ (dataId ++ le32 data.length.toUInt32)).length =
      (riff ++ before.flatMap RiffChunk.bytes ++ fmt ++
        between.flatMap RiffChunk.bytes).length + 8 := List.length_append
  have hrewound : last.rewind ((riff ++ before.flatMap RiffChunk.bytes ++ fmt ++
      between.flatMap RiffChunk.bytes).length + 8) =
      .cut (riff ++ before.flatMap RiffChunk.bytes ++ fmt ++
        between.flatMap RiffChunk.bytes ++ (dataId ++ le32 data.length.toUInt32)) data := by
    unfold InputFile.rewind InputFile.cut
    rw [hlast, hoffset]
    change ({ bytes := _ ++ (_ ++ _), pos := _ } : InputFile) = _
    rw [List.append_assoc _ (dataId ++ _)]
  rw [hoffset, ← hrewound]
  rfl

theorem withChunks_nil (header : Bytes) : withChunks header [] [] = header := by
  change header.take 12 ++ [] ++ (header.drop 12).take 24 ++ [] ++ header.drop 36 = header
  rw [List.append_nil, List.append_nil, take_slice, List.take_append_drop]

/-- A header is written for data that its sizes can count. -/
theorem writeWavHeader_ok {header : Bytes} (hheader : writeWavHeader config size = .ok header) :
    36 + size < 2 ^ 32 ∧ header.length = 44 := by
  by_cases hsize : 36 + size < 2 ^ 32
  · obtain ⟨riffSize, hparts⟩ := writeWavHeader_parts config hsize
    rw [hparts] at hheader
    cases hheader
    exact ⟨hsize, rfl⟩
  · obtain ⟨dataSize, hdata, hrest⟩ := bind_eq_ok hheader
    obtain ⟨riffSize, hriff, -⟩ := bind_eq_ok hrest
    unfold boundedU32 at hdata hriff
    split at hdata
    · cases hdata
    next hless =>
    cases hdata
    have htoNat : size.toUInt32.toNat = size := UInt32.toNat_ofNat_of_lt' (not_le.mp hless)
    rw [htoNat, if_pos (not_lt.mp hsize)] at hriff
    cases hriff

end AudioStudio.Cli
