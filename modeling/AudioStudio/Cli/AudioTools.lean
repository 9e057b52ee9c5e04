import AudioStudio.Cli.WavFiles
import AudioStudio.Core.Exchanges

/-!
# Playing and recording files

`runPlayback` and `runRecord` of `cli_common.cpp`.  The calls of the sessions are answered by a
server, which may throw at each of them; the file a recording leaves is part of its result.
-/

namespace AudioStudio.Cli

open LittleEndian

/-! ## Calls -/

/-- An exception with its text. -/
structure CliFault where
  what : Bytes
  deriving DecidableEq, Repr

/-- What the tools read of a created session. -/
structure AudioSession where
  sessionId : Bytes
  streamUri : Bytes
  maxChunkBytes : UInt32
  deriving DecidableEq, Repr

structure AudioReadResult where
  ok : Bool
  data : Bytes
  deriving DecidableEq, Repr

inductive AudioCmd where
  | createPlaybackSession (config : AudioSessionConfig)
  | createCaptureSession (config : AudioSessionConfig)
  | start
  | drain
  | stop
  | close
  | writeFrames (data : Bytes)
  | readFrames (maxBytes : Nat)

/-- What a call returns; of a write, the bytes that it counts. -/
abbrev AudioValue : AudioCmd → Type
  | .createPlaybackSession _ => AudioSession
  | .createCaptureSession _ => AudioSession
  | .writeFrames _ => UInt64
  | .readFrames _ => AudioReadResult
  | _ => Unit

abbrev AudioReply (cmd : AudioCmd) := Except CliFault (AudioValue cmd)

abbrev AudioProc (α : Type) := ExceptT CliFault (Proc AudioReply) α

abbrev AudioExchange := Exchange AudioReply

def callAudio (cmd : AudioCmd) : AudioProc (AudioValue cmd) := ExceptT.mk (Proc.request cmd)

/-- What the arguments are parsed to; a number that `std::stoul` does not take is thrown where it
is asked for. -/
structure AudioArgs where
  path : Bytes
  config : AudioSessionConfig
  chunkBytes : Except CliFault (Option UInt32)
  durationMs : Except CliFault UInt32

/-- `try` and its `catch`: the session is closed, whatever this throws. -/
def closingOnFault {α : Type} (program : AudioProc α) : AudioProc α :=
  ExceptT.mk do
    match ← program.run with
    | .ok value => pure (.ok value)
    | .error fault => do
        let _ ← (callAudio .stop >>= fun _ => callAudio .close).run
        pure (.error fault)

def orThrow {α : Type} : Except String α → AudioProc α
  | .ok value => pure value
  | .error text => throw { what := asciiBytes text }

/-! ## Sizes -/

def alignDown (value unit : Nat) : Nat :=
  if unit = 0 then value else value / unit * unit

def bytesPerFrame (config : AudioSessionConfig) : Nat :=
  max 1 (config.channels.toNat * config.bytesPerSample.toNat)

def kDefaultChunkBytes : UInt32 := 65536

def chunkBytesFromArgs (chunkArg : Option UInt32) (config : AudioSessionConfig)
    (session : AudioSession) : Nat :=
  let unit := bytesPerFrame config
  let chunk := (chunkArg.getD (min session.maxChunkBytes kDefaultChunkBytes)).toNat
  let chunk := alignDown (max chunk unit) unit
  if chunk = 0 then unit else chunk

/-! ## Playing -/

def sampleFormatOf (bytesPerSample : UInt16) : Bytes :=
  if bytesPerSample = 1 then asciiBytes "u8"
  else if bytesPerSample = 2 then asciiBytes "s16le"
  else if bytesPerSample = 3 then asciiBytes "s24le"
  else if bytesPerSample = 4 then asciiBytes "s32le"
  else asciiBytes "pcm"

def applyWavInfo (config : AudioSessionConfig) (wav : WavInfo) : AudioSessionConfig :=
  { config with
    sampleRate := wav.sampleRate
    channels := wav.channels
    bytesPerSample := wav.bytesPerSample
    sampleFormat := sampleFormatOf wav.bytesPerSample }

variable {input : InputFile}

theorem read_advances {count : Nat} (hread : (input.read count).1 ≠ []) :
    (input.read count).2.bytes.length - (input.read count).2.pos <
      input.bytes.length - input.pos := by
  have hfits := InputFile.read_fits hread
  have hlength := List.length_pos_of_ne_nil hread
  rw [InputFile.read_bytes, InputFile.read_pos]
  omega

/-- The loop of `runPlayback`; without a header nothing bounds what is read. -/
def playLoop (chunkBytes unit : Nat) (input : InputFile) (remaining : Option Nat)
    (played : UInt64) : AudioProc UInt64 :=
  if input.good ∧ remaining ≠ some 0 then
    let got := input.read (remaining.elim chunkBytes (min · chunkBytes))
    if _hgot : got.1 = [] then pure played
    else
      let whole := alignDown got.1.length unit
      if whole = 0 then pure played
      else do
        let written : UInt64 ← callAudio (.writeFrames (got.1.take whole))
        playLoop chunkBytes unit got.2 (remaining.map (· - got.1.length)) (played + written)
  else pure played
termination_by input.bytes.length - input.pos
decreasing_by exact read_advances _hgot

structure PlaybackReport where
  session : AudioSession
  playedBytes : UInt64
  deriving DecidableEq, Repr

/-- What stands in the `try` of `runPlayback`. -/
def playSession (args : AudioArgs) (config : AudioSessionConfig) (session : AudioSession)
    (input : InputFile) (remaining : Option Nat) : AudioProc UInt64 := do
  callAudio .start
  let chunkArg ← ExceptT.mk (pure args.chunkBytes)
  let chunkBytes := chunkBytesFromArgs chunkArg config session
  let played ← playLoop chunkBytes (bytesPerFrame config) input remaining 0
  callAudio .drain
  callAudio .stop
  callAudio .close
  pure played

def runPlayback (files : Bytes → Option Bytes) (args : AudioArgs) : AudioProc PlaybackReport :=
  if args.path = [] then do
    let session : AudioSession ← callAudio (.createPlaybackSession args.config)
    pure { session, playedBytes := 0 }
  else
    match files args.path with
    | none => throw { what := asciiBytes "failed to open playback input: " ++ args.path }
    | some bytes => do
        let (wav, input) ← orThrow (readWavHeader { bytes } {})
        let config := wav.elim args.config (applyWavInfo args.config)
        let session : AudioSession ← callAudio (.createPlaybackSession config)
        let playedBytes ←
          closingOnFault (playSession args config session input (wav.map (·.dataBytes)))
        pure { session, playedBytes }

/-! ## Recording -/

/-- The loop of `runRecord`: what was written to the file behind its header. -/
def recordLoop (chunkBytes unit target : Nat) (recorded : Bytes) : AudioProc Bytes :=
  if _hless : recorded.length < target then do
    let remaining := min (target - recorded.length) chunkBytes
    let result : AudioReadResult ←
      callAudio (.readFrames (alignDown (max remaining unit) unit))
    if _hdata : result.ok = false ∨ result.data = [] then pure recorded
    else recordLoop chunkBytes unit target (recorded ++ result.data.take (target - recorded.length))
  else pure recorded
termination_by target - recorded.length
decreasing_by
  have hlength := List.length_pos_of_ne_nil (not_or.mp _hdata).2
  rw [List.length_append, List.length_take]
  omega

/-- `target_bytes`, computed with 64 bits. -/
def targetBytes (durationMs : UInt32) (config : AudioSessionConfig) : Nat :=
  alignDown (durationMs.toNat * config.sampleRate.toNat * bytesPerFrame config % 2 ^ 64 / 1000)
    (bytesPerFrame config)

/-- The session, and the file that is left with the bytes that were recorded to it. -/
structure RecordReport where
  session : AudioSession
  contents : Option Bytes
  recordedBytes : Nat
  deriving DecidableEq, Repr

/-- What stands in the `try` of `runRecord`. -/
def recordSession (args : AudioArgs) (session : AudioSession) : AudioProc Bytes := do
  callAudio .start
  let chunkArg ← ExceptT.mk (pure args.chunkBytes)
  let chunkBytes := chunkBytesFromArgs chunkArg args.config session
  let durationMs ← ExceptT.mk (pure args.durationMs)
  let target := targetBytes durationMs args.config
  let recorded ← recordLoop chunkBytes (bytesPerFrame args.config) target []
  callAudio .stop
  callAudio .close
  pure recorded

def runRecord (writable : Bytes → Bool) (args : AudioArgs) : AudioProc RecordReport :=
  if args.path = [] then do
    let session : AudioSession ← callAudio (.createCaptureSession args.config)
    pure { session, contents := none, recordedBytes := 0 }
  else if !writable args.path then
    throw { what := asciiBytes "failed to open record output: " ++ args.path }
  else do
    let header ← orThrow (writeWavHeader args.config 0)
    let session : AudioSession ← callAudio (.createCaptureSession args.config)
    let recorded ← closingOnFault (recordSession args session)
    -- `patchWavHeader`
    let patch ← orThrow (writeWavHeader args.config recorded.length)
    pure
      { session
        contents := some (poke (header ++ recorded) 0 patch)
        recordedBytes := recorded.length }

/-! ## Exchanges -/

/-- The server answers the call and throws nothing. -/
def Succeeds (exchange : AudioExchange) : Prop := ∃ value, exchange.2 = .ok value

section Parts

variable {α β : Type} {exchanges : List AudioExchange}

theorem returns_callAudio {cmd : AudioCmd} {result : Except CliFault (AudioValue cmd)}
    (hreturns : (callAudio cmd).run.Returns exchanges result) : exchanges = [⟨cmd, result⟩] := by
  obtain ⟨reply, rest, rfl, rfl, rfl⟩ := hreturns
  rfl

/-- The program throws only what a call has thrown. -/
def Answers (program : AudioProc α) : Prop :=
  ∀ exchanges fault, program.run.Returns exchanges (.error fault) →
    ∃ exchange ∈ exchanges, ¬Succeeds exchange

theorem answers_pure (value : α) : Answers (pure value : AudioProc α) := by
  rintro exchanges fault ⟨-, herror⟩
  cases herror

theorem answers_callAudio (cmd : AudioCmd) : Answers (callAudio cmd) := by
  intro exchanges fault hreturns
  refine ⟨⟨cmd, .error fault⟩, ?_, ?_⟩
  · rw [returns_callAudio hreturns]
    exact List.mem_singleton_self _
  · rintro ⟨value, hvalue⟩
    cases hvalue

theorem Answers.bind {program : AudioProc α} {rest : α → AudioProc β} (hprogram : Answers program)
    (hrest : ∀ value, Answers (rest value)) : Answers (program >>= rest) := by
  intro exchanges fault hreturns
  rcases returns_bind_error hreturns with ⟨earlier, later, rfl, hearlier⟩ |
    ⟨value, earlier, later, rfl, -, hlater⟩
  · obtain ⟨exchange, hmem, hthrows⟩ := hprogram _ _ hearlier
    exact ⟨exchange, List.mem_append_left later hmem, hthrows⟩
  · obtain ⟨exchange, hmem, hthrows⟩ := hrest value _ _ hlater
    exact ⟨exchange, List.mem_append_right earlier hmem, hthrows⟩

theorem returns_closingOnFault {program : AudioProc α} {result : Except CliFault α}
    (hreturns : (closingOnFault program).run.Returns exchanges result) :
    ∃ earlier later, exchanges = earlier ++ later ∧ program.run.Returns earlier result ∧
      ∀ value, result = .ok value → later = [] := by
  obtain ⟨outcome, earlier, later, rfl, hprogram, hrest⟩ := Proc.returns_bind.mp hreturns
  refine ⟨earlier, later, rfl, ?_⟩
  cases outcome with
  | ok value =>
      obtain ⟨rfl, rfl⟩ := hrest
      exact ⟨hprogram, fun _ _ => rfl⟩
  | error fault =>
      obtain ⟨outcome, closing, last, rfl, hclosing, rfl, rfl⟩ := Proc.returns_bind.mp hrest
      exact ⟨hprogram, fun value hvalue => by cases hvalue⟩

theorem Answers.closingOnFault {program : AudioProc α} (hprogram : Answers program) :
    Answers (closingOnFault program) := by
  intro exchanges fault hreturns
  obtain ⟨earlier, later, rfl, hearlier, -⟩ := returns_closingOnFault hreturns
  obtain ⟨exchange, hmem, hthrows⟩ := hprogram _ _ hearlier
  exact ⟨exchange, List.mem_append_left later hmem, hthrows⟩

end Parts

/-! ## The loop of a playback -/

/-- What a call passes to `writeFrames`. -/
def writtenIn : AudioExchange → Bytes
  | ⟨.writeFrames data, _⟩ => data
  | _ => []

def written (exchanges : List AudioExchange) : Bytes := exchanges.flatMap writtenIn

theorem written_append (earlier later : List AudioExchange) :
    written (earlier ++ later) = written earlier ++ written later := List.flatMap_append

theorem answers_playLoop (chunkBytes unit : Nat) (input : InputFile) (remaining : Option Nat)
    (played : UInt64) : Answers (playLoop chunkBytes unit input remaining played) := by
  induction input, remaining, played using playLoop.induct chunkBytes unit with
  | case1 input remaining played hgoes got hnil =>
      rw [playLoop, if_pos hgoes, dif_pos hnil]
      exact answers_pure _
  | case2 input remaining played hgoes got hgot whole hnone =>
      rw [playLoop, if_pos hgoes, dif_neg hgot]
      dsimp only
      rw [if_pos hnone]
      exact answers_pure _
  | case3 input remaining played hgoes got hgot whole hwhole ih =>
      rw [playLoop, if_pos hgoes, dif_neg hgot]
      dsimp only
      rw [if_neg hwhole]
      exact (answers_callAudio _).bind fun written => ih written
  | case4 input remaining played hends =>
      rw [playLoop, if_neg hends]
      exact answers_pure _

theorem alignDown_le (value unit : Nat) : alignDown value unit ≤ value := by
  unfold alignDown
  split
  · exact Nat.le_refl _
  · exact Nat.div_mul_le_self _ _

variable {unit : Nat}

theorem alignDown_add {first : Nat} (hfirst : unit ∣ first) (second : Nat) :
    alignDown (first + second) unit = first + alignDown second unit := by
  unfold alignDown
  split
  · rfl
  · next hunit =>
      obtain ⟨count, rfl⟩ := hfirst
      rw [Nat.mul_add_div (Nat.pos_of_ne_zero hunit), Nat.add_mul, Nat.mul_comm count]

theorem alignDown_zero (unit : Nat) : alignDown 0 unit = 0 := Nat.le_zero.mp (alignDown_le 0 unit)

theorem alignDown_of_dvd {value : Nat} (hvalue : unit ∣ value) : alignDown value unit = value := by
  have hadd := alignDown_add hvalue 0
  rwa [Nat.add_zero, alignDown_zero] at hadd

/-- Bounded by what is in the file, the loop writes all whole frames: every chunk but the last is
one of whole frames. -/
theorem playLoop_written {chunkBytes remaining : Nat}
    {played total : UInt64} {exchanges : List AudioExchange} (hchunk : unit ∣ chunkBytes)
    (hpos : 0 < chunkBytes) (hgood : input.good = true)
    (hfits : input.pos + remaining ≤ input.bytes.length)
    (hreturns : (playLoop chunkBytes unit input (some remaining) played).run.Returns exchanges
      (.ok total)) :
    written exchanges = (input.bytes.drop input.pos).take (alignDown remaining unit) := by
  induction remaining using Nat.strong_induction_on generalizing input played exchanges with
  | h remaining ih =>
  rw [playLoop] at hreturns
  by_cases hzero : remaining = 0
  · rw [if_neg (fun hgoes => hgoes.2 (congrArg some hzero))] at hreturns
    obtain ⟨rfl, -⟩ := hreturns
    rw [hzero, alignDown_zero]
    rfl
  have hcount : min remaining chunkBytes ≤ remaining := Nat.min_le_left _ _
  have hread := @InputFile.read_full input (min remaining chunkBytes) hgood (by omega)
  have hlength : ((input.bytes.drop input.pos).take (min remaining chunkBytes)).length =
      min remaining chunkBytes := by
    rw [List.length_take, List.length_drop]
    omega
  have hsome : (input.bytes.drop input.pos).take (min remaining chunkBytes) ≠ [] := by
    intro hnil
    rw [hnil] at hlength
    change 0 = _ at hlength
    omega
  rw [if_pos ⟨hgood, fun heq => hzero (Option.some.inj heq)⟩] at hreturns
  dsimp only [Option.elim_some, Option.map_some] at hreturns
  rw [hread, dif_neg hsome] at hreturns
  dsimp only at hreturns
  rw [hlength] at hreturns
  -- Only the last chunk can end within a frame.
  have hsplit : alignDown remaining unit = alignDown (min remaining chunkBytes) unit +
      alignDown (remaining - min remaining chunkBytes) unit := by
    rcases Nat.le_total chunkBytes remaining with hle | hle
    · rw [Nat.min_eq_right hle, alignDown_of_dvd hchunk, ← alignDown_add hchunk,
        Nat.add_sub_cancel' hle]
    · rw [Nat.min_eq_left hle, Nat.sub_self, alignDown_zero, Nat.add_zero]
  split at hreturns
  · next hnone =>
      obtain ⟨rfl, -⟩ := hreturns
      have hless : remaining < chunkBytes := by
        by_contra hle
        rw [Nat.min_eq_right (not_lt.mp hle), alignDown_of_dvd hchunk] at hnone
        omega
      rw [hsplit, hnone, Nat.min_eq_left hless.le, Nat.sub_self,
        alignDown_zero]
      rfl
  · next hwhole =>
      obtain ⟨count, earlier, later, rfl, hfirst, hlater⟩ := returns_bind_ok hreturns
      have hbehind : input.pos + min remaining chunkBytes +
          (remaining - min remaining chunkBytes) ≤ input.bytes.length := by omega
      have hrest := ih (remaining - min remaining chunkBytes) (by omega) rfl hbehind hlater
      have htail : (input.bytes.drop (input.pos + min remaining chunkBytes)).take
            (alignDown (remaining - min remaining chunkBytes) unit) =
          ((input.bytes.drop input.pos).drop (alignDown (min remaining chunkBytes) unit)).take
            (alignDown (remaining - min remaining chunkBytes) unit) := by
        rcases Nat.le_total chunkBytes remaining with hle | hle
        · rw [Nat.min_eq_right hle, alignDown_of_dvd hchunk, List.drop_drop]
        · rw [Nat.min_eq_left hle, Nat.sub_self, alignDown_zero]
          rfl
      rw [written_append, hrest, returns_callAudio hfirst]
      change (((input.bytes.drop input.pos).take (min remaining chunkBytes)).take
        (alignDown (min remaining chunkBytes) unit) ++ []) ++ _ = _
      rw [List.append_nil, List.take_take, Nat.min_eq_left (alignDown_le _ unit), hsplit,
        List.take_add]
      exact congrArg (List.append _) htail

/-! ## Playing a file -/

theorem bytesPerFrame_pos (config : AudioSessionConfig) : 0 < bytesPerFrame config :=
  lt_of_lt_of_le Nat.one_pos (Nat.le_max_left _ _)

theorem dvd_alignDown {value : Nat} (hunit : 0 < unit) : unit ∣ alignDown value unit := by
  unfold alignDown
  rw [if_neg hunit.ne']
  exact Nat.dvd_mul_left _ _

/-- Chunks are whole frames. -/
theorem chunkBytesFromArgs_whole (chunkArg : Option UInt32) (config : AudioSessionConfig)
    (session : AudioSession) :
    bytesPerFrame config ∣ chunkBytesFromArgs chunkArg config session ∧
      0 < chunkBytesFromArgs chunkArg config session := by
  unfold chunkBytesFromArgs
  dsimp only
  split
  · exact ⟨Nat.dvd_refl _, bytesPerFrame_pos config⟩
  · next hsome => exact ⟨dvd_alignDown (bytesPerFrame_pos config), Nat.pos_of_ne_zero hsome⟩

section Sessions

variable {args : AudioArgs} {exchanges : List AudioExchange}

theorem answers_parsed {α : Type} {parsed : Except CliFault α} (hparsed : ∃ value, parsed = .ok value) :
    Answers (ExceptT.mk (pure parsed)) := by
  obtain ⟨value, rfl⟩ := hparsed
  exact answers_pure value

theorem answers_playSession (hchunk : ∃ chunkArg, args.chunkBytes = .ok chunkArg)
    (config : AudioSessionConfig) (session : AudioSession) (input : InputFile)
    (remaining : Option Nat) : Answers (playSession args config session input remaining) :=
  (answers_callAudio _).bind fun _ => (answers_parsed hchunk).bind fun _ =>
    (answers_playLoop _ _ _ _ _).bind fun _ => (answers_callAudio _).bind fun _ =>
      (answers_callAudio _).bind fun _ => (answers_callAudio _).bind fun _ => answers_pure _

variable {front data : Bytes}

theorem playSession_written {config : AudioSessionConfig} {session : AudioSession}
    {played : UInt64}
    (hreturns : (playSession args config session (.cut front data) (some data.length)).run.Returns
      exchanges (.ok played)) :
    written exchanges = data.take (alignDown data.length (bytesPerFrame config)) := by
  obtain ⟨_, starting, exchanges, rfl, hstart, hreturns⟩ := returns_bind_ok hreturns
  obtain ⟨chunkArg, parsing, exchanges, rfl, hparsing, hreturns⟩ := returns_bind_ok hreturns
  obtain ⟨_, playing, exchanges, rfl, hplaying, hreturns⟩ := returns_bind_ok hreturns
  obtain ⟨_, draining, exchanges, rfl, hdraining, hreturns⟩ := returns_bind_ok hreturns
  obtain ⟨_, stopping, exchanges, rfl, hstopping, hreturns⟩ := returns_bind_ok hreturns
  obtain ⟨_, closing, exchanges, rfl, hclosing, ⟨rfl, -⟩⟩ := returns_bind_ok hreturns
  obtain ⟨rfl, -⟩ := hparsing
  obtain ⟨hwhole, hpos⟩ := chunkBytesFromArgs_whole chunkArg config session
  have hloop := playLoop_written hwhole hpos rfl (by
    change front.length + data.length ≤ (front ++ data).length
    rw [List.length_append]) hplaying
  change _ = ((front ++ data).drop front.length).take _ at hloop
  rw [List.drop_left] at hloop
  rw [returns_callAudio hstart, returns_callAudio hdraining, returns_callAudio hstopping,
    returns_callAudio hclosing]
  simp only [written_append, hloop]
  exact List.append_nil _

variable {files : Bytes → Option Bytes} {file : Bytes} {wav : WavInfo}

/-- The program of a path whose file has a header. -/
theorem runPlayback_of_header (hpath : args.path ≠ []) (hfile : files args.path = some file)
    (hread : readWavHeader { bytes := file } {} = .ok (some wav, input)) :
    runPlayback files args =
      (callAudio (.createPlaybackSession (applyWavInfo args.config wav)) >>= fun session =>
        closingOnFault
          (playSession args (applyWavInfo args.config wav) session input (some wav.dataBytes)) >>=
        fun playedBytes => pure { session, playedBytes }) := by
  unfold runPlayback
  rw [if_neg hpath, hfile]
  dsimp only
  rw [hread]
  rfl

theorem answers_runPlayback (hpath : args.path ≠ []) (hfile : files args.path = some file)
    (hread : readWavHeader { bytes := file } {} = .ok (some wav, input))
    (hchunk : ∃ chunkArg, args.chunkBytes = .ok chunkArg) : Answers (runPlayback files args) := by
  rw [runPlayback_of_header hpath hfile hread]
  exact (answers_callAudio _).bind fun _ =>
    (answers_playSession hchunk _ _ _ _).closingOnFault.bind fun _ => answers_pure _

theorem runPlayback_written {report : PlaybackReport} (hpath : args.path ≠ [])
    (hfile : files args.path = some file)
    (hread : readWavHeader { bytes := file } {} = .ok (some wav, .cut front data))
    (hsize : wav.dataBytes = data.length)
    (hreturns : (runPlayback files args).run.Returns exchanges (.ok report)) :
    written exchanges =
      data.take (alignDown data.length (bytesPerFrame (applyWavInfo args.config wav))) := by
  rw [runPlayback_of_header hpath hfile hread, hsize] at hreturns
  obtain ⟨session, creating, exchanges, rfl, hcreate, hreturns⟩ := returns_bind_ok hreturns
  obtain ⟨played, playing, exchanges, rfl, hplaying, ⟨rfl, -⟩⟩ := returns_bind_ok hreturns
  obtain ⟨inside, later, rfl, hinside, hlater⟩ := returns_closingOnFault hplaying
  rw [hlater played rfl, List.append_nil, List.append_nil, written_append,
    returns_callAudio hcreate, playSession_written hinside]
  rfl

/-! ## Recording a file -/

/-- What a call brings of the recorded bytes. -/
def capturedIn : AudioExchange → Bytes
  | ⟨.readFrames _, .ok result⟩ => if result.ok then result.data else []
  | _ => []

def captured (exchanges : List AudioExchange) : Bytes := exchanges.flatMap capturedIn

theorem captured_append (earlier later : List AudioExchange) :
    captured (earlier ++ later) = captured earlier ++ captured later := List.flatMap_append

theorem answers_recordLoop (chunkBytes unit target : Nat) (recorded : Bytes) :
    Answers (recordLoop chunkBytes unit target recorded) := by
  induction recorded using recordLoop.induct chunkBytes target with
  | case1 recorded hless ih =>
      rw [recordLoop, dif_pos hless]
      refine (answers_callAudio _).bind fun result => ?_
      split
      · exact answers_pure _
      · next hdata => exact ih result hdata
  | case2 recorded hends =>
      rw [recordLoop, dif_neg hends]
      exact answers_pure _

/-- The loop keeps what is captured, up to its target. -/
theorem recordLoop_captured {chunkBytes target : Nat} {recorded final : Bytes}
    (hreturns : (recordLoop chunkBytes unit target recorded).run.Returns exchanges (.ok final)) :
    final = recorded ++ (captured exchanges).take (target - recorded.length) := by
  induction recorded using recordLoop.induct chunkBytes target generalizing exchanges with
  | case1 recorded hless ih =>
      rw [recordLoop, dif_pos hless] at hreturns
      obtain ⟨result, earlier, later, rfl, hcall, hrest⟩ := returns_bind_ok hreturns
      have hcaptured : captured earlier = if result.ok then result.data else [] := by
        rw [returns_callAudio hcall]
        exact List.append_nil _
      rw [captured_append, hcaptured]
      split at hrest
      · next hends =>
          obtain ⟨rfl, hfinal⟩ := hrest
          cases hfinal
          have hnone : (if result.ok then result.data else []) = [] := by
            rcases hends with hnot | hempty
            · rw [hnot]
              rfl
            · rw [hempty, ite_self]
          rw [hnone]
          change final = final ++ List.take _ []
          rw [List.take_nil, List.append_nil]
      · next hdata =>
          obtain ⟨hok, -⟩ := not_or.mp hdata
          have hleft : target - (recorded ++ result.data.take (target - recorded.length)).length =
              target - recorded.length - result.data.length := by
            rw [List.length_append, List.length_take]
            omega
          rw [ih result hdata hrest, if_pos (eq_true_of_ne_false hok), List.take_append,
            List.append_assoc, hleft]
  | case2 recorded hends =>
      rw [recordLoop, dif_neg hends] at hreturns
      obtain ⟨rfl, hfinal⟩ := hreturns
      cases hfinal
      rw [Nat.sub_eq_zero_of_le (not_lt.mp hends), List.take_zero, List.append_nil]

theorem recordSession_captured {session : AudioSession} {recorded : Bytes}
    (hreturns : (recordSession args session).run.Returns exchanges (.ok recorded)) :
    ∃ durationMs, args.durationMs = .ok durationMs ∧
      recorded = (captured exchanges).take (targetBytes durationMs args.config) := by
  obtain ⟨_, starting, exchanges, rfl, hstart, hreturns⟩ := returns_bind_ok hreturns
  obtain ⟨_, parsing, exchanges, rfl, hparsing, hreturns⟩ := returns_bind_ok hreturns
  obtain ⟨durationMs, timing, exchanges, rfl, htiming, hreturns⟩ := returns_bind_ok hreturns
  obtain ⟨final, reading, exchanges, rfl, hreading, hreturns⟩ := returns_bind_ok hreturns
  obtain ⟨_, stopping, exchanges, rfl, hstopping, hreturns⟩ := returns_bind_ok hreturns
  obtain ⟨_, closing, exchanges, rfl, hclosing, ⟨rfl, hfinal⟩⟩ := returns_bind_ok hreturns
  obtain ⟨rfl, -⟩ := hparsing
  obtain ⟨rfl, hduration⟩ := htiming
  cases hfinal
  refine ⟨durationMs, hduration, (recordLoop_captured hreading).trans ?_⟩
  rw [returns_callAudio hstart, returns_callAudio hstopping, returns_callAudio hclosing]
  simp only [captured_append]
  change (captured reading).take _ =
    ([] ++ ([] ++ ([] ++ (captured reading ++ ([] ++ ([] ++ [])))))).take _
  rw [List.nil_append, List.nil_append, List.nil_append, List.nil_append, List.nil_append,
    List.append_nil]
  rfl

theorem answers_recordSession (hchunk : ∃ chunkArg, args.chunkBytes = .ok chunkArg)
    (hduration : ∃ durationMs, args.durationMs = .ok durationMs) (session : AudioSession) :
    Answers (recordSession args session) :=
  (answers_callAudio _).bind fun _ => (answers_parsed hchunk).bind fun _ =>
    (answers_parsed hduration).bind fun _ => (answers_recordLoop _ _ _ _).bind fun _ =>
      (answers_callAudio _).bind fun _ => (answers_callAudio _).bind fun _ => answers_pure _

variable {writable : Bytes → Bool}

theorem runRecord_of_path {header : Bytes} (hpath : args.path ≠ [])
    (hwritable : writable args.path = true) (hheader : writeWavHeader args.config 0 = .ok header) :
    runRecord writable args =
      (callAudio (.createCaptureSession args.config) >>= fun session =>
        closingOnFault (recordSession args session) >>= fun recorded =>
          orThrow (writeWavHeader args.config recorded.length) >>= fun patch =>
            pure
              { session
                contents := some (poke (header ++ recorded) 0 patch)
                recordedBytes := recorded.length }) := by
  unfold runRecord
  rw [if_neg hpath, hwritable, hheader]
  rfl

/-- The first header, of no data. -/
theorem writeWavHeader_zero (config : AudioSessionConfig) :
    ∃ header, writeWavHeader config 0 = .ok header ∧ header.length = 44 := by
  obtain ⟨riffSize, hheader⟩ := @writeWavHeader_parts config 0 (by decide)
  exact ⟨_, hheader, (writeWavHeader_ok hheader).2⟩

theorem runRecord_file {report : RecordReport} (hpath : args.path ≠ [])
    (hwritable : writable args.path = true)
    (hreturns : (runRecord writable args).run.Returns exchanges (.ok report)) :
    ∃ durationMs header recorded, args.durationMs = .ok durationMs ∧
      recorded = (captured exchanges).take (targetBytes durationMs args.config) ∧
      writeWavHeader args.config recorded.length = .ok header ∧
      report.contents = some (header ++ recorded) ∧ report.recordedBytes = recorded.length := by
  obtain ⟨header, hheader, hlength⟩ := writeWavHeader_zero args.config
  rw [runRecord_of_path hpath hwritable hheader] at hreturns
  obtain ⟨session, creating, exchanges, rfl, hcreate, hreturns⟩ := returns_bind_ok hreturns
  obtain ⟨recorded, recording, patching, rfl, hrecording, hpatching⟩ := returns_bind_ok hreturns
  obtain ⟨inside, later, rfl, hinside, hlater⟩ := returns_closingOnFault hrecording
  obtain ⟨durationMs, hduration, hrecorded⟩ := recordSession_captured hinside
  cases hpatch : writeWavHeader args.config recorded.length with
  | error text =>
      rw [hpatch] at hpatching
      cases hpatching.2
  | ok patch =>
      rw [hpatch] at hpatching
      obtain ⟨rfl, hreport⟩ := hpatching
      cases hreport
      refine ⟨durationMs, patch, recorded, hduration, ?_, hpatch, ?_, rfl⟩
      · rw [hlater recorded rfl, List.append_nil, List.append_nil, captured_append,
          returns_callAudio hcreate]
        exact hrecorded
      · change some (([] ++ patch) ++ (header ++ recorded).drop (0 + patch.length)) = _
        rw [Nat.zero_add, (writeWavHeader_ok hpatch).2, ← hlength, List.drop_left, List.nil_append]

/-- Only a call or a recording that is too long keeps a recording from its end. -/
theorem runRecord_ends {result : Except CliFault RecordReport} (hpath : args.path ≠ [])
    (hwritable : writable args.path = true) (hchunk : ∃ chunkArg, args.chunkBytes = .ok chunkArg)
    (hduration : ∃ durationMs, args.durationMs = .ok durationMs)
    (hreturns : (runRecord writable args).run.Returns exchanges result)
    (hsucceeds : ∀ exchange ∈ exchanges, Succeeds exchange)
    (hsize : 36 + (captured exchanges).length < 2 ^ 32) : ∃ report, result = .ok report := by
  obtain ⟨header, hheader, hlength⟩ := writeWavHeader_zero args.config
  rw [runRecord_of_path hpath hwritable hheader] at hreturns
  cases result with
  | ok report => exact ⟨report, rfl⟩
  | error fault =>
      exfalso
      rcases returns_bind_error hreturns with ⟨earlier, later, rfl, hearlier⟩ |
        ⟨session, creating, exchanges, rfl, hcreate, hreturns⟩
      · obtain ⟨exchange, hmem, hthrows⟩ := answers_callAudio _ _ _ hearlier
        exact hthrows (hsucceeds exchange (List.mem_append_left _ hmem))
      rcases returns_bind_error hreturns with ⟨earlier, later, rfl, hearlier⟩ |
        ⟨recorded, recording, patching, rfl, hrecording, hpatching⟩
      · obtain ⟨exchange, hmem, hthrows⟩ :=
          (answers_recordSession hchunk hduration session).closingOnFault _ _ hearlier
        exact hthrows (hsucceeds exchange
          (List.mem_append_right _ (List.mem_append_left _ hmem)))
      obtain ⟨inside, later, rfl, hinside, -⟩ := returns_closingOnFault hrecording
      obtain ⟨durationMs, -, hrecorded⟩ := recordSession_captured hinside
      have hshort : recorded.length ≤ (captured inside).length := by
        rw [hrecorded]
        exact List.length_take_le' _ _
      simp only [captured_append, List.length_append] at hsize
      obtain ⟨riffSize, hpatch⟩ := writeWavHeader_parts args.config
        (by omega : 36 + recorded.length < 2 ^ 32)
      rw [hpatch] at hpatching
      cases hpatching.2

end Sessions

/-! ## Files that are kept -/

/-- When no call throws the playback returns, and then `writeFrames` was passed all whole frames of
the data. -/
def PlaysWhole (config : AudioSessionConfig) (file data : Bytes) : Prop :=
  ∀ (files : Bytes → Option Bytes) (args : AudioArgs) exchanges result, args.path ≠ [] →
    files args.path = some file → (runPlayback files args).run.Returns exchanges result →
      ((∃ chunkArg, args.chunkBytes = .ok chunkArg) →
        (∀ exchange ∈ exchanges, Succeeds exchange) → ∃ report, result = .ok report) ∧
      ∀ report, result = .ok report →
        written exchanges = data.take (alignDown data.length (bytesPerFrame config))

/-- When no call throws the recording returns, and then it leaves a file of which what was captured
up to its target is read. -/
def LeavesRecording (config : AudioSessionConfig) : Prop :=
  ∀ (writable : Bytes → Bool) (args : AudioArgs) exchanges result, args.config = config →
    args.path ≠ [] → writable args.path = true →
    (runRecord writable args).run.Returns exchanges result →
      ((∃ chunkArg, args.chunkBytes = .ok chunkArg) →
        (∃ durationMs, args.durationMs = .ok durationMs) →
        (∀ exchange ∈ exchanges, Succeeds exchange) →
        36 + (captured exchanges).length < 2 ^ 32 → ∃ report, result = .ok report) ∧
      ∀ report, result = .ok report → ∃ durationMs front recorded,
        args.durationMs = .ok durationMs ∧
        recorded = (captured exchanges).take (targetBytes durationMs config) ∧
        report.recordedBytes = recorded.length ∧
        report.contents = some (front ++ recorded) ∧ ReadsBack config front recorded

theorem playsWhole_of_readsBack {config : AudioSessionConfig} {front data : Bytes}
    (hreads : ReadsBack config front data) : PlaysWhole config (front ++ data) data := by
  intro files args exchanges result hpath hfile hreturns
  have hread := hreads { bytes := front ++ data } {} rfl
  refine ⟨fun hchunk hsucceeds => ?_, fun report hreport => ?_⟩
  · cases result with
    | ok report => exact ⟨report, rfl⟩
    | error fault =>
        obtain ⟨exchange, hmem, hthrows⟩ :=
          answers_runPlayback hpath hfile hread hchunk _ _ hreturns
        exact absurd (hsucceeds exchange hmem) hthrows
  · rw [hreport] at hreturns
    exact runPlayback_written hpath hfile hread rfl hreturns

structure WavKept (config : AudioSessionConfig) : Prop where
  reads : ∀ (data : Bytes) (before between : List RiffChunk), 36 + data.length < 2 ^ 32 →
    ∃ header, writeWavHeader config data.length = .ok header ∧
      ReadsBack config (withChunks header before between) data ∧
      PlaysWhole config (withChunks header before between ++ data) data
  records : LeavesRecording config

/-- What is written is read back, played and recorded whole. -/
theorem wav_files_kept {config : AudioSessionConfig} (hsample : 1 ≤ config.bytesPerSample.toNat)
    (hwidth : config.bytesPerSample.toNat < 8192) : WavKept config := by
  refine ⟨fun data before between hsize => ?_, ?_⟩
  · obtain ⟨header, hheader, hreads⟩ :=
      readWavHeader_withChunks hsample hwidth hsize before between
    exact ⟨header, hheader, hreads, playsWhole_of_readsBack hreads⟩
  · rintro writable args exchanges result rfl hpath hwritable hreturns
    refine ⟨fun hchunk hduration hsucceeds hsize =>
      runRecord_ends hpath hwritable hchunk hduration hreturns hsucceeds hsize,
      fun report hreport => ?_⟩
    rw [hreport] at hreturns
    obtain ⟨durationMs, header, recorded, hduration, hrecorded, hheader, hcontents, hbytes⟩ :=
      runRecord_file hpath hwritable hreturns
    obtain ⟨header', hheader', hreads⟩ :=
      readWavHeader_withChunks hsample hwidth (writeWavHeader_ok hheader).1 [] []
    rw [hheader] at hheader'
    cases hheader'
    rw [withChunks_nil] at hreads
    exact ⟨durationMs, header, recorded, hduration, hrecorded, hbytes, hcontents, hreads⟩

theorem wav_files_kept_stereo :
    WavKept
      { sessionId := [], sampleRate := 48000, channels := 2, bytesPerSample := 3
        sampleFormat := asciiBytes "s24le", deviceName := [], driverFactory := []
        blockingWrite := true } :=
  wav_files_kept (by decide) (by decide)

end AudioStudio.Cli
