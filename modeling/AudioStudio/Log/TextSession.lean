import AudioStudio.Log.Service
import Mathlib.Data.List.TakeWhile
import Mathlib.Tactic.Ring

/-!
# Text of a session

What `readEntries` returns over many calls, against the lines of the stream that
the device delivers.
-/

namespace AudioStudio.Log

open AudioStudio.Common
open LittleEndian

/-! ## Lines of a stream -/

/-- The non-empty lines of a text, without their carriage returns. -/
def textLines (text : Bytes) : List Bytes :=
  ((text.splitOn newline).map chompLine).filter (· ≠ [])

/-- No line is begun at the end of the text. -/
def Closed (text : Bytes) : Prop :=
  text = [] ∨ text.getLast? = some newline

theorem textLines_append_newline (first second : Bytes) :
    textLines (first ++ newline :: second) = textLines first ++ textLines second := by
  unfold textLines
  rw [List.splitOn_eq_splitOnP, List.splitOnP_append_cons first second (by simp),
    List.map_append, List.filter_append]
  rfl

theorem textLines_nil : textLines [] = [] := by
  decide

theorem textLines_append {first : Bytes} (hclosed : Closed first) (second : Bytes) :
    textLines (first ++ second) = textLines first ++ textLines second := by
  rcases hclosed with hnil | hlast
  · rw [hnil, textLines_nil]
    rfl
  · obtain ⟨front, hfront⟩ := List.getLast?_eq_some_iff.mp hlast
    rw [hfront, List.append_assoc, List.singleton_append, textLines_append_newline,
      textLines_append_newline, textLines_nil, List.append_nil]

theorem textLines_line {line : Bytes} (hline : newline ∉ line) :
    textLines (line ++ [newline]) = if chompLine line = [] then [] else [chompLine line] := by
  have hsplit : line.splitOn newline = [line] := by
    rw [List.splitOn_eq_splitOnP]
    refine List.splitOnP_eq_singleton fun byte hbyte => ?_
    simpa using fun heq : byte = newline => hline (heq ▸ hbyte)
  rw [textLines_append_newline, textLines_nil, List.append_nil, textLines, hsplit]
  split
  · next hempty => simp [hempty]
  · next hempty => simp [hempty]

/-- The entries of lines that are decoded one after another. -/
def decodeLines (intercept : LogEntry → Bool) (minLevel : Bytes) (sequence : Int) :
    List Bytes → List LogEntry
  | [] => []
  | line :: lines =>
      let entry := decodeLine sequence line
      let later := decodeLines intercept minLevel (sequence + 1) lines
      if !passesLevel entry.level minLevel ∨ intercept entry then later else entry :: later

theorem decodeLines_append (intercept : LogEntry → Bool) (minLevel : Bytes) (sequence : Int)
    (first second : List Bytes) :
    decodeLines intercept minLevel sequence (first ++ second) =
      decodeLines intercept minLevel sequence first ++
        decodeLines intercept minLevel (sequence + first.length) second := by
  induction first generalizing sequence with
  | nil => simp [decodeLines]
  | cons line lines ih =>
      have hsequence : sequence + 1 + (lines.length : Int) =
          sequence + ((line :: lines).length : Int) := by
        rw [List.length_cons]
        push_cast
        ring
      simp only [List.cons_append, decodeLines, ih, hsequence]
      split <;> simp

/-! ## Taking lines off the pending text -/

theorem takeLine_eq_none {text : Bytes} (htake : takeLine text = none) : newline ∉ text := by
  unfold takeLine at htake
  split at htake
  · next hdrop =>
      intro hmem
      have hall := List.dropWhile_eq_nil_iff.mp hdrop newline hmem
      simp at hall
  · cases htake

theorem takeLine_eq_some {text line rest : Bytes} (htake : takeLine text = some (line, rest)) :
    text = line ++ newline :: rest ∧ newline ∉ line := by
  unfold takeLine at htake
  split at htake
  · cases htake
  · next byte tail hdrop =>
      cases htake
      have hhead := List.head?_dropWhile_not (· ≠ newline) text
      rw [hdrop] at hhead
      have hbyte : byte = newline := by simpa using hhead
      refine ⟨?_, fun hmem => ?_⟩
      · have hsplit : text.takeWhile (· ≠ newline) ++ text.dropWhile (· ≠ newline) = text :=
          List.takeWhile_append_dropWhile
        rw [hdrop, hbyte] at hsplit
        exact hsplit.symm
      · have hall := List.mem_takeWhile_imp hmem
        simp at hall

variable {intercept : LogEntry → Bool} {minLevel : Bytes} {sequence : Int}

/-- What the call and the calls before it have made of a closed part of the stream. -/
structure Decoded (intercept : LogEntry → Bool) (minLevel : Bytes) (sequence : Int)
    (before : List LogEntry) (consumed : Bytes) (reading : Reading) : Prop where
  closed : Closed consumed
  level : reading.session.minLevel = minLevel
  running : reading.session.running = true
  hasDevice : reading.session.hasDevice = true
  entries : before ++ reading.entries =
    decodeLines intercept minLevel sequence (textLines consumed)
  nextSequence : reading.service.nextSequence = sequence + (textLines consumed).length

namespace Decoded

variable {before : List LogEntry} {consumed : Bytes} {reading : Reading}

theorem setPending (hdecoded : Decoded intercept minLevel sequence before consumed reading)
    (pending : Bytes) :
    Decoded intercept minLevel sequence before consumed (reading.setPending pending) where
  closed := hdecoded.closed
  level := hdecoded.level
  running := hdecoded.running
  hasDevice := hdecoded.hasDevice
  entries := hdecoded.entries
  nextSequence := hdecoded.nextSequence

/-- One more line of the stream. -/
theorem line (hdecoded : Decoded intercept minLevel sequence before consumed reading)
    {line : Bytes} (hline : newline ∉ line) :
    Decoded intercept minLevel sequence before (consumed ++ (line ++ [newline]))
      (reading.takeText intercept line) := by
  have hclosed : Closed (consumed ++ (line ++ [newline])) := by
    right
    simp
  have hlines := textLines_append hdecoded.closed (line ++ [newline])
  rw [textLines_line hline] at hlines
  unfold Reading.takeText
  split
  · next hempty =>
      rw [if_pos hempty, List.append_nil] at hlines
      exact ⟨hclosed, hdecoded.level, hdecoded.running, hdecoded.hasDevice,
        hlines ▸ hdecoded.entries, hlines ▸ hdecoded.nextSequence⟩
  · next hempty =>
      rw [if_neg hempty] at hlines
      have hentries := decodeLines_append intercept minLevel sequence (textLines consumed)
        [chompLine line]
      rw [← hlines, ← hdecoded.entries, ← hdecoded.nextSequence] at hentries
      have hsequence : reading.service.nextSequence + 1 =
          sequence + (textLines (consumed ++ (line ++ [newline]))).length := by
        rw [hlines, hdecoded.nextSequence, List.length_append, List.length_singleton]
        push_cast
        ring
      unfold Reading.acceptLine
      rw [hdecoded.level]
      dsimp only
      split
      · next hfiltered =>
          refine ⟨hclosed, hdecoded.level, hdecoded.running, hdecoded.hasDevice, ?_, hsequence⟩
          rw [hentries]
          simp only [decodeLines, if_pos hfiltered, List.append_nil]
      · next hpassed =>
          refine ⟨hclosed, hdecoded.level, hdecoded.running, hdecoded.hasDevice, ?_, hsequence⟩
          rw [hentries]
          simp only [decodeLines, if_neg hpassed, List.append_assoc]

end Decoded

/-- `parseTextLines` takes complete lines only, and all of them unless the batch is full. -/
theorem parsePending_decoded (maxEntries : Nat) (pending : Bytes) {before : List LogEntry}
    {consumed : Bytes} {reading : Reading}
    (hdecoded : Decoded intercept minLevel sequence before consumed reading) :
    ∃ consumed', Decoded intercept minLevel sequence before consumed'
        (reading.parsePending intercept maxEntries pending) ∧
      consumed ++ pending =
        consumed' ++ (reading.parsePending intercept maxEntries pending).session.textPending ∧
      ((reading.parsePending intercept maxEntries pending).entries.length < maxEntries →
        newline ∉ (reading.parsePending intercept maxEntries pending).session.textPending) := by
  fun_induction Reading.parsePending intercept maxEntries pending reading generalizing consumed with
  | case1 pending reading hroom htake =>
      exact ⟨consumed, hdecoded.setPending pending, rfl, fun _ => takeLine_eq_none htake⟩
  | case2 pending reading hroom line rest htake ih =>
      obtain ⟨hpending, hline⟩ := takeLine_eq_some htake
      obtain ⟨consumed', hdecoded', hconsumed', hdone⟩ := ih (hdecoded.line hline)
      refine ⟨consumed', hdecoded', ?_, hdone⟩
      rw [← hconsumed', hpending]
      simp
  | case3 pending reading hroom =>
      exact ⟨consumed, hdecoded.setPending pending, rfl, fun hlt => absurd hlt hroom⟩

/-! ## Runs of calls -/

/-- All bytes that the reads of a device bring. -/
def streamOf (reads : List ChunkRead) : Bytes :=
  reads.flatMap fun read => read.toOption.getD []

/-- A read that fails finds no pending text, and an empty chunk no complete line in it. -/
def undisturbed (intercept : LogEntry → Bool) (maxEntries : Nat) :
    List ChunkRead → Reading → Bool
  | reads, reading =>
      if reading.entries.length < maxEntries then
        match reads with
        | [] => true
        | .error _ :: _ => reading.session.textPending = []
        | .ok chunk :: reads =>
            if chunk = [] then newline ∉ reading.session.textPending
            else undisturbed intercept maxEntries reads
              (reading.countChunk.parseTextLines intercept maxEntries chunk)
      else true

/-- The entries that a call hands to its caller. -/
def returnedBy : Result Unit × Reading → List LogEntry
  | (.ok (), reading) => reading.entries
  | (.error _, _) => []

theorem streamOf_ok (chunk : Bytes) (reads : List ChunkRead) :
    streamOf (.ok chunk :: reads) = chunk ++ streamOf reads := rfl

/-- A failed read without pending text adds nothing. -/
theorem failRead_quiet (status : Status) {reading : Reading}
    (hpending : reading.session.textPending = []) :
    (reading.failRead intercept status).2 = reading ∧
      returnedBy (reading.failRead intercept status) = reading.entries := by
  unfold Reading.failRead
  rw [if_neg (not_not.mpr hpending)]
  split
  · next hnone => exact ⟨rfl, hnone.symm⟩
  · exact ⟨rfl, rfl⟩

/-- An undisturbed call decodes a closed part of the stream and leaves the rest pending. -/
theorem readEntriesLoop_decoded {maxEntries : Nat} {reads later : List ChunkRead}
    {before : List LogEntry} {consumed : Bytes} {reading : Reading}
    {outcome : Result Unit × Reading}
    (hdecoded : Decoded intercept minLevel sequence before consumed reading)
    (hundisturbed : undisturbed intercept maxEntries reads reading = true)
    (hread : readEntriesLoop intercept maxEntries reads reading = some (outcome, later)) :
    ∃ consumed', Decoded intercept minLevel sequence before consumed' outcome.2 ∧
      consumed ++ reading.session.textPending ++ streamOf reads =
        consumed' ++ outcome.2.session.textPending ++ streamOf later ∧
      returnedBy outcome = outcome.2.entries := by
  fun_induction readEntriesLoop intercept maxEntries reads reading generalizing consumed with
  | case1 reads reading hroom hstopped =>
      simp [hdecoded.running] at hstopped
  | case2 reads reading hroom hrunning hdevice =>
      simp [hdecoded.hasDevice] at hdevice
  | case3 reading hroom hrunning hdevice =>
      cases hread
  | case4 reading hroom hrunning hdevice status reads =>
      unfold undisturbed at hundisturbed
      rw [if_pos hroom] at hundisturbed
      have hpending : reading.session.textPending = [] := of_decide_eq_true hundisturbed
      have hquiet : (reading.failRead intercept status).2 = reading ∧
          returnedBy (reading.failRead intercept status) = reading.entries :=
        failRead_quiet status hpending
      cases hread
      rw [hquiet.1, hquiet.2]
      exact ⟨consumed, hdecoded, rfl, rfl⟩
  | case5 reading hroom hrunning hdevice reads =>
      cases hread
      exact ⟨consumed, hdecoded, rfl, rfl⟩
  | case6 reading hroom hrunning hdevice chunk reads hchunk ih =>
      unfold undisturbed at hundisturbed
      rw [if_pos hroom] at hundisturbed
      dsimp only at hundisturbed
      rw [if_neg hchunk] at hundisturbed
      have hcount : Decoded intercept minLevel sequence before consumed reading.countChunk :=
        ⟨hdecoded.closed, hdecoded.level, hdecoded.running, hdecoded.hasDevice,
          hdecoded.entries, hdecoded.nextSequence⟩
      obtain ⟨middle, hmiddle, hparsed, _⟩ :=
        parsePending_decoded maxEntries (reading.session.textPending ++ chunk) hcount
      obtain ⟨consumed', hdecoded', hstream, hreturned⟩ := ih hmiddle hundisturbed hread
      refine ⟨consumed', hdecoded', ?_, hreturned⟩
      have hparsed' : consumed ++ (reading.session.textPending ++ chunk) =
          middle ++ (reading.countChunk.parseTextLines intercept maxEntries
            chunk).session.textPending := hparsed
      rw [← hstream, ← hparsed', streamOf_ok]
      simp only [List.append_assoc]
  | case7 reads reading hroom =>
      cases hread
      exact ⟨consumed, hdecoded, rfl, rfl⟩

/-- A session between two calls, what its device will return, and the entries that
its caller has got. -/
structure TextState where
  service : LogService
  session : Session
  reads : List ChunkRead
  returned : List LogEntry := []
  deriving DecidableEq

namespace TextState

structure Fresh (state : TextState) : Prop where
  running : state.session.running = true
  hasDevice : state.session.hasDevice = true
  textPending : state.session.textPending = []
  returned : state.returned = []

def read (intercept : LogEntry → Bool) (maxEntries : Nat) (state : TextState) :
    Option ((Result Unit × Reading) × List ChunkRead) :=
  readEntries intercept maxEntries state.reads state.service state.session

def after (state : TextState) (outcome : Result Unit × Reading) (later : List ChunkRead) :
    TextState where
  service := outcome.2.service
  session := outcome.2.session
  reads := later
  returned := state.returned ++ returnedBy outcome

/-- Every read of the next call that fails, and every empty chunk, finds the pending
text in order. -/
def Untroubled (intercept : LogEntry → Bool) (maxEntries : Nat) (state : TextState) : Prop :=
  undisturbed intercept maxEntries state.reads
    { service := state.service, session := state.session } = true

/-- The states after any number of permitted calls. -/
inductive Reach (intercept : LogEntry → Bool) (permitted : Nat → TextState → Prop)
    (initial : TextState) : TextState → Prop where
  | start : Reach intercept permitted initial initial
  | call {state : TextState} {maxEntries : Nat} {outcome : Result Unit × Reading}
      {later : List ChunkRead} (hreach : Reach intercept permitted initial state)
      (hpermitted : permitted maxEntries state)
      (hread : state.read intercept maxEntries = some (outcome, later)) :
      Reach intercept permitted initial (state.after outcome later)

variable {initial state : TextState}

/-- The entries of the whole stream. -/
def expected (intercept : LogEntry → Bool) (initial : TextState) : List LogEntry :=
  decodeLines intercept initial.session.minLevel initial.service.nextSequence
    (textLines (streamOf initial.reads))

/-- The calls so far have decoded `consumed`. -/
structure Consistent (intercept : LogEntry → Bool) (initial : TextState) (consumed : Bytes)
    (state : TextState) : Prop where
  decoded : Decoded intercept initial.session.minLevel initial.service.nextSequence
    state.returned consumed { service := state.service, session := state.session }
  stream : streamOf initial.reads =
    consumed ++ state.session.textPending ++ streamOf state.reads

theorem Consistent.call {consumed : Bytes} {maxEntries : Nat}
    {outcome : Result Unit × Reading} {later : List ChunkRead}
    (hconsistent : Consistent intercept initial consumed state)
    (hundisturbed : state.Untroubled intercept maxEntries)
    (hread : state.read intercept maxEntries = some (outcome, later)) :
    ∃ consumed', Consistent intercept initial consumed' (state.after outcome later) := by
  unfold TextState.read readEntries at hread
  dsimp only at hread
  split at hread
  · cases hread
    have hsame : state.after (.error (.invalidArgument "log read max_entries is zero"),
        { service := state.service, session := state.session }) state.reads = state := by
      simp [after, returnedBy]
    rw [hsame]
    exact ⟨consumed, hconsistent⟩
  · obtain ⟨consumed', hdecoded', hstream, hreturned⟩ :=
      readEntriesLoop_decoded hconsistent.decoded hundisturbed hread
    refine ⟨consumed', ⟨⟨hdecoded'.closed, hdecoded'.level, hdecoded'.running,
      hdecoded'.hasDevice, ?_, hdecoded'.nextSequence⟩, ?_⟩⟩
    · rw [← hdecoded'.entries]
      simp [after, hreturned]
    · rw [hconsistent.stream]
      exact hstream

theorem Reach.consistent (hfresh : initial.Fresh)
    (hreach : Reach intercept (Untroubled intercept) initial state) :
    ∃ consumed, Consistent intercept initial consumed state := by
  induction hreach with
  | start =>
      refine ⟨[], ⟨⟨Or.inl rfl, rfl, hfresh.running, hfresh.hasDevice, ?_, ?_⟩, ?_⟩⟩
      · rw [hfresh.returned, textLines_nil]
        rfl
      · rw [textLines_nil]
        simp
      · rw [hfresh.textPending]
        rfl
  | call _ hpermitted hread ih =>
      obtain ⟨consumed, hconsistent⟩ := ih
      exact hconsistent.call hpermitted hread

theorem Consistent.isPrefix {consumed : Bytes}
    (hconsistent : Consistent intercept initial consumed state) :
    state.returned <+: expected intercept initial := by
  have hentries : state.returned = decodeLines intercept initial.session.minLevel
      initial.service.nextSequence (textLines consumed) := by
    simpa using hconsistent.decoded.entries
  rw [expected, hconsistent.stream, List.append_assoc,
    textLines_append hconsistent.decoded.closed, decodeLines_append, ← hentries]
  exact List.prefix_append _ _

/-- A call at the end of the stream finds no complete line pending. -/
theorem Untroubled.newline_not_mem {maxEntries : Nat} {outcome : Result Unit × Reading}
    {later : List ChunkRead} (hmax : 0 < maxEntries)
    (huntroubled : state.Untroubled intercept maxEntries)
    (hread : state.read intercept maxEntries = some (outcome, later))
    (hrunning : state.session.running = true) (hdevice : state.session.hasDevice = true)
    (hended : streamOf state.reads = []) :
    newline ∉ state.session.textPending := by
  unfold TextState.Untroubled undisturbed at huntroubled
  rw [if_pos (show ([] : List LogEntry).length < maxEntries from hmax)] at huntroubled
  cases hreads : state.reads with
  | nil =>
      unfold TextState.read readEntries readEntriesLoop at hread
      simp [hreads, hrunning, hdevice, Nat.pos_iff_ne_zero.mp hmax, hmax] at hread
  | cons read reads =>
      rw [hreads] at huntroubled hended
      cases read with
      | error status =>
          have hpending : state.session.textPending = [] := of_decide_eq_true huntroubled
          rw [hpending]
          exact List.not_mem_nil
      | ok chunk =>
          have hchunk : chunk = [] := (List.append_eq_nil_iff.mp hended).1
          dsimp only at huntroubled
          rw [if_pos hchunk] at huntroubled
          exact of_decide_eq_true huntroubled

/-- Untroubled calls return each line of the stream once and in order, and all of
them once a call has met the end of a stream that ends in a newline. -/
theorem Reach.lines_once (hfresh : initial.Fresh)
    (hreach : Reach intercept (Untroubled intercept) initial state) :
    state.returned <+: expected intercept initial ∧
      ∀ maxEntries outcome later, 0 < maxEntries → state.Untroubled intercept maxEntries →
        state.read intercept maxEntries = some (outcome, later) →
        streamOf state.reads = [] → Closed (streamOf initial.reads) →
        state.returned ++ returnedBy outcome = expected intercept initial := by
  obtain ⟨consumed, hconsistent⟩ := hreach.consistent hfresh
  refine ⟨hconsistent.isPrefix, ?_⟩
  intro maxEntries outcome later hmax huntroubled hread hended hclosed
  have hnewline := huntroubled.newline_not_mem hmax hread hconsistent.decoded.running
    hconsistent.decoded.hasDevice hended
  have hstream : streamOf initial.reads = consumed ++ state.session.textPending := by
    rw [hconsistent.stream, hended, List.append_nil]
  have hpending : state.session.textPending = [] := by
    by_contra hne
    rw [hstream] at hclosed
    rcases hclosed with hnil | hlast
    · exact hne (List.append_eq_nil_iff.mp hnil).2
    · rw [List.getLast?_append, List.getLast?_eq_some_getLast hne] at hlast
      exact hnewline (Option.some.inj hlast ▸ List.getLast_mem hne)
  have hall : state.returned = expected intercept initial := by
    rw [expected, hstream, hpending, List.append_nil, ← hconsistent.decoded.entries]
    simp
  obtain ⟨consumed', hafter⟩ := hconsistent.call huntroubled hread
  have hprefix := hafter.isPrefix
  refine hprefix.eq_of_length_le ?_
  rw [← hall]
  exact (List.prefix_append _ _).length_le

/-- The state after a list of calls, if all of them return. -/
def afterCalls (intercept : LogEntry → Bool) : List Nat → TextState → Option TextState
  | [], state => some state
  | maxEntries :: calls, state =>
      match state.read intercept maxEntries with
      | none => none
      | some (outcome, later) => afterCalls intercept calls (state.after outcome later)

theorem Reach.afterCalls {calls : List Nat} {state' : TextState}
    (hreach : Reach intercept (fun _ _ => True) initial state)
    (hcalls : state.afterCalls intercept calls = some state') :
    Reach intercept (fun _ _ => True) initial state' := by
  induction calls generalizing state with
  | nil =>
      cases hcalls
      exact hreach
  | cons maxEntries calls ih =>
      unfold TextState.afterCalls at hcalls
      split at hcalls
      · cases hcalls
      · next hread => exact ih (hreach.call trivial hread) hcalls

/-- Two chunks with a line across them. -/
def splitText : TextState where
  service := {}
  session := { sessionId := "split-text-log", minLevel := asciiBytes "debug" }
  reads := [.ok (asciiBytes "info|FW|hel"), .ok (asciiBytes "lo\nwarning|FW|done\n"),
    .error (.unavailable "no chunk")]

theorem lines_once_split : ∃ state : TextState,
    state.returned.length = 2 ∧ state.returned <+: expected (fun _ => false) splitText := by
  have hread : (splitText.read (fun _ => false) 2).isSome = true := by
    decide +kernel
  let call := (splitText.read (fun _ => false) 2).get hread
  refine ⟨splitText.after call.1 call.2, ?_, ?_⟩
  · decide +kernel +revert
  · exact (Reach.lines_once ⟨rfl, rfl, rfl, rfl⟩
      (.call .start (by unfold Untroubled; decide +kernel) (Option.some_get hread).symm)).1

/-- Two lines in one chunk, read one entry at a time. -/
def twoLines : TextState where
  service := {}
  session := { sessionId := "log", minLevel := asciiBytes "debug" }
  reads := [.ok (asciiBytes "a\nb\n"), .error (.unavailable "no chunk")]

/-- The second line is still pending when the batch is full; the failed read turns it
into an entry together with its newline. -/
theorem batch_limit_merges_text : ∃ state,
    Reach (fun _ => false) (fun _ _ => True) twoLines state ∧
      ¬ state.returned <+: expected (fun _ => false) twoLines := by
  have hcalls : (twoLines.afterCalls (fun _ => false) [1, 1]).isSome = true := by
    decide +kernel
  refine ⟨(twoLines.afterCalls (fun _ => false) [1, 1]).get hcalls,
    Reach.start.afterCalls (Option.some_get hcalls).symm, ?_⟩
  decide +kernel +revert

end TextState

end AudioStudio.Log
