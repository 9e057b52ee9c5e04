import AudioStudio.Common.Status
import AudioStudio.Core.Text

/-!
# The log service

`log_service.cpp`: sessions read a device's text and store the entries in one
bounded list, from which mirror sessions read.  The service mutex makes every call
one step; a session is the map entry that its id names.
-/

namespace AudioStudio.Log

open AudioStudio.Common
open LittleEndian

def kMaxStoredEntries : Nat := 65536

structure LogEntry where
  sequence : Int := 0
  level : Bytes
  tag : Bytes
  message : Bytes
  text : Bytes
  deriving DecidableEq, Repr

def newline : UInt8 := 0x0a
def carriageReturn : UInt8 := 0x0d
def bar : UInt8 := 0x7c

/-! ## Levels -/

def levelRank (level : Bytes) : Nat :=
  if level = asciiBytes "critical" then 0
  else if level = asciiBytes "error" ∨ level = asciiBytes "err" then 1
  else if level = asciiBytes "warning" ∨ level = asciiBytes "warn" then 2
  else if level = asciiBytes "info" then 3
  else if level = asciiBytes "debug" then 4
  else if level = asciiBytes "verbose" then 5
  else 3

def normalizeLevel (level : Bytes) : Bytes :=
  let level := level.map toLower
  if level = asciiBytes "err" then asciiBytes "error"
  else if level = asciiBytes "warn" then asciiBytes "warning"
  else if level = [] then asciiBytes "info"
  else level

def passesLevel (level minLevel : Bytes) : Bool :=
  levelRank (normalizeLevel level) ≤ levelRank (normalizeLevel minLevel)

/-! ## Lines -/

/-- `level|tag|message`, or a message alone when there are not two bars. -/
def decodeLine (sequence : Int) (line : Bytes) : LogEntry :=
  let plain : LogEntry :=
    { sequence, level := asciiBytes "info", tag := asciiBytes "FW", message := line, text := line }
  match line.dropWhile (· ≠ bar) with
  | [] => plain
  | _ :: afterFirst =>
      match afterFirst.dropWhile (· ≠ bar) with
      | [] => plain
      | _ :: message =>
          let tag := afterFirst.takeWhile (· ≠ bar)
          { sequence
            level := normalizeLevel (line.takeWhile (· ≠ bar))
            tag := if tag = [] then asciiBytes "FW" else tag
            message := message
            text := message }

/-- The text before the first newline and the text behind it. -/
def takeLine (text : Bytes) : Option (Bytes × Bytes) :=
  match text.dropWhile (· ≠ newline) with
  | [] => none
  | _ :: rest => some (text.takeWhile (· ≠ newline), rest)

theorem takeLine_length {text line rest : Bytes} (htake : takeLine text = some (line, rest)) :
    rest.length < text.length := by
  unfold takeLine at htake
  split at htake
  · cases htake
  · next hdrop =>
      cases htake
      have hlength : (text.dropWhile (· ≠ newline)).length ≤ text.length :=
        (List.dropWhile_sublist _).length_le
      rw [hdrop, List.length_cons] at hlength
      exact hlength

/-- A line without the carriage return at its end. -/
def chompLine (line : Bytes) : Bytes :=
  if line.getLast? = some carriageReturn then line.dropLast else line

/-! ## Service and sessions -/

structure LogService where
  nextSequence : Int := 1
  entries : List LogEntry := []
  deriving DecidableEq, Repr

/-- A session without `trace_ldc`. -/
structure Session where
  sessionId : String
  minLevel : Bytes
  running : Bool := true
  hasDevice : Bool := true
  mirrorEntryCursor : Nat := 0
  entriesRead : Nat := 0
  rawChunksRead : Nat := 0
  textPending : Bytes := []
  deriving DecidableEq, Repr

namespace LogService

def appendEntry (entry : LogEntry) (service : LogService) : LogService :=
  let entries := service.entries ++ [entry]
  { service with entries := entries.drop (entries.length - kMaxStoredEntries) }

def append (intercept : LogEntry → Bool) (level message : Bytes) (service : LogService) :
    Result Unit × LogService :=
  if level = [] then (.error (.invalidArgument "log level is empty"), service)
  else if message = [] then (.error (.invalidArgument "log message is empty"), service)
  else
    let entry : LogEntry :=
      { sequence := service.nextSequence
        level := normalizeLevel level
        tag := asciiBytes "APP"
        message := message
        text := message }
    let service := { service with nextSequence := service.nextSequence + 1 }
    if intercept entry then (.ok (), service)
    else (.ok (), service.appendEntry entry)

def clear (service : LogService) : LogService :=
  { service with entries := [] }

end LogService

/-! ## Reading entries -/

/-- What a `readEntries` call works on; `entries` is its output. -/
structure Reading where
  service : LogService
  session : Session
  entries : List LogEntry := []
  deriving DecidableEq, Repr

namespace Reading

/-- Decode one line and store its entry, unless a filter takes it. -/
def acceptLine (intercept : LogEntry → Bool) (line : Bytes) (reading : Reading) : Reading :=
  let entry := decodeLine reading.service.nextSequence line
  let service :=
    { reading.service with nextSequence := reading.service.nextSequence + 1 }
  if !passesLevel entry.level reading.session.minLevel ∨ intercept entry then
    { reading with service := service }
  else
    { service := service.appendEntry entry
      session := { reading.session with entriesRead := reading.session.entriesRead + 1 }
      entries := reading.entries ++ [entry] }

/-- One line of the pending text; an empty line is no entry. -/
def takeText (intercept : LogEntry → Bool) (line : Bytes) (reading : Reading) : Reading :=
  if chompLine line = [] then reading else reading.acceptLine intercept (chompLine line)

def setPending (pending : Bytes) (reading : Reading) : Reading :=
  { reading with session := { reading.session with textPending := pending } }

/-- The loop of `parseTextLines` over the pending text. -/
def parsePending (intercept : LogEntry → Bool) (maxEntries : Nat) (pending : Bytes)
    (reading : Reading) : Reading :=
  if reading.entries.length < maxEntries then
    match _htake : takeLine pending with
    | none => reading.setPending pending
    | some (line, rest) =>
        parsePending intercept maxEntries rest (reading.takeText intercept line)
  else reading.setPending pending
termination_by pending.length
decreasing_by exact takeLine_length _htake

def parseTextLines (intercept : LogEntry → Bool) (maxEntries : Nat) (text : Bytes)
    (reading : Reading) : Reading :=
  reading.parsePending intercept maxEntries (reading.session.textPending ++ text)

/-- A failed read: pending text becomes an entry, else the status is returned unless
there are entries. -/
def failRead (intercept : LogEntry → Bool) (status : Status) (reading : Reading) :
    Result Unit × Reading :=
  if reading.session.textPending ≠ [] then
    (.ok (), (reading.acceptLine intercept reading.session.textPending).setPending [])
  else if reading.entries = [] then (.error status, reading)
  else (.ok (), reading)

def countChunk (reading : Reading) : Reading :=
  { reading with
    session := { reading.session with rawChunksRead := reading.session.rawChunksRead + 1 } }

end Reading

/-- What `readChunk` returns: a chunk, which can be empty, or a failure. -/
abbrev ChunkRead := Except Status Bytes

/-- The loop of `readEntries`; `reads` is what the device will return, and no result
means that the call still waits for it. -/
def readEntriesLoop (intercept : LogEntry → Bool) (maxEntries : Nat) :
    List ChunkRead → Reading → Option ((Result Unit × Reading) × List ChunkRead)
  | reads, reading =>
      if reading.entries.length < maxEntries then
        if !reading.session.running then
          some (reading.failRead intercept
            (.unavailable ("log session is not running: " ++ reading.session.sessionId)), reads)
        else if !reading.session.hasDevice then
          some (reading.failRead intercept
            (.unavailable ("log session has no device: " ++ reading.session.sessionId)), reads)
        else match reads with
          | [] => none
          | .error status :: reads => some (reading.failRead intercept status, reads)
          | .ok chunk :: reads =>
              if chunk = [] then some ((.ok (), reading), reads)
              else readEntriesLoop intercept maxEntries reads
                (reading.countChunk.parseTextLines intercept maxEntries chunk)
      else some ((.ok (), reading), reads)

/-- `readMirrorEntriesLocked` over the stored entries from the cursor on. -/
def readMirrorLoop (maxEntries : Nat) :
    List LogEntry → Session → List LogEntry → Session × List LogEntry
  | [], session, entries => (session, entries)
  | entry :: unread, session, entries =>
      if entries.length < maxEntries then
        let session := { session with mirrorEntryCursor := session.mirrorEntryCursor + 1 }
        if !passesLevel entry.level session.minLevel then
          readMirrorLoop maxEntries unread session entries
        else
          readMirrorLoop maxEntries unread
            { session with entriesRead := session.entriesRead + 1 } (entries ++ [entry])
      else (session, entries)

def readMirrorEntries (maxEntries : Nat) (service : LogService) (session : Session) :
    Result (List LogEntry) × Session :=
  if !session.running then (.error (.unavailable ("log session is not running: " ++ session.sessionId)), session)
  else
    let unread := service.entries.drop session.mirrorEntryCursor
    let (session, entries) := readMirrorLoop maxEntries unread session []
    (.ok entries, session)

/-- `readEntries` of a text session. -/
def readEntries (intercept : LogEntry → Bool) (maxEntries : Nat) (reads : List ChunkRead)
    (service : LogService) (session : Session) :
    Option ((Result Unit × Reading) × List ChunkRead) :=
  let reading : Reading := { service, session }
  if maxEntries = 0 then
    some ((.error (.invalidArgument "log read max_entries is zero"), reading), reads)
  else readEntriesLoop intercept maxEntries reads reading

end AudioStudio.Log
