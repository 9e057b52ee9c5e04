import AudioStudio.Audio.Session
import AudioStudio.Core.Interleaving
import Mathlib.Logic.Function.Basic

/-!
# The registry of audio sessions

The maps of `AudioService` under calls of any number of threads: a critical section of
`sessions_mutex_` is one step, and so is what a call does between two of them.
-/

namespace AudioStudio.Audio

open AudioStudio.Common
open AudioStudio.Rpc (StreamDirection AudioServiceConfig validateStream)
open LittleEndian

/-! ## Session objects -/

/-- How far a session has come; this is history, the service does not store it. -/
inductive Stage where
  | constructed
  | lost
  | discarded
  | live
  | leaving
  | removed
  deriving DecidableEq, Repr

/-- A session that a creation constructed, with the number of its device's closes and of the
removes that closed it. -/
structure SessionObject where
  stream : Rpc.AudioStream
  hasDevice : Bool
  closed : Bool := false
  deviceCloses : Nat := 0
  removals : Nat := 0
  stage : Stage := .constructed

namespace SessionObject

/-- `close`, also as the destructor calls it. -/
def close (object : SessionObject) : SessionObject :=
  if object.closed then object
  else
    { object with
      closed := true
      deviceCloses := object.deviceCloses + if object.hasDevice then 1 else 0 }

def setStage (stage : Stage) (object : SessionObject) : SessionObject :=
  { object with stage := stage }

/-- The close of a remove. -/
def closeRemoved (object : SessionObject) : SessionObject :=
  { object.close with removals := object.removals + 1, stage := .removed }

/-- The close of a session that no map took. -/
def destroy (object : SessionObject) : SessionObject :=
  { object.close with stage := .discarded }

end SessionObject

/-! ## Calls -/

/-- Where a call stands; a session is named by its number among the constructed ones. -/
inductive CallState where
  | check (stream : Rpc.AudioStream)
  | opening (stream : Rpc.AudioStream)
  | register (session : Nat)
  | discard (session : Nat)
  | remove (id : Bytes)
  | closing (session : Nat)
  | finished

inductive CallOutcome where
  | refused (id : Bytes)
  | taken (id : Bytes)
  | lost (id : Bytes) (session : Nat)
  | created (id : Bytes) (session : Nat)
  | removed (id : Bytes) (session : Nat)
  | notFound (id : Bytes)
  deriving DecidableEq, Repr

/-- What a call decided, in the order of the decisions. -/
structure Record where
  call : Nat
  outcome : CallOutcome
  deriving DecidableEq, Repr

structure AudioService where
  playbackSessions : Bytes → Option Nat := fun _ => none
  captureSessions : Bytes → Option Nat := fun _ => none
  sessions : List SessionObject := []
  calls : List CallState := []
  log : List Record := []

inductive ServiceCall where
  | createPlaybackSession (stream : Rpc.AudioStream)
  | createCaptureSession (stream : Rpc.AudioStream)
  | remove (id : Bytes)

/-- A call begins, or a call goes on; `device` is what the registry answers to a creation, and
whether it made a device. -/
inductive ServiceEvent where
  | begin (call : ServiceCall)
  | advance (call : Nat) (device : Result Bool)

namespace AudioService

def hasSessionLocked (service : AudioService) (id : Bytes) : Bool :=
  (service.playbackSessions id).isSome || (service.captureSessions id).isSome

def setCall (index : Nat) (call : CallState) (service : AudioService) : AudioService :=
  { service with calls := service.calls.set index call }

def modifySession (session : Nat) (change : SessionObject → SessionObject)
    (service : AudioService) : AudioService :=
  { service with sessions := service.sessions.modify session change }

def record (call : Nat) (outcome : CallOutcome) (service : AudioService) : AudioService :=
  { service with log := service.log ++ [{ call, outcome }] }

/-- `emplace` and `erase` of the map of a direction. -/
def setSession (direction : StreamDirection) (id : Bytes) (session : Option Nat)
    (service : AudioService) : AudioService :=
  match direction with
  | .playback =>
      { service with playbackSessions := Function.update service.playbackSessions id session }
  | .capture =>
      { service with captureSessions := Function.update service.captureSessions id session }

/-- The checks of a creation before its first critical section. -/
def create (config : AudioServiceConfig) (direction : StreamDirection) (stream : Rpc.AudioStream)
    (service : AudioService) : AudioService :=
  match validateStream stream with
  | .error _ =>
      record service.calls.length (.refused stream.id)
        { service with calls := service.calls ++ [.finished] }
  | .ok () =>
      if stream.direction ≠ direction then
        record service.calls.length (.refused stream.id)
          { service with calls := service.calls ++ [.finished] }
      else { service with calls := service.calls ++ [.check (config.effective stream)] }

def createPlaybackSession (config : AudioServiceConfig) (stream : Rpc.AudioStream)
    (service : AudioService) : AudioService :=
  service.create config .playback stream

def createCaptureSession (config : AudioServiceConfig) (stream : Rpc.AudioStream)
    (service : AudioService) : AudioService :=
  service.create config .capture stream

/-- The session of a creation whose device was opened. -/
def construct (index : Nat) (stream : Rpc.AudioStream) (hasDevice : Bool)
    (service : AudioService) : AudioService :=
  setCall index (.register service.sessions.length)
    { service with sessions := service.sessions ++ [{ stream, hasDevice }] }

/-- The second critical section of a creation. -/
def register (index session : Nat) (stream : Rpc.AudioStream) (service : AudioService) :
    AudioService :=
  if service.hasSessionLocked stream.id then
    ((service.modifySession session (·.setStage .lost)).setCall index (.discard session)).record
      index (.lost stream.id session)
  else
    (((service.setSession stream.direction stream.id (some session)).modifySession session
      (·.setStage .live)).setCall index .finished).record index (.created stream.id session)

/-- The critical section of a remove that found a session. -/
def take (index session : Nat) (direction : StreamDirection) (id : Bytes)
    (service : AudioService) : AudioService :=
  (((service.setSession direction id none).modifySession session (·.setStage .leaving)).setCall
    index (.closing session)).record index (.removed id session)

/-- The next step of a call. -/
def proceed (config : AudioServiceConfig) (index : Nat) (device : Result Bool)
    (service : AudioService) : CallState → Option AudioService
  | .check stream =>
      if service.hasSessionLocked stream.id then
        some ((service.setCall index .finished).record index (.taken stream.id))
      else some (service.setCall index (.opening stream))
  | .opening stream =>
      if config.hasRegistry then
        match device with
        | .error _ => some ((service.setCall index .finished).record index (.refused stream.id))
        | .ok hasDevice => some (service.construct index stream hasDevice)
      else some (service.construct index stream false)
  | .register session =>
      match service.sessions[session]? with
      | none => none
      | some object => some (service.register index session object.stream)
  | .discard session =>
      some ((service.modifySession session SessionObject.destroy).setCall index .finished)
  | .remove id =>
      match service.playbackSessions id with
      | some session => some (service.take index session .playback id)
      | none =>
          match service.captureSessions id with
          | some session => some (service.take index session .capture id)
          | none => some ((service.setCall index .finished).record index (.notFound id))
  | .closing session =>
      some ((service.modifySession session SessionObject.closeRemoved).setCall index .finished)
  | .finished => none

def step (config : AudioServiceConfig) (service : AudioService) : ServiceEvent → Option AudioService
  | .begin (.createPlaybackSession stream) => some (service.createPlaybackSession config stream)
  | .begin (.createCaptureSession stream) => some (service.createCaptureSession config stream)
  | .begin (.remove id) => some { service with calls := service.calls ++ [.remove id] }
  | .advance index device =>
      match service.calls[index]? with
      | none => none
      | some call => service.proceed config index device call

end AudioService

end AudioStudio.Audio
