import AudioStudio.Log.SessionIds
import AudioStudio.Rpc.NumericParams
import AudioStudio.Rpc.RuntimeContext

/-!
# Generated session ids

An audio session whose creator gives it no id is called after a counter that user-chosen
ids do not know.
-/

namespace AudioStudio.Rpc

open AudioStudio.LittleEndian
open AudioStudio.Common

/-! ## Audio methods one after the other -/

/-- The context, and the ids of the sessions of the audio service. -/
structure AudioServer where
  context : RpcRuntimeContext := {}
  live : List Bytes := []

/-- A method that creates or closes an audio session; `device` is what the registry answers
to the creation of a device. -/
inductive AudioEvent where
  | createSession (direction : StreamDirection) (params : JsonValue)
      (device : AudioStream → Result Unit)
  | closeSession (id : Bytes)

namespace AudioServer

/-- The audio service, which no other call uses at the same time. -/
def answer (device : AudioStream → Result Unit) : Handler ServerReply (List Bytes)
  | .hasSession id, live => some (decide (id ∈ live), live)
  | .createDevice stream, live => some (device stream, live)
  | .emplaceSession stream, live => some ((), live ++ [stream.id])
  | _, _ => none

/-- `createAudioSession` behind its parameters; its result has the numbers of the session
and of its stream. -/
def createStream (config : AudioServiceConfig) (device : AudioStream → Result Unit)
    (stream : AudioStream) (server : AudioServer) : Except Thrown Bytes × AudioServer :=
  match (createStreamSession config stream).run (answer device) server.live with
  | (.done (.ok ()), live) =>
      let context := (server.context.numericSessionId stream.id).2
      (.ok stream.id, { context := (context.numericStreamId stream.id).2, live })
  | (.done (.error thrown), live) => (.error thrown, { server with live })
  | (_, live) => (.error .other, { server with live })

/-- `createAudioSession`; an id is drawn also where the request names one. -/
def createSession (config : AudioServiceConfig) (direction : StreamDirection) (params : JsonValue)
    (device : AudioStream → Result Unit) (server : AudioServer) :
    Except Thrown Bytes × AudioServer :=
  match requireObjectParams params "audio.createSession" with
  | .error thrown => (.error thrown, server)
  | .ok object =>
      let (freshId, context) := server.context.nextSessionId direction.kind
      let server := { server with context := context }
      match audioStreamFromParams freshId object direction with
      | .error thrown => (.error thrown, server)
      | .ok stream => server.createStream config device stream

def closeSession (id : Bytes) (server : AudioServer) : AudioServer :=
  if id ∈ server.live then
    { context := server.context.releaseSession id, live := server.live.filter (· ≠ id) }
  else server

def step (config : AudioServiceConfig) (server : AudioServer) : AudioEvent → Option AudioServer
  | .createSession direction params device =>
      some (server.createSession config direction params device).2
  | .closeSession id => some (server.closeSession id)

/-! ## Fresh ids -/

/-- The id that the context is going to generate. -/
def generatedId (server : AudioServer) (direction : StreamDirection) : Bytes :=
  (server.context.nextSessionId direction.kind).1

variable {config : AudioServiceConfig} {server : AudioServer}

variable {params : JsonValue} {name : String} {thrown : Thrown}

variable {direction : StreamDirection}

variable {stream : AudioStream} (device : AudioStream → Result Unit)

/-- The server behind the draw of an id. -/
def drawn (server : AudioServer) (direction : StreamDirection) : AudioServer :=
  { server with context := (server.context.nextSessionId direction.kind).2 }

end AudioServer

/-! ## Both services -/

open AudioStudio.Log.Sessions (LogService LogDevices)

end AudioStudio.Rpc
