import AudioStudio.Core.Interleaving
import AudioStudio.Rpc.ServerMethods

/-!
# The runtime context of the RPC methods

`RpcRuntimeContext` gives sessions their ids and numbers, and the audio methods of
`audio_studio_rpc_api.cpp` use it between their calls of the audio service.  Every
call of the service or of the context is one step.
-/

namespace AudioStudio.Rpc

open AudioStudio.LittleEndian

/-! ## Ids and numbers -/

/-- `drawn` counts the ids drawn so far; this is history, the context does not store it. -/
structure RpcRuntimeContext where
  nextId : UInt32 := 1
  sessionIds : Bytes → Option UInt32 := fun _ => none
  streamIds : Bytes → Option UInt32 := fun _ => none
  numericSessions : UInt32 → Option Bytes := fun _ => none
  drawn : Nat := 0

namespace RpcRuntimeContext

/-- `next_id_.fetch_add(1)` -/
def draw (context : RpcRuntimeContext) : UInt32 × RpcRuntimeContext :=
  (context.nextId, { context with nextId := context.nextId + 1, drawn := context.drawn + 1 })

def nextSessionId (kind : Bytes) (context : RpcRuntimeContext) : Bytes × RpcRuntimeContext :=
  let (id, context) := context.draw
  (kind ++ asciiBytes "_" ++ decimalText id.toNat, context)

def numericSessionId (sessionId : Bytes) (context : RpcRuntimeContext) :
    UInt32 × RpcRuntimeContext :=
  match context.sessionIds sessionId with
  | some id => (id, context)
  | none =>
      let (id, context) := context.draw
      (id,
        { context with
          sessionIds := Function.update context.sessionIds sessionId (some id)
          -- `emplace` keeps what the map holds.
          numericSessions := Function.update context.numericSessions id
            (some ((context.numericSessions id).getD sessionId)) })

def numericStreamId (sessionId : Bytes) (context : RpcRuntimeContext) :
    UInt32 × RpcRuntimeContext :=
  match context.streamIds sessionId with
  | some id => (id, context)
  | none =>
      let (id, context) := context.draw
      (id, { context with streamIds := Function.update context.streamIds sessionId (some id) })

def releaseSession (sessionId : Bytes) (context : RpcRuntimeContext) : RpcRuntimeContext :=
  { context with
    numericSessions :=
      match context.sessionIds sessionId with
      | some id => Function.update context.numericSessions id none
      | none => context.numericSessions
    sessionIds := Function.update context.sessionIds sessionId none
    streamIds := Function.update context.streamIds sessionId none }

def sessionIdForNumeric (numericSessionId : UInt32) (context : RpcRuntimeContext) : Option Bytes :=
  context.numericSessions numericSessionId

end RpcRuntimeContext

/-! ## Audio methods in progress -/

/-- The name that a direction gives to a session id. -/
def sessionKind : StreamDirection → Bytes
  | .playback => asciiBytes "playback"
  | .capture => asciiBytes "capture"

/-- What a method is about to do. -/
inductive SessionCall where
  | chooseId (direction : StreamDirection) (sessionId : Option Bytes)
  | create (id : Bytes)
  | getCreated (id : Bytes)
  | createdToJson (id : Bytes)
  | descriptorJson (id : Bytes)
  | start (id : Bytes)
  | sessionResult (id : Bytes)
  | resultToJson (id : Bytes)
  | list
  | listedToJson (ids : List Bytes)
  | getStream (id : Bytes)
  | getStats (id : Bytes)
  | remove (id : Bytes)
  | release (id : Bytes)
  | finished
  deriving DecidableEq, Repr

/-- The requests whose methods use the audio service and the context. -/
inductive SessionRequest where
  | create (direction : StreamDirection) (sessionId : Option Bytes)
  | start (id : Bytes)
  | listSessions
  | getStats (id : Bytes)
  | closeSession (id : Bytes)
  deriving DecidableEq, Repr

def SessionRequest.begin : SessionRequest → SessionCall
  | .create direction sessionId => .chooseId direction sessionId
  | .start id => .start id
  | .listSessions => .list
  | .getStats id => .getStream id
  | .closeSession id => .remove id

/-- The context, the ids of the live sessions of the audio service, and the methods in
progress; `issued` are the numbers of sessions that methods were given, which is history. -/
structure SessionServer where
  context : RpcRuntimeContext := {}
  audio : List Bytes := []
  calls : List SessionCall := []
  issued : List (UInt32 × Bytes) := []

/-- A request arrives, or a method goes on; `accepts` is what its parameters, the audio
service and the device decide about a creation or a start. -/
inductive SessionEvent where
  | request (request : SessionRequest)
  | advance (call : Nat) (accepts : Bool)
  deriving DecidableEq, Repr

namespace SessionServer

def setCall (index : Nat) (call : SessionCall) (server : SessionServer) : SessionServer :=
  { server with calls := server.calls.set index call }

/-- `streamToJson` asks for the number of its session. -/
def streamToJson (id : Bytes) (server : SessionServer) : SessionServer :=
  let (number, context) := server.context.numericSessionId id
  { server with context := context, issued := (number, id) :: server.issued }

/-- `streamDescriptorJson` asks for the number of its stream. -/
def streamDescriptorJson (id : Bytes) (server : SessionServer) : SessionServer :=
  { server with context := (server.context.numericStreamId id).2 }

/-- A method that throws for a session that is not live. -/
def whenLive (id : Bytes) (index : Nat) (next : SessionCall) (server : SessionServer) :
    SessionServer :=
  server.setCall index (if id ∈ server.audio then next else .finished)

def proceed (index : Nat) (accepts : Bool) (server : SessionServer) :
    SessionCall → Option SessionServer
  | .chooseId direction sessionId =>
      let (fresh, context) := server.context.nextSessionId (sessionKind direction)
      let server := { server with context := context }
      some (server.setCall index
        (if accepts then .create (sessionId.getD fresh) else .finished))
  | .create id =>
      if id ∉ server.audio ∧ accepts then
        some ({ server with audio := server.audio ++ [id] }.setCall index (.getCreated id))
      else some (server.setCall index .finished)
  | .getCreated id => some (server.whenLive id index (.createdToJson id))
  | .createdToJson id => some ((server.streamToJson id).setCall index (.descriptorJson id))
  | .descriptorJson id => some ((server.streamDescriptorJson id).setCall index .finished)
  | .start id =>
      some (server.setCall index
        (if id ∈ server.audio ∧ accepts then .sessionResult id else .finished))
  | .sessionResult id => some (server.whenLive id index (.resultToJson id))
  | .resultToJson id => some ((server.streamToJson id).setCall index .finished)
  | .list => some (server.setCall index (.listedToJson server.audio))
  | .listedToJson [] => some (server.setCall index .finished)
  | .listedToJson (id :: ids) =>
      some ((server.streamToJson id).setCall index (.listedToJson ids))
  | .getStream id => some (server.whenLive id index (.getStats id))
  | .getStats _ => some (server.setCall index .finished)
  | .remove id =>
      if id ∈ server.audio then
        some ({ server with audio := server.audio.filter (· ≠ id) }.setCall index (.release id))
      else some (server.setCall index .finished)
  | .release id =>
      some ({ server with context := server.context.releaseSession id }.setCall index .finished)
  | .finished => none

def step (server : SessionServer) : SessionEvent → Option SessionServer
  | .request request => some { server with calls := server.calls ++ [request.begin] }
  | .advance index accepts =>
      match server.calls[index]? with
      | none => none
      | some call => server.proceed index accepts call

end SessionServer

end AudioStudio.Rpc
