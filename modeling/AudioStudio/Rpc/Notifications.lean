import AudioStudio.Rpc.ClientPairing
import AudioStudio.Rpc.ContentLength
import AudioStudio.Rpc.EndpointLaw

/-!
# Notifications

`JsonRpcClient::notify` over the three transports, against a server that answers
each request with what `JsonRpcEndpoint::handleRequest` returns and writes no frame
for an empty answer.
-/

namespace AudioStudio.Rpc

open AudioStudio.LittleEndian ByteReader

inductive JsonTransport where
  | inProcess
  | pipe
  | socket
  deriving DecidableEq, Repr

/-- The transport below a client that is not in the server's process. -/
def JsonTransport.link : JsonTransport → Option RpcTransport
  | .inProcess => none
  | .pipe => some .pipeJson
  | .socket => some .socketJson

/-- A client and a server joined by a transport; `owed` are the response bytes that
no reader has taken. -/
structure Line (σ : Type) where
  transport : JsonTransport
  nextId : Nat := 1
  server : σ
  owed : Bytes := []

/-- What `send` returns or throws, and how many response bytes it has read. -/
structure Sent where
  result : Except RpcReadError Bytes
  bytesRead : Nat
  deriving DecidableEq

/-- What `RpcPipeServer::serve` writes for the answer to a request. -/
def responseFrames (responseJson : Bytes) : Bytes :=
  if responseJson = [] then [] else encodeContentLengthFrame responseJson

namespace Line

variable {σ : Type}

/-- `send` of the transport; `arrived` bytes of the response stream come before the
client gives up. -/
def send (endpoint : JsonRpcEndpoint σ) (requestJson : Bytes) (arrived : Nat) (line : Line σ) :
    Sent × Line σ :=
  let handled := endpoint.handleRequest requestJson line.server
  match line.transport.link with
  | none => (⟨.ok handled.1, 0⟩, { line with server := handled.2 })
  | some transport =>
      let stream := line.owed ++ responseFrames handled.1
      let read := attempt (readContentLengthFrameWithPrefix []) stream arrived
      let connection : Connection := { transport, owed := line.owed }
      (⟨read.1, stream.length - read.2.length⟩,
        { line with server := handled.2, owed := (connection.afterRead read).owed })

/-- `JsonRpcClient::notify` -/
def notify (endpoint : JsonRpcEndpoint σ) (method : Bytes) (params : JsonValue) (arrived : Nat)
    (line : Line σ) : Sent × Line σ :=
  line.send endpoint (buildRequest line.nextId method params true).dump arrived

/-- `JsonRpcClient::call` up to the text of the response. -/
def call (endpoint : JsonRpcEndpoint σ) (method : Bytes) (params : JsonValue) (arrived : Nat)
    (line : Line σ) : Sent × Line σ :=
  { line with nextId := line.nextId + 1 }.send endpoint
    (buildRequest line.nextId method params false).dump arrived

/-- The server's answer to the next call of the client. -/
def ownResponse (endpoint : JsonRpcEndpoint σ) (method : Bytes) (params : JsonValue)
    (line : Line σ) : Bytes :=
  (endpoint.handleRequest (buildRequest line.nextId method params false).dump line.server).1

/-- A notification returns, reads nothing, and leaves the next call its own response. -/
structure NotifyCompletes (endpoint : JsonRpcEndpoint σ) (method : Bytes) (params : JsonValue)
    (arrived : Nat) (line : Line σ) : Prop where
  returns : ∃ text, (line.notify endpoint method params arrived).1.result = .ok text
  silent : (line.notify endpoint method params arrived).1.bytesRead = 0
  nextCall : ∀ nextMethod nextParams nextArrived,
    let line := (line.notify endpoint method params arrived).2
    let own := line.ownResponse endpoint nextMethod nextParams
    own.length ≤ maxJsonPayload → (responseFrames own).length ≤ nextArrived →
      (line.call endpoint nextMethod nextParams nextArrived).1.result = .ok own

end Line

/-! ## Reading a response -/

/-- The end of a header is never read out of nothing. -/
theorem readHeader_shortens {input header rest : Bytes}
    (hread : readHeader [] input = .ok (header, rest)) : rest.length < input.length := by
  rcases readHeader_cases [] input with ⟨taken, later, rfl, hok, hend, -⟩ |
    ⟨taken, later, rfl, -, -, -, herror⟩ | ⟨herror, -, -⟩
  · rw [hok] at hread
    cases hread
    have hlength : 4 ≤ ([] ++ taken).length := hend.length_le
    rw [List.length_append] at hlength ⊢
    rw [List.length_nil] at hlength
    omega
  · rw [herror] at hread
    cases hread
  · rw [herror] at hread
    cases hread

theorem readContentLengthFrame_shortens {input text rest : Bytes}
    (hread : readContentLengthFrameWithPrefix [] maxJsonPayload input = .ok (text, rest)) :
    rest.length < input.length := by
  have hreserved := readReservedFrame_eq (Nat.le_refl maxJsonPayload) [] input
  rw [hread] at hreserved
  unfold readReservedFrame at hreserved
  split at hreserved
  · cases hreserved
  next header behind hheader =>
  have hshort := readHeader_shortens hheader
  dsimp only at hreserved
  split at hreserved
  · cases hreserved
  split at hreserved
  · cases hreserved
  split at hreserved
  · cases hreserved
  next payload later hbytes =>
  rw [readBytes_eq] at hbytes
  split at hbytes
  · cases hbytes
    cases hreserved
    rw [List.length_drop]
    omega
  · cases hbytes

/-- A frame that arrives is taken off the stream. -/
theorem attempt_shortens {stream text : Bytes} {arrived : Nat}
    (hread : (attempt (readContentLengthFrameWithPrefix []) stream arrived).1 = .ok text) :
    (attempt (readContentLengthFrameWithPrefix []) stream arrived).2.length < stream.length := by
  unfold attempt at hread ⊢
  cases hframe : readContentLengthFrameWithPrefix [] maxJsonPayload (stream.take arrived) with
  | error error =>
      rw [hframe] at hread
      cases hread
  | ok read =>
      obtain ⟨value, rest⟩ := read
      have hshort := readContentLengthFrame_shortens hframe
      rw [List.length_take] at hshort
      dsimp only
      rw [List.length_append, List.length_drop]
      omega

/-! ## Notifications -/

namespace Line

variable {σ : Type} {endpoint : JsonRpcEndpoint σ} {line : Line σ}

theorem send_inProcess (endpoint : JsonRpcEndpoint σ) (hlink : line.transport = .inProcess)
    (requestJson : Bytes) (arrived : Nat) :
    line.send endpoint requestJson arrived =
      (⟨.ok (endpoint.handleRequest requestJson line.server).1, 0⟩,
        { line with server := (endpoint.handleRequest requestJson line.server).2 }) := by
  unfold send
  rw [hlink]
  rfl

/-- Over a pipe or a socket `send` returns only with bytes that it has read. -/
theorem send_reads (hlink : line.transport ≠ .inProcess) {requestJson text : Bytes}
    {arrived : Nat} (hreturns : (line.send endpoint requestJson arrived).1.result = .ok text) :
    0 < (line.send endpoint requestJson arrived).1.bytesRead := by
  obtain ⟨transport, hsome⟩ : ∃ transport, line.transport.link = some transport := by
    cases htransport : line.transport with
    | inProcess => exact absurd htransport hlink
    | pipe => exact ⟨_, rfl⟩
    | socket => exact ⟨_, rfl⟩
  unfold send at hreturns ⊢
  rw [hsome] at hreturns ⊢
  dsimp only at hreturns ⊢
  have hshort := attempt_shortens hreturns
  omega

/-! ## Starving -/

/-- The parameters that a request carries. -/
def paramsMember : JsonValue → JsonMembers
  | .null => []
  | params => [(asciiBytes "params", params)]

theorem buildRequest_notification (id : Nat) (method : Bytes) (params : JsonValue) :
    buildRequest id method params true =
      .object ([(asciiBytes "jsonrpc", .ofText "2.0"), (asciiBytes "method", .string method)] ++
        paramsMember params) := by
  have hmethod : assign (asciiBytes "method") (.string method)
      (assign (asciiBytes "jsonrpc") (.ofText "2.0") []) =
        [(asciiBytes "jsonrpc", .ofText "2.0"), (asciiBytes "method", .string method)] := rfl
  unfold buildRequest
  dsimp only
  rw [if_pos rfl, hmethod]
  cases params with
  | null => rfl
  | _ => rfl

variable {params : JsonValue}

/-- With parameters that a request can have, the client builds a notification. -/
theorem buildRequest_isNotification (id : Nat) (method : Bytes) (hparams : isParams params = true) :
    IsNotification (buildRequest id method params true) := by
  rw [buildRequest_notification]
  have hid : (JsonValue.object ([(asciiBytes "jsonrpc", .ofText "2.0"),
      (asciiBytes "method", .string method)] ++ paramsMember params)).member (asciiBytes "id") =
        none := by
    cases params <;> rfl
  have hfound : ∀ found ∈ (JsonValue.object ([(asciiBytes "jsonrpc", .ofText "2.0"),
      (asciiBytes "method", .string method)] ++ paramsMember params)).member (asciiBytes "params"),
        found = params := by
    cases params with
    | null => exact nofun
    | _ => exact fun found hfound => (Option.some.inj hfound).symm
  refine ⟨⟨method, rfl, rfl, ?_, fun found hmem => ?_⟩, hid⟩
  · rw [hid]
    exact nofun
  · rw [hfound found hmem]
    exact hparams

theorem buildRequest_wellFormed (id : Nat) (method : Bytes) (hwf : params.WellFormed) :
    (buildRequest id method params true).WellFormed := by
  have hversion : asciiBytes "jsonrpc" < asciiBytes "method" := by decide +kernel
  have hmethod : asciiBytes "method" < asciiBytes "params" := by decide +kernel
  have hparams : asciiBytes "jsonrpc" < asciiBytes "params" := by decide +kernel
  rw [buildRequest_notification]
  have hthree : Ascending [(asciiBytes "jsonrpc", .ofText "2.0"),
      (asciiBytes "method", .string method), (asciiBytes "params", params)] := by
    refine List.pairwise_cons.mpr ⟨?_, List.pairwise_pair.mpr hmethod⟩
    intro member hmember
    rcases List.mem_cons.mp hmember with rfl | hlast
    · exact hversion
    · rw [List.mem_singleton.mp hlast]
      exact hparams
  cases params with
  | null => exact ⟨List.pairwise_pair.mpr hversion, trivial, trivial, trivial⟩
  | _ => exact ⟨hthree, trivial, trivial, hwf, trivial⟩

theorem handleRequest_object (endpoint : JsonRpcEndpoint σ) {text : Bytes} {members : JsonMembers}
    (hparse : parseJson text = .ok (.object members)) (state : σ) :
    (endpoint.handleRequest text state).1 =
      answerText (answer (.object members) (handlerRun endpoint (.object members) state).1) := by
  have hhandle : endpoint.handleRequest text state =
      (let response := endpoint.handleSingleRequest (.object members) state
       (answerText response.1, response.2)) := by
    unfold JsonRpcEndpoint.handleRequest
    rw [hparse]
    rfl
  rw [hhandle, handleSingleRequest_eq]

/-- The server writes nothing for a notification, whatever its handler does. -/
theorem notification_unanswered (endpoint : JsonRpcEndpoint σ) (id : Nat) (method : Bytes)
    (hparams : isParams params = true) (hwf : params.WellFormed) (state : σ) :
    (endpoint.handleRequest (buildRequest id method params true).dump state).1 = [] := by
  have hparse := parseJson_dump (buildRequest_wellFormed id method hwf)
  have hnotification := buildRequest_isNotification id method hparams
  rw [buildRequest_notification] at hparse hnotification
  rw [buildRequest_notification, handleRequest_object endpoint hparse]
  have hlaw := answer_law (handlerRun_ran endpoint (.object ([(asciiBytes "jsonrpc",
    .ofText "2.0"), (asciiBytes "method", .string method)] ++ paramsMember params)) state)
  rw [hlaw.silent.mpr hnotification]
  rfl

/-- Over a pipe or a socket that owes nothing the client then waits for a frame that
never comes. -/
theorem notify_starves (hlink : line.transport ≠ .inProcess) (howed : line.owed = [])
    (method : Bytes) (hparams : isParams params = true) (hwf : params.WellFormed) (arrived : Nat) :
    (line.notify endpoint method params arrived).1.result = .error .stream := by
  have hanswer : (endpoint.handleRequest (buildRequest line.nextId method params true).dump
      line.server).1 = [] := notification_unanswered endpoint line.nextId method hparams hwf _
  have hempty : attempt (readContentLengthFrameWithPrefix []) [] arrived = (.error .stream, []) := by
    unfold attempt
    rw [List.take_nil, List.drop_nil]
    rfl
  unfold notify send
  dsimp only
  rw [hanswer, howed]
  cases htransport : line.transport with
  | inProcess => exact absurd htransport hlink
  | pipe =>
      change (attempt (readContentLengthFrameWithPrefix []) [] arrived).1 = _
      rw [hempty]
  | socket =>
      change (attempt (readContentLengthFrameWithPrefix []) [] arrived).1 = _
      rw [hempty]

/-- For every server, method and parameters, and whatever arrives: a notification
completes exactly over the transport that has no response stream. -/
theorem notify_completes_iff (endpoint : JsonRpcEndpoint σ) (line : Line σ) (method : Bytes)
    (params : JsonValue) (arrived : Nat) :
    line.NotifyCompletes endpoint method params arrived ↔ line.transport = .inProcess := by
  constructor
  · intro hcompletes
    by_contra hlink
    obtain ⟨text, hreturns⟩ := hcompletes.returns
    have hreads := send_reads hlink hreturns
    exact absurd hcompletes.silent (Nat.ne_of_gt hreads)
  · intro hlink
    have hnotify : line.notify endpoint method params arrived = _ :=
      send_inProcess endpoint hlink _ arrived
    refine ⟨?_, ?_, ?_⟩
    · rw [hnotify]
      exact ⟨_, rfl⟩
    · rw [hnotify]
    · intro nextMethod nextParams nextArrived line' own _ _
      have hnext : line'.transport = .inProcess := by
        have htransport := congrArg (fun sent => sent.2.transport) hnotify
        exact htransport.trans hlink
      have hcounted : { line' with nextId := line'.nextId + 1 }.transport = .inProcess := hnext
      unfold call
      rw [send_inProcess endpoint hcounted]
      rfl

/-- The pipe client of a method without parameters never gets its read done. -/
theorem pipe_notify_starves :
    ¬ ({ transport := .pipe, server := () } : Line Unit).NotifyCompletes {} (asciiBytes "ping")
        .null 4096 ∧
      (({ transport := .pipe, server := () } : Line Unit).notify {} (asciiBytes "ping")
        .null 4096).1.result = .error .stream := by
  have hstarves : (({ transport := .pipe, server := () } : Line Unit).notify {}
      (asciiBytes "ping") .null 4096).1.result = .error .stream :=
    notify_starves (by decide) rfl (asciiBytes "ping") rfl (by exact trivial) 4096
  refine ⟨fun hcompletes => ?_, hstarves⟩
  obtain ⟨text, hreturns⟩ := hcompletes.returns
  rw [hstarves] at hreturns
  cases hreturns

end Line

end AudioStudio.Rpc
