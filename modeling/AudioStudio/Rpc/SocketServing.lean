import AudioStudio.Rpc.ClientPairing
import AudioStudio.Rpc.Endpoint

/-!
# The connections of the socket server

`rpc_socket_server.cpp`: each accepted connection has a worker thread, which reads a request, has
it handled and writes the response before it reads the next one.  The workers share the endpoint
and the counter of the handled requests, and their steps interleave in any order.
-/

namespace AudioStudio.Rpc

open AudioStudio.LittleEndian ByteReader

/-- How `recv` answers behind the last byte: no byte, `kUnavailable` or another failure.  The loop
of `RpcPipeServer::serve` is that of a client which ends with a failure: there the first byte of
a request throws as well. -/
inductive RecvEnd where
  | closed
  | unavailable
  | failed
  deriving DecidableEq, Repr

/-- `writeAll` over the answers of `send`: a failure, or so many bytes.  A socket that has no
answer left fails.  The bytes that were sent and, unless the call throws, the answers left. -/
def writeAll : List (Option Nat) → Bytes → Bytes × Option (List (Option Nat))
  | sends, [] => ([], some sends)
  | some (sent + 1) :: sends, byte :: data =>
      let more := writeAll sends (data.drop sent)
      (byte :: data.take sent ++ more.1, more.2)
  | _, _ => ([], none)

/-- Where a worker stands: before the check of the limit, before a read, before `++handled`. -/
inductive WorkerPhase where
  | checking
  | reading
  | counting
  | closed
  | failed
  deriving DecidableEq, Repr

/-- The worker of a client.  `received` and `log` are the history: all bytes of the client, and
each request that was handled with its response. -/
structure ClientWorker where
  received : Bytes
  ending : RecvEnd
  input : Bytes := received
  sends : List (Option Nat) := []
  output : Bytes := []
  phase : WorkerPhase := .checking
  log : List (RpcMessage × Option RpcMessage) := []
  deriving DecidableEq, Repr

/-- The stream handler throws where it returns `none`. -/
structure SocketServer (σ : Type) where
  endpoint : JsonRpcEndpoint σ
  streamHandler : RpcBinaryFrame → StateM σ (Option RpcBinaryFrame)
  maxRequests : Nat

/-- What the workers share. -/
structure Shared (σ : Type) where
  state : σ
  handled : Nat := 0

structure Serving (σ : Type) where
  shared : Shared σ
  workers : List ClientWorker := []

inductive ServerEvent where
  | accept (received : Bytes) (ending : RecvEnd) (sends : List (Option Nat))
  | step (index : Nat)
  deriving DecidableEq, Repr

section Server

variable {σ : Type}

namespace SocketServer

/-- The response to a request, in its format; an empty text is no response. -/
def handle (server : SocketServer σ) : RpcMessage → StateM σ (Option (Option RpcMessage))
  | .json text => do
      let response ← server.endpoint.handleRequest text
      return some (if response = [] then none else some (.json response))
  | .binary request => do
      let response ← server.streamHandler request
      return response.map fun frame => some (.binary frame)

def full (server : SocketServer σ) (shared : Shared σ) : Bool :=
  server.maxRequests ≠ 0 ∧ server.maxRequests ≤ shared.handled

end SocketServer

/-- The bytes of the responses, in order. -/
def responses (log : List (RpcMessage × Option RpcMessage)) : Bytes :=
  log.flatMap fun entry => (entry.2.map RpcMessage.encode).getD []

def ClientWorker.respond (server : SocketServer σ) (worker : ClientWorker) (request : RpcMessage)
    (rest : Bytes) (shared : Shared σ) : ClientWorker × Shared σ :=
  match server.handle request shared.state with
  | (none, state) => ({ worker with phase := .failed }, { shared with state })
  | (some response, state) =>
      let written := writeAll worker.sends ((response.map RpcMessage.encode).getD [])
      ({ worker with
          input := rest
          output := worker.output ++ written.1
          sends := written.2.getD []
          phase := if written.2.isSome then .counting else .failed
          log := worker.log ++ [(request, response)] },
        { shared with state })

/-- One step of the loop of a worker; a request is read, handled and answered in one. -/
def ClientWorker.step (server : SocketServer σ) (worker : ClientWorker) (shared : Shared σ) :
    ClientWorker × Shared σ :=
  match worker.phase with
  | .checking =>
      ({ worker with phase := if server.full shared then .closed else .reading }, shared)
  | .reading =>
      -- `readPrefix` only returns `false` in front of the first byte.
      if worker.input = [] ∧ worker.ending ≠ .failed then ({ worker with phase := .closed }, shared)
      else
        match readMessage worker.input with
        | .error _ => ({ worker with phase := .failed }, shared)
        | .ok (request, rest) => worker.respond server request rest shared
  | .counting =>
      ({ worker with phase := .checking },
        if server.maxRequests = 0 then shared else { shared with handled := shared.handled + 1 })
  | .closed | .failed => (worker, shared)

namespace Serving

def step (server : SocketServer σ) (serving : Serving σ) : ServerEvent → Serving σ
  | .accept received ending sends =>
      { serving with workers := serving.workers ++ [{ received, ending, sends }] }
  | .step index =>
      match serving.workers[index]? with
      | none => serving
      | some worker =>
          let next := worker.step server serving.shared
          { shared := next.2, workers := serving.workers.set index next.1 }

def run (server : SocketServer σ) (serving : Serving σ) (events : List ServerEvent) : Serving σ :=
  events.foldl (step server) serving

end Serving

/-! ## Reading what has arrived -/

variable {request : RpcMessage} {requests : List RpcMessage} {arrived : Nat} {rest : Bytes}

/-- What makes the worker of a client fail: its socket fails, its requests are cut inside one of
them, a response is not sent to its end, or the stream handler throws. -/
def ClientWorker.Fault (server : SocketServer σ) (requests : List RpcMessage)
    (worker : ClientWorker) : Prop :=
  worker.ending = .failed ∨
    (∀ count, worker.received ≠ (requests.take count).flatMap RpcMessage.encode) ∨
    worker.output ≠ responses worker.log ∨
    ∃ request ∈ requests, ∃ state, (server.handle request.sealed state).1 = none

/-- The worker of a client that sends `requests`, when `handled` of all workers are counted. -/
structure ClientWorker.Serves (server : SocketServer σ) (handled : Nat) (requests : List RpcMessage)
    (worker : ClientWorker) : Prop where
  taken : ∃ done left arrived, requests = done ++ left ∧
    worker.log.map Prod.fst = done.map RpcMessage.sealed ∧
    worker.received = done.flatMap RpcMessage.encode ++ worker.input ∧
    worker.input = (left.flatMap RpcMessage.encode).take arrived
  answered : ∀ entry ∈ worker.log, ∃ state, (server.handle entry.1 state).1 = some entry.2
  written : worker.output <+: responses worker.log
  whole : worker.phase ≠ .failed → worker.output = responses worker.log
  ended : worker.phase = .closed →
    worker.input = [] ∨ server.maxRequests ≠ 0 ∧ server.maxRequests ≤ handled
  faulty : worker.phase = .failed → worker.Fault server requests

variable {server : SocketServer σ} {worker : ClientWorker} {shared : Shared σ}

theorem ClientWorker.Serves.mono {handled handled' : Nat} (hle : handled ≤ handled')
    (hserves : worker.Serves server handled requests) : worker.Serves server handled' requests :=
  { hserves with
    ended := fun hclosed => (hserves.ended hclosed).imp_right fun hfull =>
      ⟨hfull.1, hfull.2.trans hle⟩ }

def Serving.Keeps (server : SocketServer σ) (serving : Serving σ) : Prop :=
  ∀ worker ∈ serving.workers, ∀ requests arrived, (∀ request ∈ requests, request.WithinLimits) →
    worker.received = (requests.flatMap RpcMessage.encode).take arrived →
      worker.Serves server serving.shared.handled requests

variable {serving : Serving σ}

/-- Past the check of the limit and not counted yet; a worker that fails never counts. -/
def ClientWorker.pending (worker : ClientWorker) : Bool :=
  worker.phase ≠ .checking ∧ worker.phase ≠ .closed

/-- The handled requests are counted or pending, and only a worker that finds the counter below
the limit becomes pending. -/
def Serving.Limited (server : SocketServer σ) (serving : Serving σ) : Prop :=
  (serving.workers.flatMap (·.log)).length + serving.workers.countP (·.phase = .reading) ≤
      serving.shared.handled + serving.workers.countP (·.pending) ∧
    serving.shared.handled + serving.workers.countP (·.pending) <
      server.maxRequests + serving.workers.length

theorem step_pending (hlimit : 0 < server.maxRequests) (worker : ClientWorker)
    (shared : Shared σ) :
    let next := worker.step server shared
    next.1.log.length + (if next.1.phase = .reading then 1 else 0) + shared.handled +
          (if worker.pending then 1 else 0) ≤
        worker.log.length + (if worker.phase = .reading then 1 else 0) + next.2.handled +
          (if next.1.pending then 1 else 0) ∧
      (next.2.handled + (if next.1.pending then 1 else 0) ≤ server.maxRequests ∨
        next.2.handled + (if next.1.pending then 1 else 0) ≤
          shared.handled + (if worker.pending then 1 else 0)) := by
  unfold ClientWorker.step ClientWorker.respond
  cases hphase : worker.phase with
  | checking =>
      by_cases hfull : server.full shared = true
      · simp [ClientWorker.pending, hphase, hfull]
      · have hbelow : shared.handled < server.maxRequests := by
          simp [SocketServer.full] at hfull
          omega
        simp [ClientWorker.pending, hphase, hfull, Nat.succ_le_of_lt hbelow, Nat.add_right_comm]
  | reading =>
      dsimp only
      repeat' split
      all_goals simp_all [ClientWorker.pending]
  | counting =>
      simp [ClientWorker.pending, hphase, hlimit.ne']
  | closed | failed => simp [ClientWorker.pending, hphase]

theorem limited_step (hlimit : 0 < server.maxRequests) (hlimited : serving.Limited server)
    (event : ServerEvent) : (serving.step server event).Limited server := by
  obtain ⟨hcounted, hpassed⟩ := hlimited
  cases event with
  | accept received ending sends =>
      constructor
      · simpa [Serving.step, ClientWorker.pending] using hcounted
      · rw [Serving.step, List.countP_append, List.length_append]
        exact Nat.lt_succ_of_lt hpassed
  | step index =>
      unfold Serving.step Serving.Limited
      dsimp only
      cases hworker : serving.workers[index]? with
      | none => exact ⟨hcounted, hpassed⟩
      | some worker =>
          dsimp only
          obtain ⟨hindex, hget⟩ := List.getElem?_eq_some_iff.mp hworker
          have hsplit : serving.workers =
              serving.workers.take index ++ worker :: serving.workers.drop (index + 1) := by
            rw [← hget, List.getElem_cons_drop, List.take_append_drop]
          obtain ⟨hlog, hroom⟩ := step_pending hlimit worker serving.shared
          rw [hsplit] at hcounted hpassed
          rw [List.set_eq_take_append_cons_drop, if_pos hindex]
          generalize serving.workers.take index = before at *
          generalize serving.workers.drop (index + 1) = behind at *
          have hbefore := before.countP_le_length (p := (·.pending))
          have hbehind := behind.countP_le_length (p := (·.pending))
          simp only [List.flatMap_append, List.flatMap_cons, List.countP_append, List.countP_cons,
            List.length_append, List.length_cons, decide_eq_true_eq] at hcounted hpassed ⊢
          omega

/-! ## The end of a worker -/

end Server

/-- Two texts to an endpoint without methods, the second one cut inside its header. -/
def cutRequests : List RpcMessage := [.json (asciiBytes "\x7b"), .json (asciiBytes "[]")]

def bareServer : SocketServer Unit :=
  { endpoint := {}, streamHandler := fun _ => pure none, maxRequests := 0 }

def cutRun : List ServerEvent :=
  [.accept ((cutRequests.flatMap RpcMessage.encode).take 30) .closed [some 9, some 4096],
    .step 0, .step 0, .step 0, .step 0, .step 0]

/-- However the steps of the connections interleave, the limit is exceeded by fewer requests than
there are connections. -/
theorem handled_bounded {σ : Type} (server : SocketServer σ) (state : σ)
    (events : List ServerEvent) (hlimit : 0 < server.maxRequests) :
    ((Serving.run server { shared := { state } } events).workers.flatMap (·.log)).length <
      server.maxRequests + (Serving.run server { shared := { state } } events).workers.length := by
  have hlimited : (Serving.run server { shared := { state } } events).Limited server :=
    List.foldlRecOn events _ ⟨le_refl 0, hlimit⟩ fun _ hlimited event _ =>
      limited_step hlimit hlimited event
  exact Nat.lt_of_le_of_lt (Nat.le_of_add_right_le hlimited.1) hlimited.2

theorem handled_bounded_of_cut :
    ((Serving.run { bareServer with maxRequests := 1 } { shared := { state := () } }
        cutRun).workers.flatMap (·.log)).length <
      1 + (Serving.run { bareServer with maxRequests := 1 } { shared := { state := () } }
        cutRun).workers.length :=
  handled_bounded { bareServer with maxRequests := 1 } () cutRun (by decide)

end AudioStudio.Rpc
