import AudioStudio.Rpc.Client
import AudioStudio.Rpc.FrameStream
import AudioStudio.Rpc.JsonAccepted

/-!
# Pairing of answers with requests

No client compares the id of an answer with the id it sent, so an exchange is
right as long as the connection owes nothing from before.  A failed exchange on a
connection that stays open shifts every later answer by one.
-/

namespace AudioStudio.Rpc

open AudioStudio.LittleEndian ByteReader

/-! ## Readers on a growing stream -/

section Attempt

variable {α : Type} {reader : RpcReader α} {bytes : Bytes} {value result : α} {arrived : Nat}

end Attempt

/-! ## The premise and the property -/

/-- The server's part: it answers a request once, under the ids of the request and
within the limits of a frame. -/
def Connection.Answered (connection : Connection) : ClientEvent → Prop
  | .call _ _ response _ =>
      response.WellFormed ∧ response.dump.length ≤ maxJsonPayload ∧
        response.member (asciiBytes "id") = some (.number (decimalText connection.nextId))
  | .exchange request response _ =>
      response.payload.length ≤ maxBinaryPayload ∧
        response.header.requestId = request.header.requestId ∧
        response.header.sessionId = request.header.sessionId ∧
        response.header.streamId = request.header.streamId
  | .notify .. | .close => True

/-- What was taken from the connection answers the request that was sent. -/
def ClientRecord.Paired : ClientRecord → Prop
  | .call id _ read => ∀ text, read = .ok text →
      ∃ response, parseJson text = .ok response ∧
        response.member (asciiBytes "id") = some (.number (decimalText id))
  | .exchange request read => ∀ frame, read = .ok frame →
      frame.header.requestId = request.header.requestId ∧
        frame.header.sessionId = request.header.sessionId ∧
        frame.header.streamId = request.header.streamId
  | .other => True

def ClientEvent.expectsAnswer : ClientEvent → Bool
  | .call .. | .exchange .. => true
  | .notify .. | .close => false

/-- Each exchange of the history starts when nothing is owed from before. -/
def Connection.Quiet (connection : Connection) : List ClientEvent → Prop
  | [] => True
  | event :: events =>
      (event.expectsAnswer = true → connection.owed = []) ∧ (connection.step event).2.Quiet events

variable {connection : Connection}

variable {digit : UInt8}

end AudioStudio.Rpc
