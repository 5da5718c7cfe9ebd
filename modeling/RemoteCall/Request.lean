import RemoteCall.Address
import RemoteCall.BufferPool
import RemoteCall.Clock
import RemoteCall.ExceptionParser
import RemoteCall.ReplyHeader

/-!
# Requests and their outcomes

A request carries the call as it will go out, the time it was queued and the ticket of the listener
that waits for it. It ends in exactly one outcome, which a notice takes to the listener. A response
keeps the buffers of its reply; its body leaves out the reply header in the first of them.
-/
namespace RemoteCall

/-- The identity of a request, told to its listener. -/
structure CallInfo where
  xid : UInt32
  target : Address
  program : UInt32
  version : UInt32
  procedure : UInt32
  deriving DecidableEq, Repr

/-- When a request was queued, and, with statistics, when it was sent and completed. -/
structure Timings where
  queuedAt : Instant
  sentAt : Option Instant
  completedAt : Option Instant
  deriving DecidableEq, Repr

namespace Timings

/-- From the end of transmission to the reply. -/
def roundTrip (timings : Timings) : Option Duration := do
  let completed ← timings.completedAt
  let sent ← timings.sentAt
  return completed.since sent

/-- From queueing to the reply. -/
def total (timings : Timings) : Option Duration := do
  let completed ← timings.completedAt
  return completed.since timings.queuedAt

end Timings

structure Response where
  info : CallInfo
  timings : Timings
  fragments : List Buffer
  deriving DecidableEq, Repr

namespace Response

/-- The body along fragment boundaries. -/
def chunks (response : Response) : List Bytes :=
  match response.fragments with
  | [] => []
  | first :: rest => first.bytes.drop ReplyHeader.size :: rest.map Buffer.bytes

def body (response : Response) : Bytes := response.chunks.flatten

def bodyLength (response : Response) : Nat :=
  response.chunks.foldl (fun total chunk => total + chunk.length) 0

private theorem foldl_length (chunks : List Bytes) (start : Nat) :
    chunks.foldl (fun total chunk => total + chunk.length) start
      = start + chunks.flatten.length := by
  induction chunks generalizing start with
  | nil => rfl
  | cons chunk later ih =>
    rw [List.foldl_cons, ih, List.flatten_cons, List.length_append, Nat.add_assoc]

theorem length_body (response : Response) : response.body.length = response.bodyLength := by
  rw [body, bodyLength, foldl_length, Nat.zero_add]

def debugText (response : Response) : String :=
  "Response \x7b xid: " ++ toString response.info.xid.toNat ++ ", target: "
    ++ response.info.target.text ++ ", fragments: " ++ toString response.fragments.length
    ++ ", body_len: " ++ toString response.bodyLength ++ " \x7d"

end Response

/-- How a listener takes the outcome: a callback at once, a promise whenever it is asked. -/
inductive Delivery where
  | callback
  | promise
  deriving DecidableEq, Repr

def Delivery.promiseText : String := "ResponseFuture \x7b .. \x7d"

inductive Outcome where
  | response (response : Response)
  | failure (failure : Failure)
  deriving DecidableEq, Repr

namespace Outcome

/-- The buffers that stay with the outcome. -/
def buffers : Outcome → List Buffer
  | response r => r.fragments
  | failure _ => []

/-- The timings that are reported of an outcome: those of a response. -/
def timings? : Outcome → Option Timings
  | response r => some r.timings
  | failure _ => none

/-- The round trip of a response, where it was timed. -/
def roundTrip (outcome : Outcome) : Option Duration := outcome.timings?.bind Timings.roundTrip

end Outcome

/-- What one listener is told. -/
structure Notice where
  ticket : Nat
  info : CallInfo
  delivery : Delivery
  outcome : Outcome
  deriving DecidableEq, Repr

structure Request where
  ticket : Nat
  info : CallInfo
  delivery : Delivery
  header : Bytes
  payload : Bytes
  queuedAt : Instant
  sentAt : Option Instant := none
  recordsTimings : Bool
  deriving DecidableEq, Repr

namespace Request

/-- The length of the record body: call header and payload. -/
def bodyLength (request : Request) : Nat := request.header.length + request.payload.length

/-- The request is older than `timeout`. -/
def isExpired (request : Request) (timeout : Duration) (now : Instant) : Bool :=
  request.queuedAt + timeout < now

def markSent (request : Request) (now : Instant) : Request :=
  if request.recordsTimings then { request with sentAt := some now } else request

def timings (request : Request) (now : Instant) : Timings :=
  ⟨request.queuedAt, request.sentAt, if request.recordsTimings then some now else none⟩

def notice (request : Request) (outcome : Outcome) : Notice :=
  ⟨request.ticket, request.info, request.delivery, outcome⟩

/-- The notice of a request that failed. -/
def fail (request : Request) (failure : Failure) : Notice := request.notice (.failure failure)

/-- The part of a reply that is given to the exception parsers: what follows the reply header in
the first fragment. -/
def exceptionBody : List Buffer → Bytes
  | [] => []
  | first :: _ => first.bytes.drop ReplyHeader.size

/-- The outcome of a request that was answered. -/
def outcome (request : Request) (status : AcceptStatus) (fragments : List Buffer)
    (parsers : List ExceptionDecoder) (now : Instant) : Outcome :=
  match status with
  | .success => .response ⟨request.info, request.timings now, fragments⟩
  | .application raw => .failure (ExceptionDecoder.resolve parsers raw (exceptionBody fragments))
  | other => .failure (.protocol other)

/-- The answer to a request: its notice, and the buffers that go back to the pool at once. -/
def complete (request : Request) (status : AcceptStatus) (fragments : List Buffer)
    (parsers : List ExceptionDecoder) (now : Instant) : Notice × List Buffer :=
  match request.outcome status fragments parsers now with
  | .response response => (request.notice (.response response), [])
  | .failure failure => (request.fail failure, fragments)

def debugText (request : Request) : String :=
  "PendingRequest \x7b xid: " ++ toString request.info.xid.toNat ++ ", target: "
    ++ request.info.target.text ++ ", body_len: " ++ toString request.bodyLength ++ " \x7d"

end Request

end RemoteCall
