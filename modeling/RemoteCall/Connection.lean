import RemoteCall.Request
import RemoteCall.RetryAllowance
import RemoteCall.Statistics

/-!
# Connections

A connection is a destination and everything outstanding towards it: the requests waiting in the
send queue, in the order of sending, and the requests in flight, one for each transaction id. It
keeps the allowance for attempts, the time of last use, the byte counters and two signals to its
driver: a permit that says that a request was queued, and the first reason given for closing.
-/
namespace RemoteCall

/-- The channel state of a connection. -/
inductive Link where
  | disconnected
  | connecting
  | connected
  deriving DecidableEq, Repr

def Link.text : Link → String
  | disconnected => "Disconnected"
  | connecting => "Connecting"
  | connected => "Connected"

structure Connection where
  target : Address
  allowance : RetryAllowance
  lastUsed : Instant
  link : Link := .disconnected
  queue : List Request := []
  inFlight : List Request := []
  evicted : Bool := false
  statistics : Statistics := {}
  permit : Bool := false
  closeReason : Option CloseReason := none
  deriving DecidableEq, Repr

namespace Connection

def endpoint (connection : Connection) : String := connection.target.endpoint

def hasQueued (connection : Connection) : Bool := !connection.queue.isEmpty

/-- Everything outstanding, the queue first. -/
def outstanding (connection : Connection) : List Request := connection.queue ++ connection.inFlight

/-- Append a request to the send queue. -/
def enqueue (connection : Connection) (request : Request) : Connection :=
  { connection with queue := connection.queue ++ [request] }

/-- Remove the head of the send queue. -/
def pop (connection : Connection) : Option Request × Connection :=
  match connection.queue with
  | [] => (none, connection)
  | request :: later => (some request, { connection with queue := later })

/-- The request in flight under a transaction id. -/
def inFlight? (connection : Connection) (xid : UInt32) : Option Request :=
  connection.inFlight.find? (·.info.xid == xid)

/-- Put a request in flight. One that holds the same id gives way and is returned. -/
def markInFlight (connection : Connection) (request : Request) : Option Request × Connection :=
  (connection.inFlight? request.info.xid,
    { connection with
      inFlight := connection.inFlight.eraseP (·.info.xid == request.info.xid) ++ [request] })

/-- Remove the request in flight under an id. That an id was looked for counts as use. -/
def takeInFlight (connection : Connection) (xid : UInt32) (now : Instant) :
    Option Request × Connection :=
  (connection.inFlight? xid,
    { connection with
      inFlight := connection.inFlight.eraseP (·.info.xid == xid)
      lastUsed := now })

/-- Remove the requests older than `timeout`: all that are in flight, and those at the head of the
queue up to the first that is not. -/
def takeExpired (connection : Connection) (timeout : Duration) (now : Instant) :
    List Request × Connection :=
  let expired := fun (request : Request) => request.isExpired timeout now
  (connection.inFlight.filter expired ++ connection.queue.takeWhile expired,
    { connection with
      inFlight := connection.inFlight.filter (!expired ·)
      queue := connection.queue.dropWhile expired })

/-- Remove everything outstanding. -/
def drain (connection : Connection) : List Request × Connection :=
  (connection.outstanding, { connection with queue := [], inFlight := [] })

/-- Remove the queued requests only. -/
def drainQueue (connection : Connection) : List Request × Connection :=
  (connection.queue, { connection with queue := [] })

def isIdle (connection : Connection) (timeout : Duration) (now : Instant) : Bool :=
  timeout < now.since connection.lastUsed

/-- Leave a permit that says that a request was queued; there is at most one. -/
def notify (connection : Connection) : Connection := { connection with permit := true }

/-- Use up the permit, if there is one. -/
def takePermit (connection : Connection) : Bool × Connection :=
  (connection.permit, { connection with permit := false })

/-- Ask the driver to close. The first reason stays. -/
def requestClose (connection : Connection) (reason : CloseReason) : Connection :=
  { connection with closeReason := connection.closeReason <|> some reason }

def debugText (connection : Connection) : String :=
  "Connection \x7b target: " ++ connection.target.text ++ ", .. \x7d"

@[simp] theorem outstanding_drain (connection : Connection) :
    connection.drain.2.outstanding = [] := rfl

@[simp] theorem outstanding_enqueue (connection : Connection) (request : Request) :
    (connection.enqueue request).outstanding.Perm (request :: connection.outstanding) := by
  simp only [enqueue, outstanding, List.append_assoc, List.singleton_append]
  exact List.perm_middle

end Connection

end RemoteCall
