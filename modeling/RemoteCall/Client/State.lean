import RemoteCall.CallHeader
import RemoteCall.Connection
import RemoteCall.Event
import RemoteCall.Fragment.Assembler
import RemoteCall.Settings
import RemoteCall.TransactionId
import RemoteCall.Transmitter

/-!
# State of a client

A client keeps every connection and every session it ever made, in the order of making. A session is
a channel with its driver; the registry says which connection stands for a destination now. What
the loop, the drivers and the callers have for a listener is put down first and told afterwards, one
notice at a time, so that other things may happen between two listeners. Notices to callbacks then
become events at once, those to promises wait in the mailbox until they are asked for.
-/
namespace RemoteCall

/-- Where the driver of a channel stands. -/
inductive SessionPhase where
  /-- Opened and handed to the loop, which has not taken it up. -/
  | registered
  /-- Waiting for the connect to complete; it has been looked at once if `polled`. -/
  | finishing (polled : Bool)
  /-- Connected, waiting for readiness to go on with the first handshake. -/
  | greeting (interest : Readiness)
  /-- About to look at the send queue. -/
  | deciding
  /-- Waiting for readiness, and for a queued request if `armed`. -/
  | waiting (armed : Bool) (interest : Readiness)
  /-- Pausing while the channel shuts its session down. -/
  | pausing (deadline : Instant)
  /-- Reading replies, and writing afterwards if `thenWrite`. -/
  | reading (thenWrite : Bool)
  | writing
  | closed
  deriving DecidableEq, Repr

/-- The driver waits for nothing, so the thread is its own. -/
def SessionPhase.holdsThread : SessionPhase → Bool
  | deciding => true
  | reading _ => true
  | writing => true
  | _ => false

structure Session where
  connection : Nat
  channel : Channel
  assembler : Fragment.Assembler
  phase : SessionPhase := .registered
  transmitter : Transmitter := {}
  /-- The readiness that an unfinished handshake waits for. -/
  wanted : Option Readiness := none

/-- The session when its channel is dropped, which is closed by that. -/
def Session.letGo (session : Session) : Session :=
  { session with channel := { session.channel with closed := true }, phase := .closed }

/-- What becomes of the next channel that is opened. -/
structure ChannelPlan where
  openFailure : Option IoError := none
  connectFailure : Option IoError := none
  progress : ConnectProgress := .established
  handshakes : List (Except IoError Handshake) := []
  budget : Option Nat := none

/-- How a channel was asked for. -/
structure OpenCall where
  target : Address
  nodelay : Bool
  recvBufferSize : UInt32
  deriving DecidableEq, Repr

/-- Where the loop stands. -/
inductive LoopPhase where
  | stopped
  /-- It could not be started, and there will be none. -/
  | absent
  /-- Probing its timer until a moment. -/
  | probing (deadline : Instant)
  /-- In a turn that began at a moment. -/
  | turning (since : Instant)
  /-- Waiting for the drivers to end. -/
  | joining
  | ended
  deriving DecidableEq, Repr

/-- What becomes of a start. -/
inductive LoopSetup where
  /-- The loop runs. -/
  | ready
  /-- Its thread or its runtime cannot be created. -/
  | failed (cause : IoError)
  /-- Its thread exits before it says that the loop runs. -/
  | exited
  deriving DecidableEq, Repr

structure Client where
  settings : Settings
  parsers : List ExceptionDecoder
  pool : BufferPool
  nextXid : UInt32
  now : Instant := 0
  loop : LoopPhase := .stopped
  shuttingDown : Bool := false
  lastSweep : Instant := 0
  /-- Drivers that have ended and were not yet noticed by the loop. -/
  driversEnded : Nat := 0
  connections : List Connection := []
  sessions : List Session := []
  registry : List (Address × Nat) := []
  /-- Sessions that the loop has not taken up. -/
  registrations : List Nat := []
  registrationsOpen : Bool := true
  /-- Connections to which a request was pushed and the driver not yet told. -/
  owed : List Nat := []
  plans : List ChannelPlan := []
  /-- The number of calls made so far, which is the next ticket. -/
  calls : Nat := 0
  /-- Notices of the loop and the drivers, whose listeners are still to be told. -/
  posted : List Notice := []
  /-- Notices of requests that could not be sent, whose listeners the callers are still to tell. -/
  rejected : List Notice := []
  /-- What listeners were told; the latest notice comes first. -/
  told : List Notice := []
  /-- The latest event comes first. -/
  events : List Event := []
  mailbox : List Notice := []
  /-- Promises that nobody holds any more. -/
  forgotten : List Nat := []
  /-- The latest call comes first. -/
  opens : List OpenCall := []

namespace Client

/-- A stopped client. -/
def build (settings : Settings) (parsers : List ExceptionDecoder) (pool : BufferPool)
    (firstXid : UInt32) : Except Failure Client :=
  match settings.validate with
  | .ok () => .ok { settings := settings, parsers := parsers, pool := pool, nextXid := firstXid }
  | .error failure => .error failure

def connectionCount (client : Client) : Nat := client.registry.length

/-- The loop has been started and has not ended. -/
def isRunning (client : Client) : Bool :=
  match client.loop with
  | .stopped => false
  | .absent => false
  | .ended => false
  | _ => true

/-- The connection that stands for a destination now. -/
def registered? (client : Client) (target : Address) : Option Nat :=
  (client.registry.find? (·.1 == target)).map Prod.snd

/-- The byte counters of a destination that has a connection. -/
def statistics? (client : Client) (target : Address) : Option Statistics := do
  let index ← client.registered? target
  let connection ← client.connections[index]?
  return connection.statistics

def debugText (client : Client) : String :=
  "Client \x7b settings: " ++ client.settings.debugText ++ ", connections: "
    ++ toString client.connectionCount ++ ", .. \x7d"

/-! ## Putting parts back -/

def putConnection (client : Client) (index : Nat) (connection : Connection) : Client :=
  { client with connections := client.connections.set index connection }

def putSession (client : Client) (index : Nat) (session : Session) : Client :=
  { client with sessions := client.sessions.set index session }

/-- Put back a session and the connection that it belongs to. -/
def put (client : Client) (index : Nat) (session : Session) (connection : Connection) : Client :=
  (client.putSession index session).putConnection session.connection connection

def releaseAll (client : Client) (buffers : List Buffer) : Client :=
  { client with pool := client.pool.releaseAll buffers }

/-! ## Delivery -/

/-- Keep a notice for the holder of its promise. If the promise was forgotten its buffers go back. -/
def keep (client : Client) (notice : Notice) : Client :=
  if client.forgotten.contains notice.ticket then client.releaseAll notice.outcome.buffers
  else { client with mailbox := client.mailbox ++ [notice] }

/-- Take a notice to its listener. A callback lets go of the buffers of its response when it
returns; a promise keeps them unless it was forgotten. -/
def deliver (client : Client) (notice : Notice) : Client :=
  let client := { client with told := notice :: client.told }
  match notice.delivery with
  | .callback =>
      { client with
        events := .told notice :: client.events
        pool := client.pool.releaseAll notice.outcome.buffers }
  | .promise => client.keep notice

def deliverAll (client : Client) (notices : List Notice) : Client :=
  notices.foldl deliver client

/-- Have a listener told once the step under way is over. -/
def post (client : Client) (notice : Notice) : Client :=
  { client with posted := client.posted ++ [notice] }

/-- Have the listeners of several requests told that they failed. -/
def postFailures (client : Client) (requests : List Request) (failure : Failure) : Client :=
  { client with posted := client.posted ++ requests.map fun request => request.fail failure }

/-- Have a caller tell the listeners of requests that could not be sent. -/
def reject (client : Client) (requests : List Request) (failure : Failure) : Client :=
  { client with rejected := client.rejected ++ requests.map fun request => request.fail failure }

/-- Tell the listener of the notice at a position among those posted. -/
def tellPosted (client : Client) (position : Nat) : Client :=
  match client.posted[position]? with
  | none => client
  | some notice => { client with posted := client.posted.eraseIdx position }.deliver notice

/-- Tell the listener of the notice at a position among those rejected. -/
def tellRejected (client : Client) (position : Nat) : Client :=
  match client.rejected[position]? with
  | none => client
  | some notice => { client with rejected := client.rejected.eraseIdx position }.deliver notice

/-- Tell all listeners, in order. -/
def tellAll (client : Client) : Client :=
  { client with posted := [], rejected := [] }.deliverAll (client.posted ++ client.rejected)

/-- A request vanishes without its listener being told. A promise finds out that nobody will
keep it. -/
def lose (client : Client) (request : Request) : Client :=
  match request.delivery with
  | .callback => { client with events := .dropped request.ticket :: client.events }
  | .promise => client.keep (request.fail .shutDown)

/-- The outcome of a promise, if it is there. Its buffers go back to the pool. -/
def collect (client : Client) (ticket : Nat) : Option Notice × Client :=
  match client.mailbox.find? (·.ticket == ticket) with
  | none => (none, client)
  | some notice =>
      (some notice,
        { client with
          mailbox := client.mailbox.eraseP (·.ticket == ticket)
          pool := client.pool.releaseAll notice.outcome.buffers })

/-- Let go of a promise, kept or not. -/
def forget (client : Client) (ticket : Nat) : Client :=
  let client := (client.collect ticket).2
  { client with forgotten := ticket :: client.forgotten }

end Client

end RemoteCall
