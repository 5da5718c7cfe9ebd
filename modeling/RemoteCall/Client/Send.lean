import RemoteCall.Client.State

/-!
# Sending

A call takes the next transaction id, also when it fails at once. Its request goes to the end of the
send queue of its destination's connection. A connected driver is told of it afterwards; a
disconnected connection opens a channel if its allowance permits an attempt, and otherwise fails
everything that is queued. The caller tells the listeners of the requests that failed.
-/
namespace RemoteCall

/-- A call to be made. -/
structure Call where
  target : Address
  program : UInt32
  version : UInt32
  procedure : UInt32
  payload : Message
  credentials : Option Message
  delivery : Delivery
  deriving DecidableEq, Repr

namespace Client

/-- The connection for a destination, made if there is none. -/
def connectionFor (client : Client) (target : Address) : Nat × Client :=
  match client.registered? target with
  | some index => (index, client)
  | none =>
      let fresh : Connection :=
        { target := target
          allowance :=
            { maxAttempts := client.settings.maxReconnectAttempts
              backoff := client.settings.reconnectBackoff }
          lastUsed := client.now }
      (client.connections.length,
        { client with
          connections := client.connections ++ [fresh]
          registry := client.registry ++ [(target, client.connections.length)] })

/-- Fail everything queued on a connection. -/
def failQueue (client : Client) (index : Nat) (connection : Connection) (failure : Failure) :
    Client :=
  let (queued, connection) := connection.drainQueue
  (client.putConnection index connection).reject queued failure

/-- An attempt that failed at once. -/
def attemptFailed (client : Client) (index : Nat) (connection : Connection) (cause : IoError) :
    Client :=
  client.failQueue index
    { connection with allowance := connection.allowance.recordFailure client.now }
    (.connectFailed connection.endpoint cause)

/-- Take the plan for the next channel; without one all goes well. -/
def takePlan (client : Client) : ChannelPlan × Client :=
  match client.plans with
  | [] => ({}, client)
  | plan :: later => (plan, { client with plans := later })

/-- A new session on a connection, its channel made after a plan. -/
def newSession (client : Client) (index : Nat) (target : Address) (plan : ChannelPlan) : Session :=
  let channel : Channel :=
    { outbound := { budget := plan.budget }
      progress := plan.progress
      handshakes := plan.handshakes }
  { connection := index
    channel := channel.record (.connect target.text)
    assembler := { limit := client.settings.maxFragmentSize } }

/-- Connect a channel made after a plan and hand it to the loop. -/
def tryChannel (client : Client) (index : Nat) (connection : Connection) (plan : ChannelPlan) :
    Client :=
  match plan.openFailure with
  | some cause => client.attemptFailed index connection cause
  | none =>
      let session := client.newSession index connection.target plan
      let unused := session.letGo
      match plan.connectFailure with
      | some cause =>
          { client with sessions := client.sessions ++ [unused] }.attemptFailed index connection
            cause
      | none =>
          if client.registrationsOpen then
            { client with
              sessions := client.sessions ++ [session]
              registrations := client.registrations ++ [client.sessions.length] }.putConnection
              index { connection with link := .connecting }
          else
            { client with sessions := client.sessions ++ [unused] }.failQueue index connection
              .shutDown

/-- Ask for a channel for a disconnected connection, if its allowance permits. -/
def establish (client : Client) (index : Nat) (connection : Connection) : Client :=
  if !connection.allowance.canAttempt client.now then
    client.failQueue index connection (.unreachable connection.endpoint)
  else
    let asked : OpenCall :=
      ⟨connection.target, client.settings.tcpNodelay, client.settings.recvBufferSize⟩
    let (plan, client) := { client with opens := asked :: client.opens }.takePlan
    client.tryChannel index connection plan

/-- Queue a request on its destination. A connected driver is still to be told. -/
def submit (client : Client) (request : Request) : Client :=
  let (index, client) := client.connectionFor request.info.target
  match client.connections[index]? with
  | none => client
  | some connection =>
      if client.shuttingDown then client.reject [request] .shutDown
      else
        let connection := { connection.enqueue request with lastUsed := client.now }
        match connection.link with
        | .connected =>
            { client with owed := client.owed ++ [index] }.putConnection index connection
        | .connecting => client.putConnection index connection
        | .disconnected => client.establish index connection

/-- The header of a call, under the next transaction id. -/
def headerFor (client : Client) (call : Call) : CallHeader :=
  ⟨client.nextXid, call.program, call.version, call.procedure⟩

/-- The request of a call, its header not yet encoded. -/
def requestFor (client : Client) (call : Call) : Request where
  ticket := client.calls
  info := ⟨client.nextXid, call.target, call.program, call.version, call.procedure⟩
  delivery := call.delivery
  header := []
  payload := call.payload.bytes
  queuedAt := client.now
  recordsTimings := client.settings.enableStatistics

/-- Take the next transaction id and the next ticket. -/
def countCall (client : Client) : Client :=
  { client with nextXid := TransactionId.next client.nextXid, calls := client.calls + 1 }

/-- Make a call. -/
def send (client : Client) (call : Call) : Client :=
  let request := client.requestFor call
  match (client.headerFor call).encode call.credentials with
  | .error failure => client.countCall.reject [request] failure
  | .ok header => client.countCall.submit { request with header := header }

/-- Tell the driver of a connection that a request was pushed. -/
def notify (client : Client) (index : Nat) : Client :=
  if client.owed.contains index then
    match client.connections[index]? with
    | none => client
    | some connection =>
        { client with owed := client.owed.erase index }.putConnection index connection.notify
  else client

end Client

end RemoteCall
