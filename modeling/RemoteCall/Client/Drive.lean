import RemoteCall.Client.State

/-!
# Driving a channel

The driver of a session completes the connect and the first handshake, then serves the channel: it
waits for readiness, goes on with a handshake where one is asked for, reads replies and writes
requests. `step?` is one step of a driver, absent while it waits; sends and other drivers may come
between two steps. However a session ends, its channel is closed, the reply under way is given up,
and everything bound to the connection fails.
-/
namespace RemoteCall.Client

/-- How long a driver pauses while its channel shuts down a session. -/
def shutdownPoll : Duration := Duration.ofMillis 10

/-- End a session that was connected: everything bound to it fails for one reason. -/
def teardown (client : Client) (index : Nat) (session : Session) (connection : Connection)
    (reason : CloseReason) : Client :=
  let (assembler, pool) := session.assembler.reset client.pool
  let (current, transmitter) := session.transmitter.takeCurrent
  let (outstanding, connection) := connection.drain
  let session :=
    { session with
      channel := session.channel.close
      assembler := assembler
      transmitter := transmitter
      phase := .closed }
  let client := { client with pool := pool, driversEnded := client.driversEnded + 1 }
  (client.put index session { connection with link := .disconnected }).postFailures
    (current.toList ++ outstanding) (reason.failure connection.endpoint)

/-- End a session whose connect or first handshake failed. -/
def connectFailed (client : Client) (index : Nat) (session : Session) (connection : Connection)
    (cause : IoError) : Client :=
  let (outstanding, connection) := connection.drain
  let session := { session with channel := session.channel.close, phase := .closed }
  let connection :=
    { connection with
      allowance := connection.allowance.recordFailure client.now
      link := .disconnected }
  let client := { client with driversEnded := client.driversEnded + 1 }
  (client.put index session connection).postFailures outstanding
    (.connectFailed connection.endpoint cause)

/-- Look whether the connect has completed. -/
def finishStep (client : Client) (index : Nat) (session : Session) (connection : Connection)
    (polled : Bool) : Option Client :=
  let channel := if polled then session.channel else session.channel.record .finishConnect
  let session := { session with channel := channel }
  match channel.progress with
  | .pending =>
      if polled then none
      else some (client.putSession index { session with phase := .finishing true })
  | .failed cause => some (client.connectFailed index session connection cause)
  | .established => some (client.putSession index { session with phase := .greeting .both })

/-- Go on with the first handshake. -/
def greetStep (client : Client) (index : Nat) (session : Session) (connection : Connection)
    (interest : Readiness) : Option Client :=
  match session.channel.ready interest with
  | .error cause => some (client.connectFailed index session connection cause)
  | .ok ready =>
      if !ready.any then none
      else
        let (answer, channel) := session.channel.shakeHands ready
        let session := { session with channel := channel }
        match answer with
        | .error cause => some (client.connectFailed index session connection cause)
        | .ok progress =>
            match progress.interest with
            | some interest =>
                some (client.putSession index { session with phase := .greeting interest })
            | none =>
                some (client.put index { session with phase := .deciding }
                  { connection with link := .connected, allowance := connection.allowance.reset })

/-- Look at the send queue and settle what to wait for. -/
def decideStep (client : Client) (index : Nat) (session : Session) (connection : Connection) :
    Client :=
  let wantsWrite := session.transmitter.isBusy || connection.hasQueued
  let interest := session.wanted.getD (if wantsWrite then .both else .readOnly)
  client.putSession index { session with phase := .waiting (!wantsWrite) interest }

/-- The channel is ready: pause, go on with a handshake, or start reading or writing. -/
def serveStep (client : Client) (index : Nat) (session : Session) (connection : Connection)
    (ready : Readiness) : Client :=
  if session.channel.shuttingDown then
    client.putSession index { session with phase := .pausing (client.now + shutdownPoll) }
  else
    let (answer, channel) := session.channel.shakeHands ready
    let session := { session with channel := channel }
    match answer with
    | .error cause => client.teardown index session connection (.io cause)
    | .ok progress =>
        let phase : SessionPhase :=
          if progress.interest.isSome then .deciding
          else if ready.read then .reading ready.write
          else if ready.write then .writing
          else .deciding
        client.putSession index { session with wanted := progress.interest, phase := phase }

/-- Wait for a queued request or for readiness. -/
def waitStep (client : Client) (index : Nat) (session : Session) (connection : Connection)
    (armed : Bool) (interest : Readiness) : Option Client :=
  if armed && connection.permit then
    some (client.put index { session with phase := .deciding } connection.takePermit.2)
  else
    match session.channel.ready interest with
    | .error cause => some (client.teardown index session connection (.io cause))
    | .ok ready => if !ready.any then none else some (client.serveStep index session connection ready)

/-! ## Counting

Only a client with statistics counts. -/

def countReceived (client : Client) (connection : Connection) (count : Nat) : Connection :=
  if client.settings.enableStatistics then
    { connection with statistics := connection.statistics.addReceived count }
  else connection

def countSent (client : Client) (connection : Connection) (count : Nat) : Connection :=
  if client.settings.enableStatistics then
    { connection with statistics := connection.statistics.addSent count }
  else connection

/-- Count the round trip of a response that was timed. -/
def countRoundTrip (client : Client) (connection : Connection) (outcome : Outcome) : Connection :=
  match client.settings.enableStatistics, outcome.roundTrip with
  | true, some sample =>
      { connection with statistics := connection.statistics.recordRoundTrip sample }
  | _, _ => connection

/-! ## Reading and writing -/

/-- Hand a record to the request that it answers. A record for no request is given up. The buffers
of a reply that is no response are let go of as soon as its listener has returned. Here they go back
before it is told, so the pool differs only while that listener runs. -/
def deliverRecord (client : Client) (index : Nat) (session : Session) (connection : Connection)
    (fragments : List Buffer) : Client :=
  match ReplyHeader.decode ((fragments.head?.map Buffer.bytes).getD []) with
  | .error failure =>
      (client.releaseAll fragments).teardown index session connection
        (.invalidFraming (failure.message?.getD ""))
  | .ok header =>
      match connection.takeInFlight header.xid client.now with
      | (none, connection) => (client.put index session connection).releaseAll fragments
      | (some request, connection) =>
          let (notice, released) :=
            request.complete header.status fragments client.parsers client.now
          let connection := client.countRoundTrip connection notice.outcome
          ((client.put index session connection).releaseAll released).post notice

/-- Read towards the next record. -/
def readStep (client : Client) (index : Nat) (session : Session) (connection : Connection)
    (thenWrite : Bool) : Client :=
  let (reading, work) := session.assembler.read client.pool session.channel.inbound
  let (count, assembler) := work.assembler.takeReceived
  let session :=
    { session with
      assembler := assembler
      channel := { session.channel with inbound := work.side } }
  let connection := client.countReceived connection count
  let client := { client with pool := work.pool }
  match reading with
  | .record fragments => client.deliverRecord index session connection fragments
  | .wouldBlock =>
      client.put index { session with phase := if thenWrite then .writing else .deciding } connection
  | .ended => client.teardown index session connection .peerClosed
  | .failed cause => client.teardown index session connection (.io cause)
  | .overLimit length =>
      client.teardown index session connection
        (.invalidFraming
          ((Fragment.Header.overLimit length assembler.limit).message?.getD ""))

/-- Writing has stopped: count what was sent and go on accordingly. -/
def writeStopped (client : Client) (index : Nat) (session : Session) (connection : Connection)
    (why : Flushed) : Client :=
  let (count, transmitter) := session.transmitter.takeSent
  let session := { session with transmitter := transmitter }
  let connection := client.countSent connection count
  match why with
  | .idle => client.put index { session with phase := .deciding } connection
  | .wouldBlock => client.put index { session with phase := .deciding } connection
  | .ended => client.teardown index session connection .peerClosed
  | .failed cause => client.teardown index session connection (.io cause)

/-- One step of writing. -/
def writeStep (client : Client) (index : Nat) (session : Session) (connection : Connection) :
    Client :=
  let (effect, work) :=
    Transmitter.Work.step ⟨session.transmitter, connection.queue, session.channel.outbound⟩ client.now
  let session :=
    { session with
      transmitter := work.transmitter
      channel := { session.channel with outbound := work.side } }
  let connection := { connection with queue := work.queue }
  match effect with
  | .stopped why => client.writeStopped index session connection why
  | .started => client.put index session connection
  | .moved => client.put index session connection
  | .refused request failure =>
      (client.put index session connection).post (request.fail failure)
  | .transmitted request =>
      let (displaced, connection) := connection.markInFlight request
      displaced.toList.foldl lose (client.put index session connection)

/-- End the session if its connection asks for that, else go on. -/
def unlessClosed (client : Client) (index : Nat) (session : Session) (connection : Connection)
    (next : Option Client) : Option Client :=
  match connection.closeReason with
  | some reason => some (client.teardown index session connection reason)
  | none => next

/-- One step of the driver of a session; absent while it waits. -/
def step? (client : Client) (index : Nat) : Option Client := do
  let session ← client.sessions[index]?
  let connection ← client.connections[session.connection]?
  match session.phase with
  | .registered => none
  | .closed => none
  | .finishing polled =>
      client.unlessClosed index session connection
        (client.finishStep index session connection polled)
  | .greeting interest =>
      client.unlessClosed index session connection
        (client.greetStep index session connection interest)
  | .deciding => some (client.decideStep index session connection)
  | .waiting armed interest =>
      client.unlessClosed index session connection
        (client.waitStep index session connection armed interest)
  | .pausing deadline =>
      if deadline ≤ client.now then
        some (client.putSession index { session with phase := .deciding })
      else none
  | .reading thenWrite => some (client.readStep index session connection thenWrite)
  | .writing => some (client.writeStep index session connection)

/-- One step of the driver of a session, or none. -/
def drive (client : Client) (index : Nat) : Client := (client.step? index).getD client

end RemoteCall.Client
