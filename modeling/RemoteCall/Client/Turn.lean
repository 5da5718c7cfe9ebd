import RemoteCall.Client.State

/-!
# Turns of the loop

The loop takes up new sessions and sweeps at every tick. A sweep evicts connections that were not
used for too long and fails the requests that are too old on the others. When the client shuts down,
the loop fails everything outstanding, closes the sessions that it has not taken up, and waits for
the drivers to end. If the loop cannot be started, the sessions that wait for it are dropped.
-/
namespace RemoteCall.Client

/-- How long the loop probes its timer before its first turn. -/
def timerProbe : Duration := Duration.ofMillis 20

/-- Let go of a session that no loop will take up; nobody is told, and nothing is logged. -/
def letGo (client : Client) (index : Nat) : Client :=
  match client.sessions[index]? with
  | none => client
  | some session => client.putSession index session.letGo

/-- The registration queue is dropped, and the sessions in it go with it. -/
def dropRegistrations (client : Client) : Client :=
  client.registrations.foldl letGo
    { client with registrations := [], registrationsOpen := false }

/-- There will be no loop. It had been given the registration queue, which is lost with it. -/
def abandonLoop (client : Client) : Client := { client.dropRegistrations with loop := .absent }

/-- Start the loop. A client starts once, also if that fails, and not after its shutdown. -/
def start (client : Client) (setup : LoopSetup := .ready) : Except Failure Unit × Client :=
  if client.shuttingDown then (.error (.lifecycle "client was shut down"), client)
  else if client.loop ≠ .stopped then (.error (.lifecycle "client already started"), client)
  else
    match setup with
    | .ready => (.ok (), { client with loop := .probing (client.now + timerProbe) })
    | .failed cause => (.error (.io cause), client.abandonLoop)
    | .exited => (.error (.lifecycle "loop thread exited during startup"), client.abandonLoop)

/-- Remove a connection from service: mark it, take everything outstanding and ask it to close. -/
def retire (client : Client) (index : Nat) (reason : CloseReason) : List Request × Client :=
  match client.connections[index]? with
  | none => ([], client)
  | some connection =>
      let (outstanding, connection) := connection.drain
      (outstanding,
        client.putConnection index { connection.requestClose reason with evicted := true })

/-- The failure of what is left on a connection that is retired. -/
def retireAndFail (client : Client) (index : Nat) (reason : CloseReason) : Client :=
  match client.connections[index]? with
  | none => client
  | some connection =>
      let (outstanding, client) := client.retire index reason
      client.postFailures outstanding (reason.failure connection.endpoint)

/-- The connection behind an entry of the registry was not used for too long. -/
def isIdle (client : Client) (entry : Address × Nat) : Bool :=
  match client.connections[entry.2]? with
  | none => false
  | some connection => connection.isIdle client.settings.connectionTimeout client.now

/-- Take the requests that are too old from a connection. -/
def takeExpired (client : Client) (index : Nat) : List Request × Client :=
  match client.connections[index]? with
  | none => ([], client)
  | some connection =>
      let (expired, connection) := connection.takeExpired client.settings.requestTimeout client.now
      (expired, client.putConnection index connection)

/-- Take the requests that are too old from several connections. -/
def takeAllExpired (client : Client) : List Nat → List Request × Client
  | [] => ([], client)
  | index :: later =>
      let (expired, client) := client.takeExpired index
      let (others, client) := client.takeAllExpired later
      (expired ++ others, client)

/-- Evict idle connections and fail requests that are too old. -/
def sweep (client : Client) : Client :=
  let idle := client.registry.filter client.isIdle
  let kept := client.registry.filter (!client.isIdle ·)
  let (expired, client) := { client with registry := kept }.takeAllExpired (kept.map Prod.snd)
  let client := idle.foldl (fun client entry => client.retireAndFail entry.2 .idle) client
  client.postFailures expired .timeout

/-- Empty the registry, failing everything outstanding and asking every driver to close. -/
def failOutstanding (client : Client) : Client :=
  let entries := client.registry
  entries.foldl (fun client entry => client.retireAndFail entry.2 .shutdown)
    { client with registry := [] }

/-- Raise the shutdown flag. A client that nobody tried to start ends by itself; one of which the
start failed counts as started, so the flag is all that is raised. -/
def shutdown (client : Client) : Client :=
  let client := { client with shuttingDown := true }
  if client.loop = .stopped then client.failOutstanding else client

/-- Close a session that the loop will not take up. -/
def discard (client : Client) (index : Nat) : Client :=
  match client.sessions[index]? with
  | none => client
  | some session =>
      let client :=
        client.putSession index { session with channel := session.channel.close, phase := .closed }
      match client.connections[session.connection]? with
      | none => client
      | some connection =>
          let (outstanding, connection) := connection.drain
          (client.putConnection session.connection connection).postFailures outstanding .shutDown

/-- Let go of the client. It shuts down, and if no start was tried, its registration queue goes with
it. A loop that was started has taken the queue and looks after it. -/
def dismiss (client : Client) : Client :=
  let client := client.shutdown
  if client.loop = .stopped then client.dropRegistrations else client

/-- Leave the turns: fail everything outstanding and close what was not taken up. -/
def halt (client : Client) : Client :=
  let client := client.failOutstanding
  let left := client.registrations
  left.foldl discard
    { client with registrations := [], registrationsOpen := false, loop := .joining }

/-- Take up a session. -/
def spawn (client : Client) (index : Nat) : Client :=
  match client.sessions[index]? with
  | none => client
  | some session => client.putSession index { session with phase := .finishing false }

/-- Take up every session that waits for it. -/
def spawnAll (client : Client) : Client :=
  client.registrations.foldl spawn { client with registrations := [] }

/-- Sweep if a tick has passed since the last sweep. -/
def sweepIfDue (client : Client) : Client :=
  if client.settings.tick ≤ client.now.since client.lastSweep then
    { client with lastSweep := client.now }.sweep
  else client

/-- The longest time that the loop waits for anything: thirty years of 365 days. -/
def longestWait : Duration := Duration.ofMillis (30 * 365 * 86400000)

/-- When the turn that began at `since` ends by itself: after a tick, or after the longest wait if
that is shorter. -/
def turnDeadline (client : Client) (since : Instant) : Instant :=
  since + min client.settings.tick longestWait

/-- Something ends the turn that began at `since`. -/
def turnEnds (client : Client) (since : Instant) : Bool :=
  !client.registrations.isEmpty || client.driversEnded != 0
    || client.turnDeadline since ≤ client.now

/-- No driver is at work any more. -/
def allClosed (client : Client) : Bool :=
  client.sessions.all fun session => session.phase == .closed

/-- The loop goes on to where it stands next. -/
def enter (client : Client) (loop : LoopPhase) : Client := { client with loop := loop }

/-- One step of the loop; absent while it waits. -/
def turn? (client : Client) : Option Client :=
  match client.loop with
  | .stopped => none
  | .absent => none
  | .probing deadline =>
      if client.now < deadline then none
      else
        let client := { client with lastSweep := client.now }
        some (if client.shuttingDown then client.halt else client.enter (.turning client.now))
  | .turning since =>
      if client.shuttingDown then some client.halt
      else if client.turnEnds since then
        let noticed :=
          if client.registrations.isEmpty then client.driversEnded - 1 else client.driversEnded
        let client := { client with driversEnded := noticed }.spawnAll.sweepIfDue
        some (client.enter (.turning client.now))
      else none
  | .joining => if client.allClosed then some (client.enter .ended) else none
  | .ended => none

/-- One step of the loop, or none. -/
def turn (client : Client) : Client := client.turn?.getD client

end RemoteCall.Client
