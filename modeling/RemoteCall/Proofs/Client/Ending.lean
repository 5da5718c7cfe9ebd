import RemoteCall.Proofs.Client.Metering
import RemoteCall.Proofs.Client.Shutdown

/-!
# How a channel ends

The driver of a channel ends because its connection was asked to close, because waiting for
readiness or a handshake fails, or because of what it reads or writes. `EndsFor` lists the reasons,
and `Ended` says what is left then: whatever the reason and however far reading and writing had
come, everything bound to the connection fails once and for all, and nothing else does.
-/
namespace RemoteCall

open BufferPool

namespace Client

/-- Why a driver ends in its next step, unless it could not connect. -/
inductive EndsFor (client : Client) (session : Session) (connection : Connection) :
    CloseReason → Prop where
  /-- The connection was asked to close. -/
  | asked {reason : CloseReason} (listens : session.phase.listens = true)
      (asked : connection.closeReason = some reason) : EndsFor client session connection reason
  /-- Waiting for readiness fails, or a handshake. -/
  | broke {cause : IoError} (unasked : connection.closeReason = none)
      (why : session.Breaks connection cause) : EndsFor client session connection (.io cause)
  | readEnded {thenWrite : Bool} {work : Fragment.Assembler.Work}
      (phase : session.phase = .reading thenWrite)
      (read : session.assembler.read client.pool session.channel.inbound = (.ended, work)) :
      EndsFor client session connection .peerClosed
  | readFailed {thenWrite : Bool} {cause : IoError} {work : Fragment.Assembler.Work}
      (phase : session.phase = .reading thenWrite)
      (read : session.assembler.read client.pool session.channel.inbound = (.failed cause, work)) :
      EndsFor client session connection (.io cause)
  /-- A header announces more than the reader accepts. -/
  | overLimit {thenWrite : Bool} {length : UInt32} {work : Fragment.Assembler.Work}
      (phase : session.phase = .reading thenWrite)
      (read : session.assembler.read client.pool session.channel.inbound =
        (.overLimit length, work)) :
      EndsFor client session connection (.invalidFraming ("invalid response: " ++
        ("fragment size " ++ toString length.toNat ++ " exceeds maximum " ++
          toString session.assembler.limit.toNat)))
  /-- A record is complete whose first fragment has no room for a reply header. -/
  | shortRecord {thenWrite : Bool} {first : Bytes} {fragments : List Buffer}
      {work : Fragment.Assembler.Work} (phase : session.phase = .reading thenWrite)
      (read : session.assembler.read client.pool session.channel.inbound =
        (.record fragments, work))
      (head : (fragments.head?.map Buffer.bytes).getD [] = first) (short : first.length < 8) :
      EndsFor client session connection (.invalidFraming ("invalid response: " ++
        ("response header needs " ++ toString 8 ++ " bytes, got " ++ toString first.length)))
  | writeEnded {cursor : Cursor} (phase : session.phase = .writing)
      (busy : session.transmitter.current = some cursor) (more : cursor.isComplete = false)
      (refusal : session.channel.outbound.refusal = some .ended) :
      EndsFor client session connection .peerClosed
  | writeFailed {cursor : Cursor} {cause : IoError} (phase : session.phase = .writing)
      (busy : session.transmitter.current = some cursor) (more : cursor.isComplete = false)
      (refusal : session.channel.outbound.refusal = some (.failed cause)) :
      EndsFor client session connection (.io cause)

/-- A session and its connection when they are torn down: nothing was taken from or given to the
requests of the connection, and what the reader holds it held before, or has borrowed since. -/
structure Remains (client : Client) (session : Session) (connection : Connection)
    (pool : BufferPool) (session' : Session) (connection' : Connection) : Prop where
  own : session'.connection = session.connection
  held : session'.transmitter.current = session.transmitter.current
  connection : connection' = { connection with statistics := connection'.statistics }
  traded : Traded client.pool session.lent pool session'.lent

section

variable {client next : Client} {n : Nat} {session : Session} {connection : Connection}
  {reason : CloseReason} {cause : IoError}

/-- What is left when the driver of the session `n` has ended. Of the client nothing has changed but
that session, its connection, the pool and what is to be told: everything that was bound to the
connection has failed once and for all, and what was moved last is counted. -/
structure Ended (client : Client) (n : Nat) (session : Session) (connection : Connection)
    (failure : Failure) (allowance : RetryAllowance) (after : Session) (statistics : Statistics)
    (next : Client) : Prop where
  changed : next = { client with
    sessions := client.sessions.set n after
    connections := client.connections.set session.connection
      { connection with
        queue := [], inFlight := [], link := .disconnected
        allowance := allowance, statistics := statistics }
    pool := next.pool
    posted := client.posted ++
      (session.held.toList ++ connection.outstanding).map fun request => request.fail failure
    driversEnded := client.driversEnded + 1 }
  phase : after.phase = .closed
  shut : after.channel.closed = true
  bare : after.Bare
  released : Traded client.pool session.lent next.pool 0
  resolved : ∀ request ∈ session.held.toList ++ connection.outstanding,
    next.Resolved (request.fail failure)
  silent : (client.moved n next).answers = []
  counts : Metered client.settings.enableStatistics session after connection.statistics statistics
    (client.moved n next)

/-- A step of a driver counts what it moves. -/
theorem Tallied.counts {after : Session} {connection' : Connection} (h : client.Tallied)
    (found : client.sessions[n]? = some session)
    (bound : client.connections[session.connection]? = some connection)
    (step : client.step? n = some next) (sessions : next.sessions = client.sessions.set n after)
    (connections : next.connections = client.connections.set session.connection connection') :
    Metered client.settings.enableStatistics session after connection.statistics
      connection'.statistics (client.moved n next) := by
  have stepped := stepped_of_step? found bound step
  obtain ⟨unread, idle⟩ := h n session found
  obtain ⟨_, _, sessions', connections', -, counts⟩ :=
    (stepped.countedFrom bound unread idle).exists_moved found
  rw [eq_of_set_eq_set found (sessions.symm.trans sessions'),
    eq_of_set_eq_set bound (connections.symm.trans connections')]
  exact counts

/-- Whoever is left bare, and has told nobody anything but failures, has ended. -/
theorem ended_of_changed {after : Session} {statistics : Statistics} {allowance : RetryAllowance}
    {failure : Failure} (reachable : client.Reachable) (free : client.mayDrive n = true)
    (found : client.sessions[n]? = some session)
    (bound : client.connections[session.connection]? = some connection)
    (step : client.step? n = some next)
    (changed : next = { client with
      sessions := client.sessions.set n after
      connections := client.connections.set session.connection
        { connection with
          queue := [], inFlight := [], link := .disconnected
          allowance := allowance, statistics := statistics }
      pool := next.pool
      posted := client.posted ++
        (session.held.toList ++ connection.outstanding).map fun request => request.fail failure
      driversEnded := client.driversEnded + 1 })
    (phase : after.phase = .closed) (shut : after.channel.closed = true) (bare : after.Bare)
    (released : Traded client.pool session.lent next.pool 0) :
    client.Ended n session connection failure allowance after statistics next where
  changed := changed
  phase := phase
  shut := shut
  bare := bare
  released := released
  resolved := by
    have performed := client.perform_drive_of_step? free step
    intro request mem
    refine resolved_of_mem_notices (performed ▸ reachable.perform (.drive n)) ?_
    rw [changed]
    exact List.mem_append_left _ (List.mem_append_left _
      (List.mem_append_right _ (List.mem_map_of_mem mem)))
  silent := by
    have posted : next.posted = client.posted ++
        (session.held.toList ++ connection.outstanding).map fun request =>
          request.fail failure := by rw [changed]
    simp only [moved, posted, List.drop_left, Notice.answers_fail]
  counts := by
    have sessions : next.sessions = client.sessions.set n after := by rw [changed]
    have connections : next.connections = client.connections.set session.connection
        { connection with
          queue := [], inFlight := [], link := .disconnected
          allowance := allowance, statistics := statistics } := by rw [changed]
    exact reachable.tallied.counts found bound step sessions connections

/-- A session that is torn down is left bare. -/
theorem Remains.ended {pool : BufferPool} {session' : Session} {connection' : Connection}
    (h : client.Remains session connection pool session' connection')
    (reachable : client.Reachable) (free : client.mayDrive n = true)
    (found : client.sessions[n]? = some session)
    (bound : client.connections[session.connection]? = some connection)
    (step : client.step? n =
      some (teardown { client with pool := pool } n session' connection' reason)) :
    ∃ after statistics, client.Ended n session connection (reason.failure connection.endpoint)
      connection.allowance after statistics
      (teardown { client with pool := pool } n session' connection' reason) := by
  refine ⟨{ session' with
      channel := session'.channel.close
      assembler := (session'.assembler.reset pool).1
      transmitter := session'.transmitter.takeCurrent.2
      phase := .closed }, connection'.statistics,
    ended_of_changed reachable free found bound step ?_ rfl rfl ⟨rfl, rfl⟩ ?_⟩
  · have held : session'.transmitter.takeCurrent.1 = session.held := by
      rw [Transmitter.takeCurrent, h.held]
      rfl
    obtain ⟨own, -, connection, -⟩ := h
    unfold teardown put
    simp only [held, own]
    rw [connection]
    rfl
  · have back := session'.assembler.traded_reset pool 0
    rw [add_zero] at back
    exact h.traded.trans back

/-- A driver that ends in its next step does so for one of the reasons of `EndsFor`, or because it
cannot connect. -/
theorem Stepped.ends {after : Session} (h : client.Stepped n session connection next)
    (found : client.sessions[n]? = some session) (there : next.sessions[n]? = some after)
    (ended : after.phase = .closed) : (∃ reason, client.EndsFor session connection reason) ∨
      connection.closeReason = none ∧ ∃ cause, session.CannotConnect cause := by
  have lt := (List.getElem?_eq_some_iff.1 found).1
  have closed {session' : Session} (sessions : next.sessions = client.sessions.set n session') :
      session'.phase = .closed := by
    rw [sessions, List.getElem?_set_self lt, Option.some.injEq] at there
    rw [there]
    exact ended
  have goesOn {session' : Session} (sessions : next.sessions = client.sessions.set n session')
      (live : session'.phase ≠ .closed) : False := live (closed sessions)
  cases h with
  | went wanted alike goes => exact (goesOn rfl goes.stays).elim
  | heard phase unasked => exact (goesOn rfl (by simp)).elim
  | connected alike before unasked => exact (goesOn rfl (by simp)).elim
  | failed cause alike before unasked why => exact .inr ⟨unasked, cause, why⟩
  | broke cause alike still link unasked why => exact .inl ⟨_, .broke unasked why⟩
  | closed asked still live listens => exact .inl ⟨_, .asked listens asked⟩
  | @pausedReading thenWrite work phase read =>
    exact (goesOn rfl (by simp only; split <;> simp)).elim
  | @endedReading thenWrite reading work reason phase read why =>
    have limit := (Fragment.Assembler.Work.takes_of_read read).limit
    cases reading with
    | record fragments =>
      refine .inl ⟨_, .shortRecord phase read rfl ?_⟩
      by_contra long
      obtain ⟨header, decoded⟩ : ∃ header,
          ReplyHeader.decode ((fragments.head?.map Buffer.bytes).getD []) = .ok header :=
        ⟨_, if_neg long⟩
      rw [Fragment.Reading.reason?, decoded] at why
      cases why
    | wouldBlock => cases why
    | ended => exact .inl ⟨_, .readEnded phase read⟩
    | failed cause => exact .inl ⟨_, .readFailed phase read⟩
    | overLimit length => exact .inl ⟨_, .overLimit phase read⟩
  | gaveUp phase read decoded unmatched =>
    exact (goesOn rfl (by simp [Session.afterRead, phase])).elim
  | answered phase read decoded inFlight =>
    exact (goesOn rfl (by simp [Session.afterRead, phase])).elim
  | pausedWriting phase unwritten => exact (goesOn rfl (by simp)).elim
  | @endedWriting why reason phase refusal reason? unwritten busy =>
    obtain ⟨cursor, current⟩ := Option.isSome_iff_exists.1 busy
    cases why with
    | idle | wouldBlock => cases reason?
    | ended => exact .inl ⟨_, .writeEnded phase current (unwritten cursor current) refusal⟩
    | failed cause => exact .inl ⟨_, .writeFailed phase current (unwritten cursor current) refusal⟩
  | tookUp phase free queue fits => exact (goesOn rfl (by simp [phase])).elim
  | refused phase free queue large => exact (goesOn rfl (by simp [phase])).elim
  | moved phase busy more accepted pos le => exact (goesOn rfl (by simp [phase])).elim
  | transmitted phase busy complete =>
    rw [foldl_lose_eq] at there
    exact (goesOn (by rw [foldl_lose_eq]; rfl) (by simp [phase])).elim

/-- A client whose channel has ended with one request in flight, one half written and one queued,
and with a record half read. -/
def ending : Client :=
  calling.performAll <|
    List.replicate 8 (Action.drive 0) ++
      [Action.send nullCall, .send nullCall, .notify 0, .change 0 (.setBudget (some 10)),
        .change 0 (.feed [0x80, 0, 0, 12, 0, 0, 0, 9])] ++
      List.replicate 9 (Action.drive 0) ++ [Action.change 0 (.endInbound true), .drive 0]

end

end Client

end RemoteCall
