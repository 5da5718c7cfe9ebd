import RemoteCall.Proofs.Client.Driving

/-!
# What a step of a driver does to its channel

A driver closes its channel when its session ends and not before. Bytes go through the channel, and
the request on the way gets on, only while records are read or written. A driver waits for a queued
request only if it has found none. Only reading can be a use of the connection. `Handled` says so of
every step of a driver.
-/
namespace RemoteCall

/-- How a step of a driver treats the channel, the request on the way, the send queue and the time
of last use. -/
structure Handled (session : Session) (connection : Connection) (session' : Session)
    (connection' : Connection) : Prop where
  closed : session'.channel.closed = true ↔
    session.channel.closed = true ∨ session'.phase = .closed
  still : session.phase.exchanges = false → session'.channel.inbound = session.channel.inbound ∧
    session'.channel.outbound = session.channel.outbound
  current : session.phase ≠ .writing →
    session'.transmitter.current = session.transmitter.current ∨
      session'.transmitter.current = none
  armed : ∀ interest, session'.phase = .waiting true interest → connection.queue = []
  used : (∀ thenWrite, session.phase ≠ .reading thenWrite) →
    connection'.lastUsed = connection.lastUsed

namespace Client

/-- A session and its connection are put back as `Handled` says. -/
def HandledFrom (client : Client) (n : Nat) (session : Session) (connection : Connection)
    (next : Client) : Prop :=
  ∃ session' connection', Handled session connection session' connection' ∧
    next.sessions = client.sessions.set n session' ∧
      next.connections = client.connections.set session.connection connection'

section

variable {client next : Client} {n : Nat} {session session' : Session}
  {connection connection' : Connection}

/-- A session that does not end is put back with its connection. -/
theorem HandledFrom.of_alike (sessions : next.sessions = client.sessions.set n session')
    (connections : next.connections = client.connections.set session.connection connection')
    (alike : session.channel.Alike session'.channel)
    (current : session'.transmitter.current = session.transmitter.current)
    (live : session'.phase ≠ .closed)
    (armed : ∀ interest, session'.phase = .waiting true interest → connection.queue = [])
    (used : connection'.lastUsed = connection.lastUsed) :
    client.HandledFrom n session connection next := by
  refine ⟨session', connection', ⟨?_, fun _ => ⟨alike.inbound, alike.outbound⟩,
    fun _ => .inl current, armed, fun _ => used⟩, sessions, connections⟩
  rw [alike.closed]
  simp [live]

/-- A session that does not end is put back, and its connection is left alone. -/
theorem handledFrom_putSession (bound : client.connections[session.connection]? = some connection)
    (alike : session.channel.Alike session'.channel)
    (current : session'.transmitter.current = session.transmitter.current)
    (live : session'.phase ≠ .closed)
    (armed : ∀ interest, session'.phase = .waiting true interest → connection.queue = []) :
    client.HandledFrom n session connection (client.putSession n session') := by
  obtain ⟨lt, rfl⟩ := List.getElem?_eq_some_iff.1 bound
  exact .of_alike rfl (List.set_getElem_self lt).symm alike current live armed rfl

/-- A step only sees the pool that it is given. -/
theorem HandledFrom.of_pool {pool : BufferPool}
    (h : HandledFrom { client with pool := pool } n session connection next) :
    client.HandledFrom n session connection next := h

/-- A session that ends closes its channel and leaves nothing on the way. -/
theorem handledFrom_teardown (own : session'.connection = session.connection)
    (still : session.phase.exchanges = false → session.channel.Alike session'.channel)
    (used : (∀ thenWrite, session.phase ≠ .reading thenWrite) →
      connection'.lastUsed = connection.lastUsed) (reason : CloseReason) :
    client.HandledFrom n session connection
      (client.teardown n session' connection' reason) := by
  refine ⟨_, { connection'.drain.2 with link := .disconnected }, ?_, rfl, by rw [← own]; rfl⟩
  exact
    { closed := ⟨fun _ => .inr rfl, fun _ => rfl⟩
      still := fun free => ⟨(still free).inbound, (still free).outbound⟩
      current := fun _ => .inr rfl
      armed := fun interest waiting => by cases waiting
      used := used }

theorem handledFrom_connectFailed (own : session'.connection = session.connection)
    (alike : session.channel.Alike session'.channel)
    (current : session'.transmitter.current = session.transmitter.current) (cause : IoError) :
    client.HandledFrom n session connection
      (client.connectFailed n session' connection cause) := by
  refine ⟨_, { connection.drain.2 with
    allowance := connection.allowance.recordFailure client.now
    link := .disconnected }, ?_, rfl, by rw [← own]; rfl⟩
  exact
    { closed := ⟨fun _ => .inr rfl, fun _ => rfl⟩
      still := fun _ => ⟨alike.inbound, alike.outbound⟩
      current := fun _ => .inl current
      armed := fun interest waiting => by cases waiting
      used := fun _ => rfl }

/-- What reading makes of a session that does not end. -/
theorem HandledFrom.of_reading {thenWrite : Bool} (phase : session.phase = .reading thenWrite)
    (sessions : next.sessions = client.sessions.set n session')
    (connections : next.connections = client.connections.set session.connection connection')
    (closed : session'.channel.closed = session.channel.closed)
    (current : session'.transmitter.current = session.transmitter.current)
    (live : session'.phase ≠ .closed)
    (unarmed : ∀ interest, session'.phase ≠ .waiting true interest) :
    client.HandledFrom n session connection next := by
  refine ⟨session', connection', ⟨?_, fun free => ?_, fun _ => .inl current,
    fun interest waiting => absurd waiting (unarmed interest),
    fun other => absurd phase (other thenWrite)⟩, sessions, connections⟩
  · rw [closed]
    simp [live]
  · rw [phase] at free
    cases free

/-- What writing makes of a session that does not end. -/
theorem HandledFrom.of_writing (phase : session.phase = .writing)
    (sessions : next.sessions = client.sessions.set n session')
    (connections : next.connections = client.connections.set session.connection connection')
    (closed : session'.channel.closed = session.channel.closed)
    (live : session'.phase ≠ .closed)
    (unarmed : ∀ interest, session'.phase ≠ .waiting true interest)
    (used : connection'.lastUsed = connection.lastUsed) :
    client.HandledFrom n session connection next := by
  refine ⟨session', connection', ⟨?_, fun free => ?_, fun other => absurd phase other,
    fun interest waiting => absurd waiting (unarmed interest), fun _ => used⟩, sessions,
    connections⟩
  · rw [closed]
    simp [live]
  · rw [phase] at free
    cases free

theorem lastUsed_countSent (client : Client) (connection : Connection) (count : Nat) :
    (client.countSent connection count).lastUsed = connection.lastUsed := by
  unfold countSent
  split <;> rfl

/-- Every step of a driver is as `Handled` says. -/
theorem Stepped.handledFrom (h : client.Stepped n session connection next)
    (bound : client.connections[session.connection]? = some connection) :
    client.HandledFrom n session connection next := by
  cases h with
  | went wanted alike goes =>
    exact handledFrom_putSession bound alike rfl goes.stays goes.armed
  | heard phase unasked => exact .of_alike rfl rfl (.refl _) rfl (by simp) (by simp) rfl
  | connected alike before unasked => exact .of_alike rfl rfl alike rfl (by simp) (by simp) rfl
  | failed cause alike before unasked =>
    exact handledFrom_connectFailed (by exact rfl) alike (by exact rfl) cause
  | broke cause alike still link unasked =>
    exact handledFrom_teardown (by exact rfl) (fun _ => alike) (fun _ => rfl) _
  | closed asked still live =>
    exact handledFrom_teardown rfl (fun _ => .refl _) (fun _ => rfl) _
  | @pausedReading thenWrite work phase read =>
    refine .of_reading phase rfl rfl rfl rfl ?_ ?_
    · cases thenWrite <;> simp
    · cases thenWrite <;> simp
  | endedReading phase read why =>
    exact .of_pool (handledFrom_teardown (by exact rfl)
      (fun free => by rw [phase] at free; cases free) (fun other => absurd phase (other _)) _)
  | gaveUp phase read decoded unmatched =>
    exact .of_reading phase rfl rfl rfl rfl (by rw [Session.afterRead, phase]; simp)
      (by rw [Session.afterRead, phase]; simp)
  | answered phase read decoded inFlight =>
    exact .of_reading phase rfl rfl rfl rfl (by rw [Session.afterRead, phase]; simp)
      (by rw [Session.afterRead, phase]; simp)
  | pausedWriting phase unwritten =>
    exact .of_writing phase rfl rfl rfl (by simp) (by simp) (lastUsed_countSent client _ _)
  | endedWriting phase refusal reason unwritten =>
    exact handledFrom_teardown (by exact rfl) (fun free => by rw [phase] at free; cases free)
      (fun _ => lastUsed_countSent client _ _) _
  | tookUp phase free queue fits =>
    exact .of_writing phase rfl rfl rfl (by simp [phase]) (by simp [phase]) rfl
  | refused phase free queue large =>
    exact .of_writing phase rfl rfl rfl (by simp [phase]) (by simp [phase]) rfl
  | moved phase busy more accepted pos le =>
    exact .of_writing phase rfl rfl rfl (by simp [phase]) (by simp [phase]) rfl
  | transmitted phase busy complete =>
    rw [foldl_lose_eq]
    exact .of_writing phase rfl rfl rfl (by simp [phase]) (by simp [phase])
      rfl

theorem handledFrom_of_step? (h : client.step? n = some next) :
    ∃ session connection, client.sessions[n]? = some session ∧
      client.connections[session.connection]? = some connection ∧
      client.HandledFrom n session connection next := by
  obtain ⟨session, connection, found, bound, stepped⟩ := exists_stepped_of_step? h
  exact ⟨session, connection, found, bound, stepped.handledFrom bound⟩

theorem eq_of_set_eq_set {α : Type} {list : List α} {i : Nat} {a b c : α}
    (there : list[i]? = some c) (eq : list.set i a = list.set i b) : a = b := by
  obtain ⟨lt, -⟩ := List.getElem?_eq_some_iff.1 there
  have first := List.getElem?_set_self (a := a) lt
  rw [eq, List.getElem?_set_self lt, Option.some.injEq] at first
  exact first.symm

/-- A step of a driver is one of the kinds of `Driven`, and as `Handled` says. -/
theorem exists_driven_handled (h : client.step? n = some next) :
    ∃ session connection, client.sessions[n]? = some session ∧
      client.connections[session.connection]? = some connection ∧
      ∃ session' connection' notices displaced,
        Driven session connection session' connection' notices displaced ∧
          Handled session connection session' connection' ∧
            next = { client with
              sessions := client.sessions.set n session'
              connections := client.connections.set session.connection connection'
              posted := client.posted ++ notices
              pool := next.pool
              driversEnded := next.driversEnded
              events := next.events
              mailbox := next.mailbox } := by
  obtain ⟨session, connection, found, bound, stepped⟩ := exists_stepped_of_step? h
  obtain ⟨session', connection', notices, displaced, driven, changed⟩ := stepped.drivenFrom bound
  obtain ⟨after, after', handled, sessions, connections⟩ := stepped.handledFrom bound
  rw [changed] at sessions connections
  refine ⟨session, connection, found, bound, session', connection', notices, displaced, driven, ?_,
    changed⟩
  rw [eq_of_set_eq_set found sessions, eq_of_set_eq_set bound connections]
  exact handled

end

end Client

end RemoteCall
