import RemoteCall.Proofs.Client.Answering
import RemoteCall.Proofs.Client.Sweeping

/-!
# What drivers make of the records of connections

A connection keeps a record of its destination: the allowance, the time of last use and how the
channel stands. A driver resets the allowance when its channel is connected and charges a failure to
it when it gives up connecting; otherwise it only notes that the connection is used or its channel
gone. `Tended` says so of every step of a driver, together with whom the step lets fail because of a
sweep. Whatever is no call, no step of a driver and no sweep leaves all records alone.
-/
namespace RemoteCall

/-! ## Failures that come from sweeps -/

/-- The failures of requests that were too old, and of those bound to a connection that was not used
for too long. -/
def Failure.isSwept : Failure → Bool
  | timeout => true
  | connectionClosed _ .idle => true
  | _ => false

/-- The request has ended because of a sweep. -/
def Outcome.isSwept : Outcome → Bool
  | .response _ => false
  | .failure cause => cause.isSwept

theorem Outcome.isSwept_eq_false {outcome : Outcome} (h : outcome.isReply = true) :
    outcome.isSwept = false := by
  cases outcome with
  | response response => rfl
  | failure cause => cases cause <;> first | rfl | cases h

theorem CloseReason.eq_idle_of_isSwept {reason : CloseReason} {endpoint : String}
    (h : (reason.failure endpoint).isSwept = true) : reason = .idle := by
  cases reason <;> first | rfl | cases h

/-! ## Steps of a driver -/

/-- The connection has the destination and the allowance that it had. It may be noted that it is
used now, or that its channel is gone. -/
structure Connection.Retains (now : Instant) (before after : Connection) : Prop where
  target : after.target = before.target
  allowance : after.allowance = before.allowance
  used : after.lastUsed = before.lastUsed ∨ after.lastUsed = now
  link : after.link = before.link ∨ after.link = .disconnected
  closeReason : after.closeReason = before.closeReason

theorem Connection.Retains.refl (now : Instant) (connection : Connection) :
    connection.Retains now connection :=
  ⟨rfl, rfl, .inl rfl, .inl rfl, rfl⟩

/-- What a step of a driver makes of the record of its connection, and which notices it posts. -/
inductive Tended (now : Instant) (session : Session) (connection : Connection) :
    Session → Connection → List Notice → Prop where
  | retained {session' : Session} {connection' : Connection} {notices : List Notice}
      (record : connection.Retains now connection')
      (connects : session.phase.connects = true →
        session'.phase.connects = true ∨ session'.phase = .closed ∧ connection.closeReason ≠ none)
      (swept : ∀ notice ∈ notices, notice.outcome.isSwept = true →
        connection.closeReason = some .idle ∧
          ∃ request ∈ session.held.toList ++ connection.outstanding,
            request.fail (.connectionClosed connection.endpoint .idle) = notice) :
      Tended now session connection session' connection' notices
  | connected {session' : Session} (before : session.phase.connects = true)
      (after : session'.phase = .deciding) :
      Tended now session connection session'
        { connection with link := .connected, allowance := connection.allowance.reset } []
  | failed {session' : Session} (cause : IoError) (before : session.phase.connects = true)
      (after : session'.phase = .closed) (unasked : connection.closeReason = none) :
      Tended now session connection session'
        { connection.drain.2 with
          allowance := connection.allowance.recordFailure now
          link := .disconnected }
        (connection.outstanding.map fun request =>
          request.fail (.connectFailed connection.endpoint cause))

/-- A driver keeps the destination of its connection, and what that was asked. -/
theorem Tended.stays {now : Instant} {session session' : Session}
    {connection connection' : Connection} {notices : List Notice}
    (h : Tended now session connection session' connection' notices) :
    connection'.target = connection.target ∧
      connection'.closeReason = connection.closeReason ∧
        (connection'.lastUsed = connection.lastUsed ∨ connection'.lastUsed = now) := by
  cases h with
  | retained record connects swept => exact ⟨record.target, record.closeReason, record.used⟩
  | connected before after => exact ⟨rfl, rfl, .inl rfl⟩
  | failed cause before after unasked => exact ⟨rfl, rfl, .inl rfl⟩

namespace Client

/-- A session and its connection are put back as a step of the driver leaves them. -/
def TendedFrom (client : Client) (n : Nat) (session : Session) (connection : Connection)
    (next : Client) : Prop :=
  ∃ session' connection' notices,
    Tended client.now session connection session' connection' notices ∧
      next.sessions = client.sessions.set n session' ∧
      next.connections = client.connections.set session.connection connection' ∧
      next.posted = client.posted ++ notices

section

variable {client next : Client} {n : Nat} {session session' : Session}
  {connection connection' : Connection}

theorem retains_countReceived (client : Client) (connection : Connection) (count : Nat) :
    connection.Retains client.now (client.countReceived connection count) := by
  unfold countReceived
  split <;> exact ⟨rfl, rfl, .inl rfl, .inl rfl, rfl⟩

theorem retains_countSent {now : Instant} (h : connection.Retains now connection')
    (client : Client) (count : Nat) :
    connection.Retains now (client.countSent connection' count) := by
  unfold countSent
  split <;> exact ⟨h.target, h.allowance, h.used, h.link, h.closeReason⟩

theorem retains_countRoundTrip {now : Instant} (h : connection.Retains now connection')
    (client : Client) (outcome : Outcome) :
    connection.Retains now (client.countRoundTrip connection' outcome) := by
  unfold countRoundTrip
  split <;> exact ⟨h.target, h.allowance, h.used, h.link, h.closeReason⟩

/-- A step that leaves the record alone and lets no request fail. -/
theorem TendedFrom.of_retains (record : connection.Retains client.now connection')
    (connects : session.phase.connects = true → session'.phase.connects = true)
    (sessions : next.sessions = client.sessions.set n session')
    (connections : next.connections = client.connections.set session.connection connection')
    (posted : next.posted = client.posted) : client.TendedFrom n session connection next :=
  ⟨session', connection', [],
    .retained record (fun before => .inl (connects before)) (List.forall_mem_nil _), sessions,
    connections, by rw [posted, List.append_nil]⟩

/-- A step that puts the session back and leaves the connection alone. -/
theorem tendedFrom_putSession (bound : client.connections[session.connection]? = some connection)
    (connects : session.phase.connects = true → session'.phase.connects = true) :
    client.TendedFrom n session connection (client.putSession n session') := by
  have same : client.connections.set session.connection connection = client.connections := by
    obtain ⟨lt, rfl⟩ := List.getElem?_eq_some_iff.1 bound
    exact List.set_getElem_self lt
  exact .of_retains (.refl _ _) connects rfl same.symm rfl

/-- A step only sees the pool that it is given. -/
theorem TendedFrom.of_pool {pool : BufferPool}
    (h : TendedFrom { client with pool := pool } n session connection next) :
    client.TendedFrom n session connection next := h

/-- A session that ends for another reason than that its connection was idle. -/
theorem tendedFrom_teardown (record : connection.Retains client.now connection')
    (own : session'.connection = session.connection) (still : session.phase.connects = false)
    {reason : CloseReason} (busy : reason ≠ .idle) :
    client.TendedFrom n session connection (client.teardown n session' connection' reason) := by
  refine ⟨_, { connection'.drain.2 with link := .disconnected }, _,
    .retained ⟨record.target, record.allowance, record.used, .inr rfl, record.closeReason⟩
      (fun connects => ?_) fun notice mem swept => ?_, rfl, by rw [← own]; rfl, rfl⟩
  · rw [still] at connects
    cases connects
  · obtain ⟨request, -, rfl⟩ := List.mem_map.1 mem
    exact absurd (CloseReason.eq_idle_of_isSwept swept) busy

/-- A session that ends because it was asked to. -/
theorem tendedFrom_asked {reason : CloseReason} (asked : connection.closeReason = some reason) :
    client.TendedFrom n session connection (client.teardown n session connection reason) := by
  refine ⟨_, { connection.drain.2 with link := .disconnected }, _,
    .retained ⟨rfl, rfl, .inl rfl, .inr rfl, rfl⟩ (fun _ => .inr ⟨rfl, by rw [asked]; simp⟩)
      fun notice mem swept => ?_, rfl, rfl, rfl⟩
  obtain ⟨request, bound, rfl⟩ := List.mem_map.1 mem
  have idle : reason = .idle := CloseReason.eq_idle_of_isSwept swept
  rw [idle] at asked
  exact ⟨asked, request, bound, by rw [idle]; rfl⟩

theorem tendedFrom_connectFailed (own : session'.connection = session.connection)
    (before : session.phase.connects = true) (unasked : connection.closeReason = none)
    (cause : IoError) :
    client.TendedFrom n session connection (client.connectFailed n session' connection cause) :=
  ⟨{ session' with channel := session'.channel.close, phase := .closed }, _, _,
    .failed cause before rfl unasked, rfl, by rw [← own]; rfl, rfl⟩

/-- Every step of a driver is of one of the kinds of `Tended`. -/
theorem Stepped.tendedFrom (h : client.Stepped n session connection next)
    (bound : client.connections[session.connection]? = some connection) :
    client.TendedFrom n session connection next := by
  have stays (still : session.phase.connects = false) {session' : Session}
      (connects : session.phase.connects = true) : session'.phase.connects = true := by
    rw [still] at connects
    cases connects
  have reads {thenWrite : Bool} (phase : session.phase = .reading thenWrite) :
      session.phase.connects = false := by rw [phase]; rfl
  have writes (phase : session.phase = .writing) : session.phase.connects = false := by
    rw [phase]; rfl
  have counted (work : Fragment.Assembler.Work) :=
    retains_countReceived client connection work.assembler.takeReceived.1
  have used (work : Fragment.Assembler.Work) :
      connection.Retains client.now (client.used connection work) :=
    ⟨(counted work).target, (counted work).allowance, .inr rfl, (counted work).link,
      (counted work).closeReason⟩
  have unswept {notice : Notice} (kind : notice.outcome.isSwept = false) (other : Notice)
      (mem : other ∈ [notice]) (swept : other.outcome.isSwept = true) : False := by
    rw [List.mem_singleton.1 mem, kind] at swept
    cases swept
  cases h with
  | went wanted alike goes => exact tendedFrom_putSession bound goes.connects
  | heard phase unasked =>
    exact .of_retains (by exact ⟨rfl, rfl, .inl rfl, .inl rfl, rfl⟩) (stays (by rw [phase]; rfl))
      rfl rfl rfl
  | connected alike before unasked =>
    exact ⟨_, _, [], .connected before rfl, rfl, rfl, (List.append_nil _).symm⟩
  | failed cause alike before unasked =>
    exact tendedFrom_connectFailed (by exact rfl) before unasked cause
  | broke cause alike still link unasked =>
    exact tendedFrom_teardown (.refl _ _) (by exact rfl) (SessionPhase.connects_eq_false link)
      (by simp)
  | closed asked still live => exact tendedFrom_asked asked
  | pausedReading phase read =>
    exact .of_retains (counted _) (stays (reads phase)) rfl rfl rfl
  | endedReading phase read why =>
    exact .of_pool (tendedFrom_teardown (counted _) (by exact rfl) (reads phase)
      (Fragment.Reading.ne_idle_of_reason? why))
  | gaveUp phase read decoded unmatched =>
    exact .of_retains (used _) (stays (reads phase)) rfl rfl rfl
  | @answered thenWrite fragments work header request phase read decoded inFlight =>
    have reply := request.isReply_outcome header.status fragments client.parsers client.now
    have kind : (request.complete header.status fragments client.parsers
        client.now).1.outcome.isSwept = false := by
      rw [Request.complete_fst]
      exact Outcome.isSwept_eq_false reply
    refine ⟨_, _, [_], .retained (retains_countRoundTrip ?_ client _)
      (fun connects => .inl (stays (reads phase) connects))
      (fun notice mem swept => (unswept kind notice mem swept).elim), rfl, rfl, rfl⟩
    exact ⟨(used work).target, (used work).allowance, (used work).used, (used work).link,
      (used work).closeReason⟩
  | pausedWriting phase unwritten =>
    exact .of_retains (retains_countSent (.refl _ _) client _) (stays (writes phase)) rfl rfl rfl
  | endedWriting phase refusal reason unwritten =>
    exact tendedFrom_teardown (retains_countSent (.refl _ _) client _) (by exact rfl)
      (writes phase) (Flushed.ne_idle_of_reason? reason)
  | tookUp phase free queue fits =>
    exact .of_retains (by exact ⟨rfl, rfl, .inl rfl, .inl rfl, rfl⟩) (stays (writes phase))
      rfl rfl rfl
  | @refused request later phase free queue large =>
    have kind : (request.fail request.oversize).outcome.isSwept = false := rfl
    refine ⟨session, { connection with queue := later }, [request.fail request.oversize],
      .retained ⟨rfl, rfl, .inl rfl, .inl rfl, rfl⟩
        (fun connects => .inl (stays (writes phase) connects))
        (fun notice mem swept => (unswept kind notice mem swept).elim), rfl, rfl, rfl⟩
  | moved phase busy more accepted pos le =>
    exact .of_retains (.refl _ _) (stays (writes phase)) rfl rfl rfl
  | transmitted phase busy complete =>
    rw [foldl_lose_eq]
    exact .of_retains (by exact ⟨rfl, rfl, .inl rfl, .inl rfl, rfl⟩) (stays (writes phase))
      rfl rfl rfl

end

end Client

end RemoteCall
