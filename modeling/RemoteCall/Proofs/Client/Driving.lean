import RemoteCall.Proofs.Client.Stepping
import RemoteCall.Proofs.Client.Telling

/-!
# What a step of a driver does

A step of the driver of a session changes this session and its connection, and posts notices. Seen
from the requests there are eight kinds of steps, which `Driven` lists. `Stepped.drivenFrom` finds the
kind of every step; what follows about requests needs no other fact about drivers.
-/
namespace RemoteCall

/-- The request that a transmitter is writing. -/
def Transmitter.held (transmitter : Transmitter) : Option Request :=
  transmitter.current.map Cursor.request

/-- The request that is being written to the channel of a session. -/
def Session.held (session : Session) : Option Request := session.transmitter.held

/-- Two states of a connection with the same requests, link and order to close. -/
structure Connection.Alike (a b : Connection) : Prop where
  target : b.target = a.target
  link : b.link = a.link
  queue : b.queue = a.queue
  inFlight : b.inFlight = a.inFlight
  closeReason : b.closeReason = a.closeReason
  evicted : b.evicted = a.evicted

theorem Connection.Alike.refl (connection : Connection) : connection.Alike connection :=
  ⟨rfl, rfl, rfl, rfl, rfl, rfl⟩

theorem Connection.Alike.trans {a b c : Connection} (hab : a.Alike b) (hbc : b.Alike c) :
    a.Alike c :=
  ⟨hbc.target.trans hab.target, hbc.link.trans hab.link, hbc.queue.trans hab.queue,
    hbc.inFlight.trans hab.inFlight, hbc.closeReason.trans hab.closeReason,
    hbc.evicted.trans hab.evicted⟩

/-- Two states of a session with the same connection and the same request on the way. -/
structure Session.Alike (a b : Session) : Prop where
  connection : b.connection = a.connection
  held : b.held = a.held

@[simp] theorem Request.ticket_markSent (request : Request) (now : Instant) :
    (request.markSent now).ticket = request.ticket := by
  unfold markSent; split <;> rfl

@[simp] theorem Request.info_markSent (request : Request) (now : Instant) :
    (request.markSent now).info = request.info := by
  unfold markSent; split <;> rfl

@[simp] theorem Request.ticket_complete (request : Request) (status : AcceptStatus)
    (fragments : List Buffer) (parsers : List ExceptionDecoder) (now : Instant) :
    (request.complete status fragments parsers now).1.ticket = request.ticket := by
  unfold complete; split <;> rfl

/-- The kinds of steps of a driver: how a session and its connection change, the notices that are
posted, and a request in flight that had to give way to another with its id. -/
inductive Driven (session : Session) (connection : Connection) :
    Session → Connection → List Notice → Option Request → Prop where
  /-- Only the channel has changed, or nothing but the phase. -/
  | stayed {session' : Session} {connection' : Connection} (own : session.Alike session')
      (shared : connection.Alike connection') (link : session'.phase.link = session.phase.link)
      (live : session.phase ≠ .closed) (taken : session'.phase ≠ .registered)
      (exchanges : session'.phase.exchanges →
        session.phase.exchanges ∨ connection.closeReason = none) :
      Driven session connection session' connection' [] none
  | connected {session' : Session} {connection' : Connection} (own : session.Alike session')
      (shared : ({ connection with link := .connected } : Connection).Alike connection')
      (before : session.phase.link = .connecting) (after : session'.phase = .deciding) :
      Driven session connection session' connection' [] none
  | tookUp {request : Request} {later : List Request} {session' : Session}
      {connection' : Connection} (own : session'.connection = session.connection)
      (phase : session'.phase = .writing) (before : session.phase = .writing)
      (free : session.held = none) (held : session'.held = some request)
      (queue : connection.queue = request :: later)
      (shared : ({ connection with queue := later } : Connection).Alike connection') :
      Driven session connection session' connection' [] none
  | refused {request : Request} {later : List Request} {session' : Session}
      {connection' : Connection} (failure : Failure) (own : session.Alike session')
      (phase : session'.phase = .writing) (before : session.phase = .writing)
      (queue : connection.queue = request :: later)
      (shared : ({ connection with queue := later } : Connection).Alike connection') :
      Driven session connection session' connection' [request.fail failure] none
  | transmitted {request : Request} {session' : Session} {connection' : Connection} (now : Instant)
      (own : session'.connection = session.connection)
      (phase : session'.phase = .writing) (before : session.phase = .writing)
      (held : session.held = some request) (free : session'.held = none)
      (shared : (connection.markInFlight (request.markSent now)).2.Alike connection') :
      Driven session connection session' connection' []
        (connection.inFlight? request.info.xid)
  | answered {request : Request} {session' : Session} {connection' : Connection} {notice : Notice}
      (xid : UInt32) (now : Instant) (own : session.Alike session')
      (phase : session'.phase = session.phase) (before : session.phase.exchanges)
      (inFlight : connection.inFlight? xid = some request)
      (ticket : notice.ticket = request.ticket)
      (shared : (connection.takeInFlight xid now).2.Alike connection') :
      Driven session connection session' connection' [notice] none
  | tornDown {session' : Session} {connection' : Connection} (reason : CloseReason)
      (own : session'.connection = session.connection) (phase : session'.phase = .closed)
      (live : session.phase ≠ .closed) (free : session'.held = none)
      (shared : ({ connection.drain.2 with link := .disconnected } : Connection).Alike connection')
      (asked : ∀ asked, connection.closeReason = some asked →
        session.phase.exchanges ∨ reason = asked) :
      Driven session connection session' connection'
        ((session.held.toList ++ connection.outstanding).map
          fun request => request.fail (reason.failure connection.endpoint)) none
  | connectFailed {session' : Session} {connection' : Connection} (cause : IoError)
      (own : session.Alike session') (phase : session'.phase = .closed)
      (before : session.phase.link = .connecting) (unasked : connection.closeReason = none)
      (shared : ({ connection.drain.2 with link := .disconnected } : Connection).Alike
        connection') :
      Driven session connection session' connection'
        (connection.outstanding.map
          fun request => request.fail (.connectFailed connection.endpoint cause)) none

namespace Driven

variable {session session' : Session} {connection connection' : Connection}
  {notices : List Notice} {displaced : Option Request}

theorem live (h : Driven session connection session' connection' notices displaced) :
    session.phase ≠ .closed := by
  cases h with
  | stayed _ _ _ live _ _ => exact live
  | connected _ _ before _ => intro hclosed; rw [hclosed] at before; cases before
  | tookUp _ _ before _ _ _ _ => rw [before]; simp
  | refused _ _ _ before _ _ => rw [before]; simp
  | transmitted _ _ _ before _ _ _ => rw [before]; simp
  | answered _ _ _ _ before _ _ _ => intro hclosed; rw [hclosed] at before; cases before
  | tornDown _ _ _ live _ _ _ => exact live
  | connectFailed _ _ _ before _ _ => intro hclosed; rw [hclosed] at before; cases before

/-- A session that was driven has been taken up. -/
theorem taken (h : Driven session connection session' connection' notices displaced) :
    session'.phase ≠ .registered := by
  cases h with
  | stayed _ _ _ _ taken _ => exact taken
  | connected _ _ _ after => rw [after]; simp
  | tookUp _ phase _ _ _ _ _ => rw [phase]; simp
  | refused _ _ phase _ _ _ => rw [phase]; simp
  | transmitted _ _ phase _ _ _ _ => rw [phase]; simp
  | answered _ _ _ phase before _ _ _ =>
    rw [phase]
    exact SessionPhase.ne_registered_of_exchanges before
  | tornDown _ _ phase _ _ _ _ => rw [phase]; simp
  | connectFailed _ _ phase _ _ _ => rw [phase]; simp

/-- A driver keeps its connection. -/
theorem own (h : Driven session connection session' connection' notices displaced) :
    session'.connection = session.connection := by
  cases h with
  | stayed own _ _ _ _ _ => exact own.connection
  | connected own _ _ _ => exact own.connection
  | tookUp own _ _ _ _ _ _ => exact own
  | refused _ own _ _ _ _ => exact own.connection
  | transmitted _ own _ _ _ _ _ => exact own
  | answered _ _ own _ _ _ _ _ => exact own.connection
  | tornDown _ own _ _ _ _ _ => exact own
  | connectFailed _ own _ _ _ _ => exact own.connection

/-- A driver leaves orders to close as they are. -/
theorem closeReason (h : Driven session connection session' connection' notices displaced) :
    connection'.closeReason = connection.closeReason := by
  cases h with
  | stayed _ shared _ _ _ _ => exact shared.closeReason
  | connected _ shared _ _ => exact shared.closeReason
  | tookUp _ _ _ _ _ _ shared => exact shared.closeReason
  | refused _ _ _ _ _ shared => exact shared.closeReason
  | transmitted _ _ _ _ _ _ shared => exact shared.closeReason
  | answered _ _ _ _ _ _ _ shared => exact shared.closeReason
  | tornDown _ _ _ _ _ shared _ => exact shared.closeReason
  | connectFailed _ _ _ _ _ shared => exact shared.closeReason

/-- The link of the connection goes on saying in which phase the session is. -/
theorem link (h : Driven session connection session' connection' notices displaced)
    (before : connection.link = session.phase.link) : connection'.link = session'.phase.link := by
  cases h with
  | stayed _ shared link _ _ _ => rw [shared.link, link, before]
  | connected _ shared _ after => rw [shared.link, after]; rfl
  | tookUp _ phase started _ _ _ shared => rw [shared.link, phase, ← started]; exact before
  | refused _ _ phase started _ shared => rw [shared.link, phase, ← started]; exact before
  | transmitted _ _ phase started _ _ shared => rw [shared.link, phase, ← started]; exact before
  | answered _ _ _ phase _ _ _ shared => rw [shared.link, phase]; exact before
  | tornDown _ _ phase _ _ shared _ => rw [shared.link, phase]; rfl
  | connectFailed _ _ phase _ _ shared => rw [shared.link, phase]; rfl

/-- A session that ends leaves nothing outstanding on its connection. -/
theorem drained (h : Driven session connection session' connection' notices displaced)
    (ended : session'.phase = .closed) : connection'.outstanding = [] := by
  have emptied {link : Link} (shared : ({ connection.drain.2 with link := link } : Connection).Alike
      connection') : connection'.outstanding = [] := by
    rw [Connection.outstanding, shared.queue, shared.inFlight]
    rfl
  cases h with
  | stayed _ _ link live _ _ =>
    rw [ended] at link
    exact absurd (SessionPhase.link_eq_disconnected_iff.1 link.symm) live
  | connected _ _ _ after => rw [ended] at after; cases after
  | tookUp _ phase _ _ _ _ _ => rw [ended] at phase; cases phase
  | refused _ _ phase _ _ _ => rw [ended] at phase; cases phase
  | transmitted _ _ phase _ _ _ _ => rw [ended] at phase; cases phase
  | answered _ _ _ phase before _ _ _ =>
    rw [← phase, ended] at before
    cases before
  | tornDown _ _ _ _ _ shared _ => exact emptied shared
  | connectFailed _ _ _ _ _ shared => exact emptied shared

/-- Only a connected channel has requests in flight. -/
theorem unsent (h : Driven session connection session' connection' notices displaced)
    (before : connection.link = session.phase.link)
    (empty : connection.link ≠ .connected → connection.inFlight = [])
    (unlinked : connection'.link ≠ .connected) : connection'.inFlight = [] := by
  have exchanging (busy : session.phase.exchanges) : connection.link = .connected := by
    rw [before]
    exact SessionPhase.link_of_exchanges busy
  cases h with
  | stayed _ shared _ _ _ _ =>
    rw [shared.inFlight]
    rw [shared.link] at unlinked
    exact empty unlinked
  | connected _ shared _ _ => exact absurd shared.link unlinked
  | tookUp _ _ started _ _ _ shared =>
    rw [shared.link] at unlinked
    exact absurd (exchanging (by rw [started]; rfl)) unlinked
  | refused _ _ _ started _ shared =>
    rw [shared.link] at unlinked
    exact absurd (exchanging (by rw [started]; rfl)) unlinked
  | transmitted _ _ _ started _ _ shared =>
    rw [shared.link] at unlinked
    exact absurd (exchanging (by rw [started]; rfl)) unlinked
  | answered _ _ _ _ busy _ _ shared =>
    rw [shared.link] at unlinked
    exact absurd (exchanging busy) unlinked
  | tornDown _ _ _ _ _ shared _ => rw [shared.inFlight]; rfl
  | connectFailed _ _ _ _ _ shared => rw [shared.inFlight]; rfl

/-- A request is being written only to a connected channel. -/
theorem holding (h : Driven session connection session' connection' notices displaced)
    (before : session.held ≠ none → session.phase.link = .connected)
    (held : session'.held ≠ none) : session'.phase.link = .connected := by
  cases h with
  | stayed own _ link _ _ _ =>
    rw [link]
    exact before (by rw [← own.held]; exact held)
  | connected _ _ _ after => rw [after]; rfl
  | tookUp _ phase _ _ _ _ _ => rw [phase]; rfl
  | refused _ _ phase _ _ _ => rw [phase]; rfl
  | transmitted _ _ phase _ _ _ _ => rw [phase]; rfl
  | answered _ _ _ phase busy _ _ _ =>
    rw [phase]
    exact SessionPhase.link_of_exchanges busy
  | tornDown _ _ _ _ free _ _ => exact absurd free held
  | connectFailed _ own _ connecting _ _ =>
    have connected := before (by rw [← own.held]; exact held)
    rw [connecting] at connected
    cases connected

/-- A driver does not begin to read or write once it was asked to close. -/
theorem closing (h : Driven session connection session' connection' notices displaced)
    (before : session.phase.exchanges → connection.closeReason = none)
    (busy : session'.phase.exchanges) : connection'.closeReason = none := by
  rw [h.closeReason]
  cases h with
  | stayed _ _ _ _ _ exchanges => exact (exchanges busy).elim before id
  | connected _ _ _ after => rw [after] at busy; cases busy
  | tookUp _ _ started _ _ _ _ => exact before (by rw [started]; rfl)
  | refused _ _ _ started _ _ => exact before (by rw [started]; rfl)
  | transmitted _ _ _ started _ _ _ => exact before (by rw [started]; rfl)
  | answered _ _ _ _ exchanging _ _ _ => exact before exchanging
  | tornDown _ _ phase _ _ _ _ => rw [phase] at busy; cases busy
  | connectFailed _ _ phase _ _ _ => rw [phase] at busy; cases busy

/-- No request gives way unless one with the id of the request being written is in flight. -/
theorem displaced_eq_none
    (h : Driven session connection session' connection' notices displaced)
    (distinct : ∀ request, session.held = some request →
      connection.inFlight? request.info.xid = none) : displaced = none := by
  cases h with
  | stayed _ _ _ _ _ _ => rfl
  | connected _ _ _ _ => rfl
  | tookUp _ _ _ _ _ _ _ => rfl
  | refused _ _ _ _ _ _ => rfl
  | transmitted _ _ _ _ held _ _ => exact distinct _ held
  | answered _ _ _ _ _ _ _ _ => rfl
  | tornDown _ _ _ _ _ _ _ => rfl
  | connectFailed _ _ _ _ _ _ => rfl

/-- The driver of a session that was asked to close goes on holding its request, or lets it fail for
the reason that it was given. -/
theorem held_or_failed
    (h : Driven session connection session' connection' notices displaced)
    (quiet : session.phase.exchanges → connection.closeReason = none) {request : Request}
    (held : session.held = some request) {reason : CloseReason}
    (asked : connection.closeReason = some reason) :
    session'.held = some request ∨
      request.fail (reason.failure connection.endpoint) ∈ notices := by
  have still : ¬ session.phase.exchanges := fun busy => by
    rw [quiet busy] at asked
    cases asked
  cases h with
  | stayed own _ _ _ _ _ => exact .inl (own.held.trans held)
  | connected own _ _ _ => exact .inl (own.held.trans held)
  | tookUp _ _ before _ _ _ _ => exact absurd (by rw [before]; rfl) still
  | refused _ _ _ before _ _ => exact absurd (by rw [before]; rfl) still
  | transmitted _ _ _ before _ _ _ => exact absurd (by rw [before]; rfl) still
  | answered _ _ _ _ before _ _ _ => exact absurd before still
  | tornDown given _ _ _ _ _ obeys =>
    right
    rw [(obeys reason asked).resolve_left still, held]
    exact List.mem_cons_self
  | connectFailed _ own _ _ _ _ => exact .inl (own.held.trans held)

end Driven

namespace Client

/-- `next` is `client` with the session `index` and its connection changed as a step of a driver
changes them. Of the rest only the pool, the events, the mailbox and the count of drivers that have
ended may differ. -/
def DrivenFrom (client : Client) (index : Nat) (session : Session) (connection : Connection)
    (next : Client) : Prop :=
  ∃ session' connection' notices displaced,
    Driven session connection session' connection' notices displaced ∧
      next = { client with
        sessions := client.sessions.set index session'
        connections := client.connections.set session.connection connection'
        posted := client.posted ++ notices
        pool := next.pool
        driversEnded := next.driversEnded
        events := next.events
        mailbox := next.mailbox }

theorem alike_countReceived (client : Client) (connection : Connection) (count : Nat) :
    connection.Alike (client.countReceived connection count) := by
  unfold countReceived
  split <;> exact ⟨rfl, rfl, rfl, rfl, rfl, rfl⟩

theorem alike_countSent (client : Client) (connection : Connection) (count : Nat) :
    connection.Alike (client.countSent connection count) := by
  unfold countSent
  split <;> exact ⟨rfl, rfl, rfl, rfl, rfl, rfl⟩

theorem alike_countRoundTrip (client : Client) (connection : Connection) (outcome : Outcome) :
    connection.Alike (client.countRoundTrip connection outcome) := by
  unfold countRoundTrip
  split <;> exact ⟨rfl, rfl, rfl, rfl, rfl, rfl⟩

section

variable {client : Client} {index : Nat} {session session' : Session}
  {connection connection' : Connection}

/-- A request that vanishes leaves its traces in the events and the mailbox only. -/
theorem DrivenFrom.loseAll {next : Client} (h : client.DrivenFrom index session connection next)
    (requests : List Request) :
    client.DrivenFrom index session connection (requests.foldl lose next) := by
  obtain ⟨session', connection', notices, displaced, driven, hnext⟩ := h
  refine ⟨session', connection', notices, displaced, driven, ?_⟩
  rw [foldl_lose_eq, hnext]

/-- A step that puts the session and the connection back with the same requests. -/
theorem drivenFrom_put (own : session.Alike session') (shared : connection.Alike connection')
    (live : session.phase ≠ .closed) (link : session'.phase.link = session.phase.link)
    (taken : session'.phase ≠ .registered)
    (exchanges : session'.phase.exchanges →
      session.phase.exchanges ∨ connection.closeReason = none) :
    client.DrivenFrom index session connection (client.put index session' connection') := by
  refine ⟨session', connection', [], none, .stayed own shared link live taken exchanges, ?_⟩
  rw [← own.connection, List.append_nil]
  rfl

/-- A step that puts the session back and leaves the connection alone. -/
theorem drivenFrom_putSession (hc : client.connections[session.connection]? = some connection)
    (own : session.Alike session') (live : session.phase ≠ .closed)
    (link : session'.phase.link = session.phase.link) (taken : session'.phase ≠ .registered)
    (exchanges : session'.phase.exchanges →
      session.phase.exchanges ∨ connection.closeReason = none) :
    client.DrivenFrom index session connection (client.putSession index session') := by
  have hsame : client.connections.set session.connection connection = client.connections := by
    obtain ⟨hlt, rfl⟩ := List.getElem?_eq_some_iff.1 hc
    exact List.set_getElem_self hlt
  refine ⟨session', connection, [], none,
    .stayed own (.refl _) link live taken exchanges, ?_⟩
  rw [hsame, List.append_nil]
  rfl

theorem drivenFrom_teardown (own : session.Alike session') (shared : connection.Alike connection')
    (live : session.phase ≠ .closed) (reason : CloseReason)
    (asked : ∀ asked, connection.closeReason = some asked →
      session.phase.exchanges ∨ reason = asked) :
    client.DrivenFrom index session connection
      (client.teardown index session' connection' reason) := by
  have hnotices : ((session'.transmitter.takeCurrent.1.toList ++ connection'.drain.1).map
        fun request => request.fail (reason.failure connection'.endpoint))
      = (session.held.toList ++ connection.outstanding).map
          fun request => request.fail (reason.failure connection.endpoint) := by
    simp only [← own.held, Connection.drain, Connection.outstanding, Connection.endpoint,
      shared.queue, shared.inFlight, shared.target]
    rfl
  let ended : Session :=
    { session' with
      channel := session'.channel.close
      assembler := (session'.assembler.reset client.pool).1
      transmitter := session'.transmitter.takeCurrent.2
      phase := .closed }
  have driven : Driven session connection ended
      { connection'.drain.2 with link := .disconnected } _ none :=
    .tornDown reason own.connection rfl live rfl
      ⟨shared.target, rfl, rfl, rfl, shared.closeReason, shared.evicted⟩ asked
  refine ⟨_, _, _, _, driven, ?_⟩
  rw [← hnotices, ← own.connection]
  rfl

theorem drivenFrom_connectFailed (own : session.Alike session')
    (before : session.phase.link = .connecting)
    (unasked : connection.closeReason = none) (cause : IoError) :
    client.DrivenFrom index session connection
      (client.connectFailed index session' connection cause) := by
  let ended : Session := { session' with channel := session'.channel.close, phase := .closed }
  let freed : Connection :=
    { connection.drain.2 with
      allowance := connection.drain.2.allowance.recordFailure client.now
      link := .disconnected }
  have driven : Driven session connection ended freed _ none :=
    .connectFailed cause ⟨own.connection, own.held⟩ rfl before unasked
      ⟨rfl, rfl, rfl, rfl, rfl, rfl⟩
  refine ⟨_, _, _, _, driven, ?_⟩
  rw [← own.connection]
  rfl

/-- A step only sees the pool that it is given. -/
theorem DrivenFrom.of_pool {next : Client} {pool : BufferPool}
    (h : DrivenFrom { client with pool := pool } index session connection next) :
    client.DrivenFrom index session connection next := h

/-- A step that posts nothing puts back what is left of the session and the connection. -/
theorem drivenFrom_of_driven {displaced : Option Request}
    (h : Driven session connection session' connection' [] displaced) :
    client.DrivenFrom index session connection (client.put index session' connection') := by
  refine ⟨session', connection', [], displaced, h, ?_⟩
  rw [List.append_nil, ← h.own]
  rfl

/-- The kinds of steps, seen from the requests. -/
theorem Stepped.drivenFrom {next : Client} (h : client.Stepped index session connection next)
    (bound : client.connections[session.connection]? = some connection) :
    client.DrivenFrom index session connection next := by
  have exchanges {thenWrite : Bool} (phase : session.phase = .reading thenWrite) :
      session.phase.exchanges := by rw [phase]; rfl
  have writes (phase : session.phase = .writing) : session.phase.exchanges := by rw [phase]; rfl
  have live (busy : session.phase.exchanges) : session.phase ≠ .closed := by
    intro ended
    rw [ended] at busy
    cases busy
  have held {cursor : Cursor} (busy : session.transmitter.current = some cursor) :
      session.held = some cursor.request := by
    rw [Session.held, Transmitter.held, busy]
    rfl
  cases h with
  | went wanted alike goes =>
    exact drivenFrom_putSession bound (by exact ⟨rfl, rfl⟩) goes.live goes.link goes.taken
      fun busy => .inr (goes.exchanges busy)
  | heard phase unasked =>
    exact drivenFrom_put ⟨rfl, rfl⟩ ⟨rfl, rfl, rfl, rfl, rfl, rfl⟩ (by rw [phase]; simp)
      (by rw [phase]; rfl) (by simp) fun _ => .inr unasked
  | connected alike before unasked =>
    exact drivenFrom_of_driven (.connected (by exact ⟨rfl, rfl⟩)
      (by exact ⟨rfl, rfl, rfl, rfl, rfl, rfl⟩) (SessionPhase.link_of_connects before) rfl)
  | failed cause alike before unasked =>
    exact drivenFrom_connectFailed (by exact ⟨rfl, rfl⟩) (SessionPhase.link_of_connects before)
      unasked cause
  | broke cause alike still link unasked =>
    refine drivenFrom_teardown (by exact ⟨rfl, rfl⟩) (.refl _) ?_ _ (by rw [unasked]; simp)
    intro ended
    rw [ended] at link
    cases link
  | closed asked still live =>
    refine drivenFrom_teardown ⟨rfl, rfl⟩ (.refl _) live _ fun other same => .inr ?_
    rw [asked] at same
    exact Option.some.inj same
  | @pausedReading thenWrite work phase read =>
    have shared := alike_countReceived client connection work.assembler.takeReceived.1
    refine (drivenFrom_put (by exact ⟨rfl, rfl⟩) shared (live (exchanges phase)) ?_ ?_
      fun _ => .inl (exchanges phase)).of_pool
    · rw [phase]
      cases thenWrite <;> rfl
    · cases thenWrite <;> simp
  | @endedReading thenWrite reading work reason phase read why =>
    have shared := alike_countReceived client connection work.assembler.takeReceived.1
    exact (drivenFrom_teardown (by exact ⟨rfl, rfl⟩) shared (live (exchanges phase)) _
      fun _ _ => .inl (exchanges phase)).of_pool
  | @gaveUp thenWrite fragments work header phase read decoded unmatched =>
    have shared := alike_countReceived client connection work.assembler.takeReceived.1
    have kept : connection.Alike (client.used connection work) :=
      ⟨shared.target, shared.link, shared.queue, shared.inFlight, shared.closeReason,
        shared.evicted⟩
    have driven : Driven session connection (session.afterRead work) _ [] none :=
      .stayed (by exact ⟨rfl, rfl⟩) kept rfl (live (exchanges phase))
        (SessionPhase.ne_registered_of_exchanges (exchanges phase)) fun _ => .inl (exchanges phase)
    exact ⟨_, _, _, _, driven, by rw [List.append_nil]⟩
  | @answered thenWrite fragments work header request phase read decoded inFlight =>
    have shared := alike_countReceived client connection work.assembler.takeReceived.1
    generalize notice : (request.complete header.status fragments client.parsers client.now).1 =
      answer
    have ticket : answer.ticket = request.ticket := by
      rw [← notice, Request.ticket_complete]
    have taken : (connection.takeInFlight header.xid client.now).2.Alike
        (client.usedFor connection work header.xid answer.outcome) :=
      Connection.Alike.trans (by exact ⟨shared.target, shared.link, shared.queue, rfl,
        shared.closeReason, shared.evicted⟩) (alike_countRoundTrip client _ answer.outcome)
    have driven : Driven session connection (session.afterRead work) _ [answer] none :=
      .answered header.xid client.now (by exact ⟨rfl, rfl⟩) rfl (exchanges phase) inFlight ticket
        taken
    exact ⟨_, _, _, _, driven, rfl⟩
  | pausedWriting phase unwritten =>
    have counted := alike_countSent client connection session.transmitter.takeSent.1
    exact drivenFrom_put (by exact ⟨rfl, rfl⟩) counted (live (writes phase)) (by rw [phase]; rfl)
      (by simp) fun _ => .inl (writes phase)
  | endedWriting phase refusal reason unwritten =>
    have counted := alike_countSent client connection session.transmitter.takeSent.1
    exact drivenFrom_teardown (by exact ⟨rfl, rfl⟩) counted (live (writes phase)) _
      fun _ _ => .inl (writes phase)
  | tookUp phase free queue fits =>
    have none : session.held = none := by rw [Session.held, Transmitter.held, free]; rfl
    exact drivenFrom_of_driven (.tookUp rfl phase phase none rfl queue (.refl _))
  | @refused request later phase free queue large =>
    have driven : Driven session connection session _ [request.fail request.oversize] none :=
      .refused request.oversize ⟨rfl, rfl⟩ phase phase queue (.refl _)
    exact ⟨_, _, _, _, driven, rfl⟩
  | moved phase busy more accepted pos le =>
    exact drivenFrom_put (by exact ⟨rfl, (held busy).symm⟩) (.refl _) (live (writes phase)) rfl
      (SessionPhase.ne_registered_of_exchanges (writes phase)) fun _ => .inl (writes phase)
  | transmitted phase busy complete =>
    have driven : Driven session connection
        { session with transmitter := { session.transmitter with current := none } }
        (connection.markInFlight _).2 [] _ :=
      .transmitted client.now rfl phase phase (held busy) rfl (.refl _)
    exact (drivenFrom_of_driven driven).loseAll _

end

end Client

end RemoteCall
