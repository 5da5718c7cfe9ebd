import RemoteCall.Proofs.Client.Balance
import RemoteCall.Proofs.Client.Moving

/-!
# What a reply does

A record that a driver reads answers the request in flight on its connection that has the id of the
record. No other request is touched. If there is none, the record is given up: its buffers go back,
and of the connection only the time of last use and the byte count change. No other step of the
client gives a request an outcome that needs a reply.
-/
namespace RemoteCall

theorem Request.complete_fst (request : Request) (status : AcceptStatus) (fragments : List Buffer)
    (parsers : List ExceptionDecoder) (now : Instant) :
    (request.complete status fragments parsers now).1 =
      request.notice (request.outcome status fragments parsers now) := by
  unfold complete
  split
  · rename_i response outcome
    rw [outcome]
  · rename_i failure outcome
    rw [outcome]
    rfl

/-- Every reply gives an outcome that needs one. -/
theorem Request.isReply_outcome (request : Request) (status : AcceptStatus)
    (fragments : List Buffer) (parsers : List ExceptionDecoder) (now : Instant) :
    (request.outcome status fragments parsers now).isReply = true := by
  cases status with
  | application raw =>
    show (ExceptionDecoder.resolve parsers raw (exceptionBody fragments)).isReply = true
    unfold ExceptionDecoder.resolve
    split
    · rfl
    · unfold ExceptionDecoder.outcome
      split <;> rfl
  | _ => rfl

namespace Client

/-- In its next step the driver of a session reads a record that begins with a reply header, as does
every record whose first fragment has the eight bytes of one. -/
structure Reads (client : Client) (n : Nat) (session : Session) (connection : Connection)
    (header : ReplyHeader) (fragments : List Buffer) (work : Fragment.Assembler.Work) : Prop where
  free : client.mayDrive n = true
  found : client.sessions[n]? = some session
  bound : client.connections[session.connection]? = some connection
  phase : ∃ thenWrite, session.phase = .reading thenWrite
  record : session.assembler.read client.pool session.channel.inbound = (.record fragments, work)
  decoded : ReplyHeader.decode ((fragments.head?.map Buffer.bytes).getD []) = .ok header

section

variable {client next : Client} {n : Nat} {session : Session} {connection : Connection}
  {header : ReplyHeader} {fragments : List Buffer} {work : Fragment.Assembler.Work}

/-- The step of a driver that reads. -/
theorem step?_of_reading (found : client.sessions[n]? = some session)
    (bound : client.connections[session.connection]? = some connection) {thenWrite : Bool}
    (phase : session.phase = .reading thenWrite) :
    client.step? n = some (client.readStep n session connection thenWrite) := by
  simp [step?, found, bound, phase]

namespace Reads

theorem step?_eq (h : client.Reads n session connection header fragments work) :
    client.step? n = some (deliverRecord { client with pool := work.pool } n
      (session.afterRead work)
      (client.countReceived connection work.assembler.takeReceived.1) fragments) := by
  obtain ⟨thenWrite, phase⟩ := h.phase
  rw [step?_of_reading h.found h.bound phase]
  unfold readStep
  rw [h.record]
  rfl

theorem perform_eq (h : client.Reads n session connection header fragments work) :
    client.perform (.drive n) = deliverRecord { client with pool := work.pool } n
      (session.afterRead work)
      (client.countReceived connection work.assembler.takeReceived.1) fragments :=
  client.perform_drive_of_step? h.free h.step?_eq

/-- A record for no request in flight is given up. -/
theorem perform_of_none (h : client.Reads n session connection header fragments work)
    (unmatched : connection.inFlight? header.xid = none) :
    client.perform (.drive n) = { client with
      sessions := client.sessions.set n (session.afterRead work)
      connections := client.connections.set session.connection (client.used connection work)
      pool := work.pool.releaseAll fragments } := by
  rw [h.perform_eq, deliverRecord_of_none h.decoded unmatched]

/-- A record with the id of a request in flight answers it. -/
theorem exists_perform_of_some (h : client.Reads n session connection header fragments work)
    {request : Request} (inFlight : connection.inFlight? header.xid = some request) :
    ∃ connection' pool, connection'.queue = connection.queue ∧
      connection'.inFlight = connection.inFlight.eraseP (·.info.xid == header.xid) ∧
      connection'.lastUsed = client.now ∧ client.perform (.drive n) = { client with
        sessions := client.sessions.set n (session.afterRead work)
        connections := client.connections.set session.connection connection'
        pool := pool
        posted := client.posted ++
          [request.notice (request.outcome header.status fragments client.parsers client.now)] } := by
  have shared := alike_countReceived client connection work.assembler.takeReceived.1
  have performed := h.perform_eq
  rw [deliverRecord_of_some h.decoded inFlight, Request.complete_fst] at performed
  have counted := alike_countRoundTrip client
    { client.used connection work with
      inFlight := connection.inFlight.eraseP (·.info.xid == header.xid) }
    (request.notice (request.outcome header.status fragments client.parsers client.now)).outcome
  refine ⟨_, _, counted.queue.trans shared.queue, counted.inFlight, ?_, performed⟩
  unfold countRoundTrip
  split <;> rfl

end Reads

/-! ## The places of other requests -/

theorem ticketsAt_queue (client : Client) (index : Nat) : client.ticketsAt (.queue index) =
    ((client.connections.map Connection.queue)[index]?.getD []).map Request.ticket := by
  cases hc : client.connections[index]? <;> simp [ticketsAt, hc]

theorem ticketsAt_inFlight (client : Client) (index : Nat) : client.ticketsAt (.inFlight index) =
    ((client.connections.map Connection.inFlight)[index]?.getD []).map Request.ticket := by
  cases hc : client.connections[index]? <;> simp [ticketsAt, hc]

theorem ticketsAt_cursor (client : Client) (n : Nat) : client.ticketsAt (.cursor n) =
    ((client.sessions.map Session.held)[n]?.getD none).toList.map Request.ticket := by
  cases hs : client.sessions[n]? <;> simp [ticketsAt, hs]

/-- A request in flight is found under its id. -/
theorem inFlight?_of_mem (h : client.XidsDistinct) {index : Nat}
    (bound : client.connections[index]? = some connection) {request : Request}
    (mem : request ∈ connection.inFlight) :
    connection.inFlight? request.info.xid = some request := by
  have part : connection.inFlight.Sublist client.outstanding := by
    have own : connection.outstanding.Sublist
        (client.connections.flatMap Connection.outstanding) :=
      List.sublist_flatten_of_mem (List.mem_map_of_mem (List.mem_of_getElem? bound))
    exact (List.sublist_append_right _ _).trans (own.trans (List.sublist_append_left _ _))
  have nodup : (connection.inFlight.map (·.info.xid)).Nodup := List.Nodup.sublist (part.map _) h
  cases found : connection.inFlight? request.info.xid with
  | none => exact absurd (beq_self_eq_true _) (List.find?_eq_none.1 found request mem)
  | some other =>
    have same : other.info.xid = request.info.xid := by simpa using List.find?_some found
    rw [List.inj_on_of_nodup_map nodup (List.mem_of_find?_eq_some found) mem same]

/-- A record is given up. It resolves nothing, the session goes on reading, all buffers go back, and
the connection was used and has more bytes counted. -/
structure GivesUp (client next : Client) (n : Nat) (session : Session) (connection : Connection)
    (fragments : List Buffer) (work : Fragment.Assembler.Work) : Prop where
  changed : next = { client with
    sessions := client.sessions.set n (session.afterRead work)
    connections := client.connections.set session.connection (client.used connection work)
    pool := work.pool.releaseAll fragments }
  notices : next.notices = client.notices
  places : ∀ place, next.ticketsAt place = client.ticketsAt place

theorem Reads.givesUp (h : client.Reads n session connection header fragments work)
    (unmatched : connection.inFlight? header.xid = none) :
    client.GivesUp (client.perform (.drive n)) n session connection fragments work := by
  have changed := h.perform_of_none unmatched
  have shared := alike_countReceived client connection work.assembler.takeReceived.1
  have notices : (client.perform (.drive n)).notices = client.notices := by
    rw [changed]
    rfl
  refine ⟨changed, notices, fun place => ?_⟩
  cases place with
  | queue index =>
    have same : (client.used connection work).queue = connection.queue := shared.queue
    rw [ticketsAt_queue, ticketsAt_queue, changed]
    rw [map_set_of_eq Connection.queue h.bound same]
  | cursor m =>
    rw [ticketsAt_cursor, ticketsAt_cursor, changed]
    rw [map_set_of_eq Session.held h.found (by rfl)]
  | inFlight index =>
    have same : (client.used connection work).inFlight = connection.inFlight := shared.inFlight
    rw [ticketsAt_inFlight, ticketsAt_inFlight, changed]
    rw [map_set_of_eq Connection.inFlight h.bound same]
  | resolved => rw [ticketsAt, ticketsAt, notices]

/-- A request that was in flight on a connection ends with an outcome, once and for all. The places
and the outcomes of all others are as they were. -/
structure Answers (client next : Client) (index : Nat) (request : Request) (outcome : Outcome) :
    Prop where
  kind : outcome.isReply = true
  posted : next.posted = client.posted ++ [request.notice outcome]
  rejected : next.rejected = client.rejected
  told : next.told = client.told
  before : request.ticket ∈ client.ticketsAt (.inFlight index)
  resolved : next.Resolved (request.notice outcome)
  others : ∀ place, ∀ ticket ≠ request.ticket,
    (ticket ∈ next.ticketsAt place ↔ ticket ∈ client.ticketsAt place)

theorem Reads.answers (h : client.Reads n session connection header fragments work)
    (reachable : client.Reachable) {request : Request}
    (inFlight : connection.inFlight? header.xid = some request) :
    client.Answers (client.perform (.drive n)) session.connection request
      (request.outcome header.status fragments client.parsers client.now) := by
  obtain ⟨connection', pool, queue', inFlight', -, changed⟩ := h.exists_perform_of_some inFlight
  have later : (client.perform (.drive n)).Reachable :=
    reachable.perform (.drive n)
  have removed : (connection.inFlight.map Request.ticket).Perm
      (request.ticket :: connection'.inFlight.map Request.ticket) := by
    rw [inFlight']
    exact (perm_cons_eraseP inFlight).map Request.ticket
  have mem : request.ticket ∈ client.ticketsAt (.inFlight session.connection) :=
    ticket_mem (mem_inFlight.2 ⟨connection, h.bound, List.mem_of_find?_eq_some inFlight⟩)
  generalize client.perform (.drive n) = next at changed later
  have noted : request.notice (request.outcome header.status fragments client.parsers client.now) ∈
      next.notices := by
    rw [changed]
    exact List.mem_append_left _ (List.mem_append_left _ List.mem_concat_self)
  refine ⟨request.isReply_outcome _ _ _ _, by rw [changed], by rw [changed], by rw [changed], mem,
    resolved_of_mem_notices later noted, fun place ticket different => ?_⟩
  cases place with
  | queue index =>
    rw [ticketsAt_queue, ticketsAt_queue, changed]
    rw [map_set_of_eq Connection.queue h.bound queue']
  | cursor m =>
    rw [ticketsAt_cursor, ticketsAt_cursor, changed]
    rw [map_set_of_eq Session.held h.found (by rfl)]
  | inFlight index =>
    -- Of the tables in flight only that of this connection has changed, by this request.
    by_cases here : index = session.connection
    · obtain ⟨lt, -⟩ := List.getElem?_eq_some_iff.1 h.bound
      have before : client.ticketsAt (.inFlight index) =
          connection.inFlight.map Request.ticket := by
        rw [here, ticketsAt, h.bound]
        rfl
      have after : next.ticketsAt (.inFlight index) =
          connection'.inFlight.map Request.ticket := by
        rw [here, ticketsAt, changed]
        simp only [List.getElem?_set_self lt]
        rfl
      rw [before, after, removed.mem_iff, List.mem_cons, or_iff_right different]
    · have same : next.connections[index]? = client.connections[index]? := by
        rw [changed]
        exact List.getElem?_set_ne (Ne.symm here)
      rw [ticketsAt, ticketsAt, same]
  | resolved =>
    rw [changed]
    simp [ticketsAt, notices, Request.notice, different]

/-! ## Nothing else answers -/

theorem adds_teardown (client : Client) (n : Nat) (session : Session) (connection : Connection)
    (reason : CloseReason) :
    Notice.Adds client.posted (client.teardown n session connection reason).posted :=
  .failures _ _ (reason.isReply_failure connection.endpoint)

theorem lastUsed_countReceived (client : Client) (connection : Connection) (count : Nat) :
    (client.countReceived connection count).lastUsed = connection.lastUsed := by
  unfold countReceived
  split <;> rfl

/-- A step of a driver reads a record with a reply header, or it answers nothing and is no use of
the connection. -/
theorem Stepped.reads_or_rests (h : client.Stepped n session connection next)
    (free : client.mayDrive n = true) (found : client.sessions[n]? = some session)
    (bound : client.connections[session.connection]? = some connection) :
    (∃ header fragments work, client.Reads n session connection header fragments work) ∨
      Notice.Adds client.posted next.posted ∧
        ∃ after, next.connections = client.connections.set session.connection after ∧
          after.lastUsed = connection.lastUsed := by
  have counted (work : Fragment.Assembler.Work) :=
    client.lastUsed_countReceived connection work.assembler.takeReceived.1
  cases h with
  | went wanted alike goes =>
    obtain ⟨lt, rfl⟩ := List.getElem?_eq_some_iff.1 bound
    exact .inr ⟨.of_eq rfl, _, (List.set_getElem_self lt).symm, rfl⟩
  | gaveUp phase read decoded unmatched =>
    exact .inl ⟨_, _, _, free, found, bound, ⟨_, phase⟩, read, decoded⟩
  | answered phase read decoded inFlight =>
    exact .inl ⟨_, _, _, free, found, bound, ⟨_, phase⟩, read, decoded⟩
  | heard phase unasked => exact .inr ⟨.of_eq rfl, _, rfl, rfl⟩
  | connected alike before unasked => exact .inr ⟨.of_eq rfl, _, rfl, rfl⟩
  | failed cause alike before unasked => exact .inr ⟨.failures _ _ rfl, _, rfl, rfl⟩
  | broke cause alike still link unasked => exact .inr ⟨adds_teardown _ n _ _ _, _, rfl, rfl⟩
  | closed asked still live => exact .inr ⟨adds_teardown _ n _ _ _, _, rfl, rfl⟩
  | pausedReading phase read => exact .inr ⟨.of_eq rfl, _, rfl, counted _⟩
  | endedReading phase read why => exact .inr ⟨adds_teardown _ n _ _ _, _, rfl, counted _⟩
  | pausedWriting phase unwritten =>
    exact .inr ⟨.of_eq rfl, _, rfl, lastUsed_countSent client connection _⟩
  | endedWriting phase refusal reason unwritten =>
    exact .inr ⟨adds_teardown _ n _ _ _, _, rfl, lastUsed_countSent client connection _⟩
  | tookUp phase free queue fits => exact .inr ⟨.of_eq rfl, _, rfl, rfl⟩
  | @refused request _ phase free queue large =>
    exact .inr ⟨.failures client.posted [request] rfl, _, rfl, rfl⟩
  | moved phase busy more accepted pos le => exact .inr ⟨.of_eq rfl, _, rfl, rfl⟩
  | transmitted phase busy complete =>
    rw [foldl_lose_eq]
    exact .inr ⟨.of_eq rfl, _, rfl, rfl⟩

/-- A step of a driver answers only with a record whose id is in flight. -/
theorem adds_or_reads_of_step? (free : client.mayDrive n = true)
    (h : client.step? n = some next) : Notice.Adds client.posted next.posted ∨
      ∃ session connection header fragments work request,
        client.Reads n session connection header fragments work ∧
          connection.inFlight? header.xid = some request := by
  obtain ⟨session, connection, found, bound, stepped⟩ := exists_stepped_of_step? h
  rcases stepped.reads_or_rests free found bound with ⟨header, fragments, work, reads⟩ | ⟨adds, -⟩
  · cases inFlight : connection.inFlight? header.xid with
    | none =>
      rw [reads.step?_eq, ← reads.perform_eq, Option.some.injEq] at h
      rw [← h, reads.perform_of_none inFlight]
      exact .inl (.of_eq rfl)
    | some request =>
      exact .inr ⟨session, connection, header, fragments, work, request, reads, inFlight⟩
  · exact .inl adds

/-- No driver worked: sessions are as they were but for their channels, or hold nothing, and no
request ended with a reply. -/
structure Idles (client next : Client) : Prop where
  sessions : ∀ (n : Nat) after, next.sessions[n]? = some after →
    after.Bare ∨ ∃ session, client.sessions[n]? = some session ∧
      ∃ channel, after = { session with channel := channel }
  unanswered : ∀ notice ∈ next.notices, notice ∉ client.notices → notice.Unanswered

theorem Leaves.idles (h : client.Leaves next) : client.Idles next :=
  ⟨fun n after hs => (h.sessions n after hs).imp_right fun same => ⟨after, same, after.channel, rfl⟩,
    fun _ mem new => h.unanswered mem new⟩

theorem Idles.of_same (sessions : next.sessions = client.sessions)
    (notices : next.notices ⊆ client.notices) : client.Idles next :=
  ⟨fun n after hs => .inr ⟨after, by rw [← sessions]; exact hs, after.channel, rfl⟩,
    fun _ mem new => absurd (notices mem) new⟩

theorem idles_deliver {notice : Notice} {posted rejected : List Notice}
    (posted' : posted ⊆ client.posted) (rejected' : rejected ⊆ client.rejected)
    (mem : notice ∈ client.notices) :
    client.Idles (deliver { client with posted := posted, rejected := rejected } notice) := by
  rw [deliver_eq]
  refine .of_same rfl fun other mem' => ?_
  rw [notices, List.mem_append, List.mem_append] at mem'
  rcases mem' with (old | old) | told
  · exact List.mem_append_left _ (List.mem_append_left _ (posted' old))
  · exact List.mem_append_left _ (List.mem_append_right _ (rejected' old))
  · rcases List.mem_cons.1 told with rfl | old
    · exact mem
    · exact List.mem_append_right _ old

theorem Minor.idles (orderly : client.Orderly) (vacant : client.Vacant) {action : Action}
    (h : client.Minor action next) : client.Idles next := by
  cases h with
  | toldPosted found =>
    have mem := List.mem_append_left client.rejected (List.mem_of_getElem? found)
    exact idles_deliver List.eraseIdx_subset (List.Subset.refl _) (List.mem_append_left _ mem)
  | toldRejected found =>
    have mem := List.mem_append_right client.posted (List.mem_of_getElem? found)
    exact idles_deliver (List.Subset.refl _) List.eraseIdx_subset (List.mem_append_left _ mem)
  | notified found => exact .of_same rfl (List.Subset.refl _)
  | changed found =>
    refine ⟨fun m after hs => .inr ?_, (Leaves.refl client).idles.unanswered⟩
    rcases getElem?_set_cases hs with ⟨rfl, rfl⟩ | ⟨-, same⟩
    · exact ⟨_, found, _, rfl⟩
    · exact ⟨after, same, after.channel, rfl⟩
  | started up loop deadline => exact .of_same rfl (List.Subset.refl _)
  | abandoned up loop fails => exact (Leaves.abandonLoop orderly vacant).idles
  | ended loop =>
    have leaves := Leaves.shutdown client
    simp only [shutdown, if_pos loop] at leaves
    exact leaves.idles
  | flagged loop => exact .of_same rfl (List.Subset.refl _)
  | aside other later same =>
    rw [same]
    exact .of_same rfl (List.Subset.refl _)

/-- Whatever is not a step of a driver idles. -/
theorem idles_perform (orderly : client.Orderly) (vacant : client.Vacant) {action : Action}
    (idle : ∀ n, action ≠ .drive n) : client.Idles (client.perform action) := by
  cases action with
  | send call => exact (Leaves.send client call).idles
  | turn =>
    show client.Idles (if client.mayTurn then client.turn else client)
    split
    · exact (Leaves.turn orderly vacant).idles
    · exact (Leaves.refl client).idles
  | drive n => exact absurd rfl (idle n)
  | _ => exact (client.minor_perform (by simp) (by simp) (by simp)).idles orderly vacant

/-- An outcome that needs a reply comes from a record that was read while the request was in
flight. -/
theorem exists_reads_of_isReply (orderly : client.Orderly) (vacant : client.Vacant)
    {action : Action} {notice : Notice} (mem : notice ∈ (client.perform action).notices)
    (new : notice ∉ client.notices) (kind : notice.outcome.isReply = true) :
    ∃ n session connection header fragments work request,
      action = .drive n ∧ client.Reads n session connection header fragments work ∧
        connection.inFlight? header.xid = some request ∧
          notice = request.notice
            (request.outcome header.status fragments client.parsers client.now) := by
  by_cases idle : ∀ n, action ≠ .drive n
  · have unanswered := (idles_perform orderly vacant idle).unanswered notice mem new
    rw [Notice.Unanswered, kind] at unanswered
    cases unanswered
  obtain ⟨n, rfl⟩ := not_forall_not.1 idle
  rcases client.perform_drive_eq n with same | ⟨free, step⟩
  · rw [same] at mem
    exact absurd mem new
  rw [notices, List.append_assoc, List.mem_append, not_or] at new
  rcases adds_or_reads_of_step? free step with
    adds | ⟨session, connection, header, fragments, work, request, reads, inFlight⟩
  · obtain ⟨_, _, _, bound, stepped⟩ := exists_stepped_of_step? step
    obtain ⟨_, _, _, _, _, changed⟩ := stepped.drivenFrom bound
    generalize client.perform (.drive n) = next at mem adds changed
    have told : next.rejected ++ next.told = client.rejected ++ client.told := by rw [changed]
    rw [notices, List.append_assoc, told] at mem
    have posted := (List.mem_append.1 mem).resolve_right new.2
    have unanswered := adds.unanswered posted new.1
    rw [Notice.Unanswered, kind] at unanswered
    cases unanswered
  · refine ⟨n, session, connection, header, fragments, work, request, rfl, reads, inFlight, ?_⟩
    obtain ⟨connection', pool, -, -, -, changed⟩ := reads.exists_perform_of_some inFlight
    rw [changed, notices, List.append_assoc] at mem
    have posted := (List.mem_append.1 mem).resolve_right new.2
    exact List.mem_singleton.1 ((List.mem_append.1 posted).resolve_left new.1)

end

end Client

end RemoteCall
