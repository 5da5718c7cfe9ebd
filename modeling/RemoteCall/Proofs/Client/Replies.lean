import RemoteCall.Proofs.Client.Answering
import RemoteCall.Proofs.Client.Handling

/-!
# Replies and requests

Once the channel has accepted the last byte of a request, the next step of the driver puts it in
flight, before anything else is read on its connection. So a reply always finds its request, unless
the request has ended, and no reply is taken for that of another.
-/
namespace RemoteCall

/-- A record is complete only until the next step of writing. -/
def Session.Steady (session : Session) : Prop :=
  ∀ cursor, session.transmitter.current = some cursor → cursor.isComplete = true →
    session.phase = .writing

theorem Session.steady_of_held {session : Session} (free : session.held = none) :
    session.Steady := by
  intro cursor busy
  rw [Session.held, Transmitter.held, busy] at free
  cases free

namespace Client

/-! ## What is on the way -/

section

variable {client next : Client} {n : Nat} {session session' : Session} {connection : Connection}

/-- Writing stops only where nothing is on the way or not all of it is written. A step that finds a
record complete lets go of its request. -/
theorem Stepped.put_steady (h : client.Stepped n session connection next)
    (steady : session.Steady) : ∃ session', next.sessions = client.sessions.set n session' ∧
      session'.Steady ∧ ∀ cursor, session.transmitter.current = some cursor →
        cursor.isComplete = true → session'.held = none := by
  have kept {session' : Session} (unwritten : ∀ cursor,
      session.transmitter.current = some cursor → cursor.isComplete = false)
      (same : session'.transmitter.current = session.transmitter.current) :
      session'.Steady ∧ ∀ cursor, session.transmitter.current = some cursor →
        cursor.isComplete = true → session'.held = none := by
    refine ⟨fun cursor busy complete => ?_, fun cursor busy complete => ?_⟩
    · rw [same] at busy
      rw [unwritten cursor busy] at complete
      cases complete
    · rw [unwritten cursor busy] at complete
      cases complete
  have freed {session' : Session} (free : session'.held = none) :
      session'.Steady ∧ ∀ cursor, session.transmitter.current = some cursor →
        cursor.isComplete = true → session'.held = none :=
    ⟨Session.steady_of_held free, fun _ _ _ => free⟩
  -- A session that is not writing has no whole record on the way.
  have apart (other : session.phase ≠ .writing) (cursor : Cursor)
      (busy : session.transmitter.current = some cursor) : cursor.isComplete = false := by
    cases complete : cursor.isComplete with
    | false => rfl
    | true => exact absurd (steady cursor busy complete) other
  have still (free : session.phase.exchanges = false) : session.phase ≠ .writing := by
    intro phase
    rw [phase] at free
    cases free
  have connecting (before : session.phase.connects = true) : session.phase ≠ .writing :=
    still (SessionPhase.exchanges_of_connects before)
  cases h with
  | went wanted alike goes => exact ⟨_, rfl, kept (apart (still goes.still)) rfl⟩
  | heard phase unasked => exact ⟨_, rfl, kept (apart (by rw [phase]; simp)) rfl⟩
  | connected alike before unasked => exact ⟨_, rfl, kept (apart (connecting before)) rfl⟩
  | failed cause alike before unasked => exact ⟨_, rfl, kept (apart (connecting before)) rfl⟩
  | broke cause alike free link unasked => exact ⟨_, rfl, freed rfl⟩
  | closed asked free live => exact ⟨_, rfl, freed rfl⟩
  | pausedReading phase read => exact ⟨_, rfl, kept (apart (by rw [phase]; simp)) rfl⟩
  | endedReading phase read why => exact ⟨_, rfl, freed rfl⟩
  | gaveUp phase read decoded unmatched =>
    exact ⟨_, rfl, kept (apart (by rw [phase]; simp)) rfl⟩
  | answered phase read decoded inFlight =>
    exact ⟨_, rfl, kept (apart (by rw [phase]; simp)) rfl⟩
  | pausedWriting phase unwritten => exact ⟨_, rfl, kept unwritten rfl⟩
  | endedWriting phase refusal reason unwritten => exact ⟨_, rfl, freed rfl⟩
  | tookUp phase free queue fits =>
    refine ⟨_, rfl, fun _ _ _ => phase, fun cursor busy => ?_⟩
    rw [free] at busy
    cases busy
  | refused phase free queue large =>
    refine ⟨_, rfl, fun _ _ _ => phase, fun cursor busy => ?_⟩
    rw [free] at busy
    cases busy
  | moved phase busy more accepted pos le =>
    refine ⟨_, rfl, fun _ _ _ => phase, fun other busy' complete => ?_⟩
    rw [busy, Option.some.injEq] at busy'
    rw [← busy', more] at complete
    cases complete
  | transmitted phase busy complete =>
    rw [foldl_lose_eq]
    exact ⟨_, rfl, freed rfl⟩

/-- No record is complete but where the next step is one of writing. -/
def Steady (client : Client) : Prop :=
  ∀ (n : Nat) session, client.sessions[n]? = some session → session.Steady

theorem steady_of_step? (steady : client.Steady) (h : client.step? n = some next) : next.Steady := by
  obtain ⟨session, connection, found, -, stepped⟩ := exists_stepped_of_step? h
  obtain ⟨session', sessions, own, -⟩ := stepped.put_steady (steady n session found)
  intro m after hs
  rw [sessions] at hs
  rcases getElem?_set_cases hs with ⟨-, rfl⟩ | ⟨-, old⟩
  · exact own
  · exact steady m after old

theorem Steady.perform (steady : client.Steady) (orderly : client.Orderly)
    (vacant : client.Vacant) (action : Action) : (client.perform action).Steady := by
  by_cases idle : ∀ n, action ≠ .drive n
  · intro n after hs
    rcases (idles_perform orderly vacant idle).sessions n after hs with
      bare | ⟨session, found, channel, rfl⟩
    · exact Session.steady_of_held bare.request
    · exact steady n session found
  obtain ⟨n, rfl⟩ := not_forall_not.1 idle
  rcases client.perform_drive_eq n with same | ⟨-, step⟩
  · rw [same]
    exact steady
  · exact steady_of_step? steady step

theorem ReachableWhile.steady {P : Client → Prop} (h : client.ReachableWhile P) :
    client.Steady := by
  suffices all : client.Orderly ∧ client.Vacant ∧ client.Steady from all.2.2
  refine h.induct (fun first built => ?_) fun client action _ ⟨orderly, vacant, steady⟩ => ?_
  · refine ⟨.built built, (vacant_of_built built).1, ?_⟩
    obtain ⟨settings, parsers, pool, firstXid, rfl⟩ := built.exists_eq
    exact fun n session hs => (by cases hs)
  · exact ⟨orderly.perform action, (trades_perform orderly vacant action).vacant,
      steady.perform orderly vacant action⟩

/-! ## Accepted requests -/

/-- The channel has accepted the last byte of a request, on the connection `index`. -/
def WrittenOn (client : Client) (index : Nat) (request : Request) : Prop :=
  ∃ (n : Nat) (session : Session) (cursor : Cursor), client.sessions[n]? = some session ∧
    session.connection = index ∧ session.transmitter.current = some cursor ∧
      cursor.isComplete = true ∧ cursor.request = request

/-- A channel has accepted all of the record of a call, on the connection `index`: the next step of
its driver puts the request in flight, or it is in flight, or it has ended. -/
inductive Accepted (client : Client) (index ticket : Nat) (info : CallInfo) : Prop
  | written {n : Nat} {session : Session} {cursor : Cursor}
      (found : client.sessions[n]? = some session) (own : session.connection = index)
      (phase : session.phase = .writing) (busy : session.transmitter.current = some cursor)
      (complete : cursor.isComplete = true) (ticket : cursor.request.ticket = ticket)
      (info : cursor.request.info = info)
  | inFlight {request : Request} (mem : request ∈ client.requestsAt (.inFlight index))
      (ticket : request.ticket = ticket) (info : request.info = info)
  | resolved (mem : ticket ∈ client.ticketsAt .resolved)

/-- As long as a request that is written completely stays with its session, the session stays. -/
theorem stays_written (orderly : client.Orderly) (vacant : client.Vacant) {cursor : Cursor}
    (found : client.sessions[n]? = some session) (phase : session.phase = .writing)
    (busy : session.transmitter.current = some cursor) (complete : cursor.isComplete = true)
    (action : Action) (found' : (client.perform action).sessions[n]? = some session')
    (held : session'.held ≠ none) :
    ∃ channel, session' = { session with channel := channel } := by
  have same (found' : client.sessions[n]? = some session') :
      ∃ channel, session' = { session with channel := channel } := by
    rw [found, Option.some.injEq] at found'
    exact ⟨session.channel, found'.symm⟩
  by_cases idle : ∀ m, action ≠ .drive m
  · rcases (idles_perform orderly vacant idle).sessions n session' found' with
      bare | ⟨other, hs, channel, rfl⟩
    · exact absurd bare.request held
    · rw [found, Option.some.injEq] at hs
      exact ⟨channel, by rw [hs]⟩
  obtain ⟨m, rfl⟩ := not_forall_not.1 idle
  rcases client.perform_drive_eq m with idle | ⟨-, step⟩
  · rw [idle] at found'
    exact same found'
  obtain ⟨other, connection, hs, bound, stepped⟩ := exists_stepped_of_step? step
  by_cases here : m = n
  · -- The session itself is driven, so it lets go of its request.
    subst here
    rw [found, Option.some.injEq] at hs
    subst hs
    obtain ⟨after, sessions, -, free⟩ := stepped.put_steady fun _ _ _ => phase
    rw [sessions] at found'
    rcases getElem?_set_cases found' with ⟨-, rfl⟩ | ⟨different, -⟩
    · exact absurd (free cursor busy complete) held
    · exact absurd rfl different
  · obtain ⟨_, _, -, sessions, -⟩ := stepped.handledFrom bound
    rw [sessions, List.getElem?_set_ne here] at found'
    exact same found'

section

variable {index ticket : Nat} {info : CallInfo}

/-- What a channel has accepted goes in flight, and stays so until it ends. -/
theorem Accepted.perform (accepted : client.Accepted index ticket info)
    (h : client.ReachableWhile XidsDistinct) (distinct : client.XidsDistinct) (action : Action) :
    (client.perform action).Accepted index ticket info := by
  cases accepted with
  | written found own phase busy complete sameTicket sameInfo =>
    rename_i n session cursor
    have mem : cursor.request ∈ client.requestsAt (.cursor n) := by
      refine mem_cursor.2 ⟨session, found, ?_⟩
      rw [Session.held, Transmitter.held, busy]
      rfl
    rcases h.exists_leads distinct action mem with
      resolved | ⟨other, leads, after, there, ticket', info'⟩
    · rw [sameTicket] at resolved
      exact .resolved resolved
    -- It stays only if its driver did nothing, for the next step of writing lets go of it.
    cases leads with
    | stays =>
      obtain ⟨session', found', held⟩ := mem_cursor.1 there
      obtain ⟨channel, rfl⟩ := stays_written h.orderly h.vacant found phase busy complete action
        found' (by rw [held]; exact Option.some_ne_none _)
      exact .written found' own phase busy complete sameTicket sameInfo
    | written found' =>
      rw [found, Option.some.injEq] at found'
      subst found'
      rw [own] at there
      exact .inFlight there (ticket'.trans sameTicket) (info'.trans sameInfo)
  | inFlight mem sameTicket sameInfo =>
    rcases h.exists_leads distinct action mem with
      resolved | ⟨other, leads, after, there, ticket', info'⟩
    · rw [sameTicket] at resolved
      exact .resolved resolved
    cases leads with
    | stays => exact .inFlight there (ticket'.trans sameTicket) (info'.trans sameInfo)
  | resolved mem => exact .resolved ((keeps_perform h.orderly action).resolved mem)

theorem Accepted.run {later : Client} (accepted : client.Accepted index ticket info)
    (h : client.ReachableWhile XidsDistinct) (run : RunWhile XidsDistinct client later) :
    later.ReachableWhile XidsDistinct ∧ later.Accepted index ticket info := by
  induction run with
  | refl => exact ⟨h, accepted⟩
  | tail _ distinct action ih =>
    obtain ⟨⟨first, built, earlier⟩, before⟩ := ih
    exact ⟨⟨first, built, earlier.tail distinct action⟩,
      before.perform ⟨first, built, earlier⟩ distinct action⟩

/-- While a record is read on a connection, what was accepted on it is in flight, unless it has
ended. -/
theorem Accepted.exists_inFlight (accepted : client.Accepted index ticket info)
    (sound : client.Sound) (unresolved : ticket ∉ client.ticketsAt .resolved)
    {header : ReplyHeader} {fragments : List Buffer} {work : Fragment.Assembler.Work}
    (reads : client.Reads n session connection header fragments work)
    (own : session.connection = index) :
    ∃ request ∈ connection.inFlight, request.ticket = ticket ∧ request.info = info := by
  obtain ⟨thenWrite, reading⟩ := reads.phase
  cases accepted with
  | written found own' writing busy complete sameTicket sameInfo =>
    -- The driver of the connection would be reading and writing at once.
    rename_i m other cursor
    have same : n = m := sound.unique n m session other reads.found found (by rw [reading]; simp)
      (by rw [writing]; simp) (own.trans own'.symm)
    rw [← same, reads.found, Option.some.injEq] at found
    rw [found, writing] at reading
    cases reading
  | inFlight mem sameTicket sameInfo =>
    rename_i request
    obtain ⟨bound, hbound, there⟩ := mem_inFlight.1 mem
    rw [← own, reads.bound, Option.some.injEq] at hbound
    subst hbound
    exact ⟨request, there, sameTicket, sameInfo⟩
  | resolved mem => exact absurd mem unresolved

end

/-- Records that are read are matched by their ids with the requests in flight on the connection.
The one that has the id of the record is answered, with the status and the body of the record, and
for good; no other request is touched. A record without a match is given up. Nothing else gives a
request an outcome that needs a reply. Once the channel has accepted the last byte of a request, a
record with its id that is read on its connection answers it, unless it has ended before. -/
theorem replies_matched_by_xid (h : client.ReachableWhile XidsDistinct)
    (distinct : client.XidsDistinct) :
    (∀ n session connection header fragments work,
      client.Reads n session connection header fragments work →
        (∀ request ∈ connection.inFlight, request.info.xid = header.xid →
          client.Answers (client.perform (.drive n)) session.connection request
            (request.outcome header.status fragments client.parsers client.now)) ∧
        ((∀ request ∈ connection.inFlight, request.info.xid ≠ header.xid) →
          client.GivesUp (client.perform (.drive n)) n session connection fragments work)) ∧
    (∀ action, ∀ notice ∈ (client.perform action).notices, notice ∉ client.notices →
      notice.outcome.isReply = true →
        ∃ n session connection header fragments work, ∃ request ∈ connection.inFlight,
          action = .drive n ∧ client.Reads n session connection header fragments work ∧
            request.info.xid = header.xid ∧ notice = request.notice
              (request.outcome header.status fragments client.parsers client.now)) ∧
    ∀ index request, client.WrittenOn index request → ∀ later, RunWhile XidsDistinct client later →
      later.XidsDistinct → request.ticket ∉ later.ticketsAt .resolved →
        ∀ n session connection header fragments work,
          later.Reads n session connection header fragments work → session.connection = index →
            header.xid = request.info.xid →
              ∃ sent ∈ connection.inFlight, sent.ticket = request.ticket ∧
                later.Answers (later.perform (.drive n)) index sent
                  (sent.outcome header.status fragments later.parsers later.now) := by
  have answers {client : Client} (h : client.Reachable) (distinct : client.XidsDistinct) {n : Nat}
      {session : Session} {connection : Connection} {header : ReplyHeader}
      {fragments : List Buffer} {work : Fragment.Assembler.Work}
      (reads : client.Reads n session connection header fragments work) {request : Request}
      (mem : request ∈ connection.inFlight) (same : request.info.xid = header.xid) :
      client.Answers (client.perform (.drive n)) session.connection request
        (request.outcome header.status fragments client.parsers client.now) := by
    have inFlight := inFlight?_of_mem distinct reads.bound mem
    rw [same] at inFlight
    exact reads.answers h inFlight
  refine ⟨fun n session connection header fragments work reads => ⟨fun request mem same =>
    answers h.reachable distinct reads mem same, fun unmatched => reads.givesUp ?_⟩,
    fun action notice mem new kind => ?_,
    fun index request written later run distinct' unresolved n session connection header fragments
      work reads own same => ?_⟩
  · exact List.find?_eq_none.2 fun request mem => by simpa using unmatched request mem
  · obtain ⟨n, session, connection, header, fragments, work, request, drives, reads, inFlight,
      rfl⟩ := exists_reads_of_isReply h.orderly h.vacant mem new kind
    exact ⟨n, session, connection, header, fragments, work, request,
      List.mem_of_find?_eq_some inFlight, drives, reads, by simpa using List.find?_some inFlight,
      rfl⟩
  · obtain ⟨m, writer, cursor, found, own', busy, complete, rfl⟩ := written
    have accepted : client.Accepted index cursor.request.ticket cursor.request.info :=
      .written found own' (h.steady m writer found cursor busy complete) busy complete rfl rfl
    obtain ⟨reachable, there⟩ := accepted.run h run
    obtain ⟨sent, mem, ticket, info⟩ :=
      there.exists_inFlight reachable.orderly.sound unresolved reads own
    have answered := answers reachable.reachable distinct' reads mem (by rw [info, same])
    rw [own] at answered
    exact ⟨sent, mem, ticket, answered⟩

end

/-- A client whose channel has accepted the last byte of its first call. -/
def transmitting : Client := calling.performAll [.drive 0, .drive 0, .drive 0, .drive 0]

/-- The same client when its driver is to read the reply. -/
def replying : Client :=
  transmitting.performAll
    [.drive 0, .drive 0, .drive 0, .change 0 (.feed [0x80, 0, 0, 8, 0, 0, 0, 1, 0, 0, 0, 0]),
      .drive 0]

theorem replies_matched_by_xid_replying : transmitting.ReachableWhile XidsDistinct ∧
    transmitting.XidsDistinct ∧ ∃ request, transmitting.WrittenOn 0 request ∧
      ∃ sent outcome, sent.ticket = request.ticket ∧
        replying.Answers (replying.perform (.drive 0)) 0 sent outcome := by
  have distinct : transmitting.XidsDistinct := by decide +kernel
  have first : RunWhile XidsDistinct usual calling := runWhile_performAll usual _ (by decide)
  have second : RunWhile XidsDistinct calling transmitting :=
    runWhile_performAll calling _ (by decide +kernel)
  have run : RunWhile XidsDistinct transmitting replying :=
    runWhile_performAll transmitting _ (by decide +kernel)
  have reachable : transmitting.ReachableWhile XidsDistinct :=
    ⟨usual, built_usual, first.trans second⟩
  obtain ⟨writer, found, own, cursor, busy, complete, ticket, xid⟩ :
      ∃ session, transmitting.sessions[0]? = some session ∧ session.connection = 0 ∧
        ∃ cursor, session.transmitter.current = some cursor ∧ cursor.isComplete = true ∧
          cursor.request.ticket = 0 ∧ cursor.request.info.xid = 1 := by
    refine ⟨transmitting.sessions.get ⟨0, by decide +kernel⟩, List.getElem?_eq_getElem _,
      by decide +kernel, Option.get _ (by decide +kernel), (Option.some_get _).symm, ?_, ?_, ?_⟩
    · decide +kernel
    · decide +kernel
    · decide +kernel
  obtain ⟨reader, found', own', reading, record⟩ :
      ∃ session, replying.sessions[0]? = some session ∧ session.connection = 0 ∧
        session.phase = .reading false ∧
          (session.assembler.read replying.pool session.channel.inbound).1 =
            .record [⟨0, 8, [0, 0, 0, 1, 0, 0, 0, 0]⟩] := by
    refine ⟨replying.sessions.get ⟨0, by decide +kernel⟩, List.getElem?_eq_getElem _, ?_, ?_, ?_⟩
    · decide +kernel
    · decide +kernel
    · decide +kernel
  obtain ⟨connection, bound⟩ : ∃ connection, replying.connections[0]? = some connection :=
    Option.isSome_iff_exists.1 (by decide +kernel)
  have written : transmitting.WrittenOn 0 cursor.request :=
    ⟨0, writer, cursor, found, own, busy, complete, rfl⟩
  have reads : replying.Reads 0 reader connection ⟨1, 0⟩ [⟨0, 8, [0, 0, 0, 1, 0, 0, 0, 0]⟩]
      (reader.assembler.read replying.pool reader.channel.inbound).2 := by
    refine ⟨by decide +kernel, found', by rw [own']; exact bound, ⟨false, reading⟩, ?_, by decide⟩
    rw [← record]
  obtain ⟨-, -, accepted⟩ := replies_matched_by_xid reachable distinct
  obtain ⟨sent, -, same, answers⟩ := accepted 0 cursor.request written replying run
    (by decide +kernel) (by rw [ticket]; decide +kernel) 0 reader connection _ _ _ reads own'
    xid.symm
  exact ⟨reachable, distinct, cursor.request, written, sent, _, same, answers⟩

end Client

end RemoteCall
