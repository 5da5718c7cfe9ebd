import RemoteCall.Proofs.Client.Answering
import RemoteCall.Proofs.Client.Contacts
import RemoteCall.Proofs.Statistics.Window

/-!
# What the counters say

Readers and writers count bytes, and hand the count over whenever they stop, whatever stopped them.
`Moved` says what a step of a driver really moved: the bytes gone from the arriving side of its
channel, those that came to the departing side, and the responses that it posted. `Metered` says
what the step makes of the counters, and over a run of actions they tell all that the drivers of a
connection have moved, however many channels that took.
-/
namespace RemoteCall

/-- What a step of a driver moved: bytes that it took from its channel, bytes that it put on it, and
responses to requests. -/
structure Moved where
  taken : Nat
  put : Nat
  answers : List Response

/-- The responses among notices. -/
def Notice.answers (notices : List Notice) : List Response :=
  notices.filterMap fun notice => notice.outcome.response?

theorem Notice.answers_fail (requests : List Request) (failure : Failure) :
    answers (requests.map fun request => request.fail failure) = [] := by
  rw [answers, List.filterMap_eq_nil_iff]
  intro notice mem
  obtain ⟨request, -, rfl⟩ := List.mem_map.1 mem
  rfl

/-- The round trips of responses, where they were timed. -/
def Response.trips (answers : List Response) : List Duration :=
  answers.filterMap fun answer => answer.timings.roundTrip

/-- A response is timed as its request is when it is answered. -/
theorem Request.timings_of_response {request : Request} {status : AcceptStatus}
    {fragments : List Buffer} {parsers : List ExceptionDecoder} {now : Instant} {answer : Response}
    (h : answer ∈ Notice.answers [(request.complete status fragments parsers now).1]) :
    answer.timings = request.timings now := by
  obtain ⟨notice, mem, response⟩ := List.mem_filterMap.1 h
  rw [List.mem_singleton.1 mem, complete_fst] at response
  cases status with
  | success =>
    cases response
    rfl
  | _ => cases response

/-- What a step that moved something makes of a session and of the counters of its connection, with
statistics or without. Only while writing is a session ahead of the counters. -/
structure Metered (enabled : Bool) (session session' : Session) (before after : Statistics)
    (moved : Moved) : Prop where
  own : session'.connection = session.connection
  unread : session'.assembler.received = 0
  unsent : session'.phase ≠ .writing → session'.transmitter.sent = 0
  taken : session.channel.inbound.unread = session'.channel.inbound.unread + moved.taken
  put : session'.channel.outbound.accepted.length =
    session.channel.outbound.accepted.length + moved.put
  off : enabled = false → after = before
  received : enabled = true → after.received = before.received + UInt64.ofNat moved.taken
  sent : enabled = true → after.sent + UInt64.ofNat session'.transmitter.sent =
    before.sent + UInt64.ofNat session.transmitter.sent + UInt64.ofNat moved.put
  latency : enabled = true →
    after.latency = (Response.trips moved.answers).foldl .record before.latency

/-- A step that moves nothing. -/
theorem Metered.still {enabled : Bool} {session session' : Session} {before after : Statistics}
    (own : session'.connection = session.connection)
    (unread : session'.assembler.received = 0)
    (sent : session'.transmitter.sent = session.transmitter.sent)
    (unsent : session'.phase ≠ .writing → session.transmitter.sent = 0)
    (inbound : session'.channel.inbound = session.channel.inbound)
    (outbound : session'.channel.outbound = session.channel.outbound) (same : after = before) :
    Metered enabled session session' before after ⟨0, 0, []⟩ where
  own := own
  unread := unread
  unsent := fun idle => sent.trans (unsent idle)
  taken := by rw [inbound, Nat.add_zero]
  put := by rw [outbound, Nat.add_zero]
  off := fun _ => same
  received := fun _ => by
    rw [same]
    exact (UInt64.add_zero _).symm
  sent := fun _ => by
    rw [same, sent]
    exact (UInt64.add_zero _).symm
  latency := fun _ => by
    rw [same]
    rfl

@[simp] theorem Request.recordsTimings_markSent (request : Request) (now : Instant) :
    (request.markSent now).recordsTimings = request.recordsTimings := by
  unfold markSent
  split <;> rfl

namespace Client

/-! ## Steps of drivers -/

/-- The counters after bytes were read and responses were posted. -/
def counted (client : Client) (statistics : Statistics) (count : Nat) (answers : List Response) :
    Statistics :=
  if client.settings.enableStatistics then
    { statistics.addReceived count with
      latency := (Response.trips answers).foldl .record statistics.latency }
  else statistics

/-- A step of a driver puts its session and its connection back, posts responses to requests that
were in flight, and counts what it moved. -/
def CountedFrom (client : Client) (n : Nat) (session : Session) (connection : Connection)
    (next : Client) : Prop :=
  ∃ session' connection' notices taken put,
    next.sessions = client.sessions.set n session' ∧
    next.connections = client.connections.set session.connection connection' ∧
    next.posted = client.posted ++ notices ∧
    (∀ answer ∈ Notice.answers notices, ∃ request ∈ connection.inFlight,
      answer.timings = request.timings client.now) ∧
    Metered client.settings.enableStatistics session session' connection.statistics
      connection'.statistics ⟨taken, put, Notice.answers notices⟩

section

variable {client next : Client} {n : Nat} {session session' : Session} {connection : Connection}
  {work : Fragment.Assembler.Work}

theorem statistics_countReceived (client : Client) (connection : Connection) (count : Nat) :
    (client.countReceived connection count).statistics =
      client.counted connection.statistics count [] := by
  unfold countReceived counted
  split <;> rfl

theorem statistics_countRoundTrip (client : Client) (connection : Connection) (outcome : Outcome) :
    (client.countRoundTrip connection outcome).statistics =
      client.counted connection.statistics 0 outcome.response?.toList := by
  have nothing : connection.statistics.received + UInt64.ofNat 0 = connection.statistics.received :=
    UInt64.add_zero _
  unfold countRoundTrip counted Statistics.addReceived
  rw [nothing]
  cases outcome with
  | failure failure => cases client.settings.enableStatistics <;> rfl
  | response answer =>
    have trips : Response.trips [answer] = answer.timings.roundTrip.toList := by
      cases timed : answer.timings.roundTrip <;> simp [Response.trips, timed]
    simp only [Outcome.roundTrip, Outcome.timings?, Option.bind_some, Outcome.response?,
      Option.toList_some, trips]
    cases client.settings.enableStatistics with
    | false => rfl
    | true => cases answer.timings.roundTrip <;> rfl

theorem statistics_usedFor (client : Client) (connection : Connection)
    (work : Fragment.Assembler.Work) (xid : UInt32) (outcome : Outcome) :
    (client.usedFor connection work xid outcome).statistics =
      client.counted connection.statistics work.assembler.received outcome.response?.toList := by
  have used : (client.used connection work).statistics =
      client.counted connection.statistics work.assembler.received [] :=
    client.statistics_countReceived connection work.assembler.received
  rw [usedFor, statistics_countRoundTrip]
  simp only [used]
  unfold counted Statistics.addReceived
  split
  · simp only [Statistics.mk.injEq]
    exact ⟨UInt64.add_zero _, trivial, rfl⟩
  · rfl

theorem CountedFrom.loseAll (h : client.CountedFrom n session connection next)
    (requests : List Request) :
    client.CountedFrom n session connection (requests.foldl lose next) := by
  rw [foldl_lose_eq]
  exact h

/-- A step that moves nothing. -/
theorem countedFrom_still {connection' : Connection} {notices : List Notice}
    (sessions : next.sessions = client.sessions.set n session')
    (connections : next.connections = client.connections.set session.connection connection')
    (posted : next.posted = client.posted ++ notices) (none : Notice.answers notices = [])
    (own : session'.connection = session.connection) (unread : session'.assembler.received = 0)
    (sent : session'.transmitter.sent = session.transmitter.sent)
    (unsent : session'.phase ≠ .writing → session.transmitter.sent = 0)
    (inbound : session'.channel.inbound = session.channel.inbound)
    (outbound : session'.channel.outbound = session.channel.outbound)
    (same : connection'.statistics = connection.statistics) :
    client.CountedFrom n session connection next :=
  ⟨session', connection', notices, 0, 0, sessions, connections, posted,
    none ▸ List.forall_mem_nil _, none ▸ .still own unread sent unsent inbound outbound same⟩

/-- A step that reads. Whatever reading comes to, what it took is counted. -/
theorem countedFrom_read {thenWrite : Bool} {reading : Fragment.Reading} {connection' : Connection}
    {notices : List Notice} (phase : session.phase = .reading thenWrite)
    (idle : session.assembler.received = 0)
    (unsent : session.phase ≠ .writing → session.transmitter.sent = 0)
    (read : session.assembler.read client.pool session.channel.inbound = (reading, work))
    (sessions : next.sessions = client.sessions.set n session')
    (connections : next.connections = client.connections.set session.connection connection')
    (posted : next.posted = client.posted ++ notices)
    (own : session'.connection = session.connection) (unread : session'.assembler.received = 0)
    (sent : session'.transmitter.sent = session.transmitter.sent)
    (inbound : session'.channel.inbound = work.side)
    (outbound : session'.channel.outbound = session.channel.outbound)
    (statistics : connection'.statistics = client.counted connection.statistics
      work.assembler.received (Notice.answers notices))
    (timed : ∀ answer ∈ Notice.answers notices, ∃ request ∈ connection.inFlight,
      answer.timings = request.timings client.now) :
    client.CountedFrom n session connection next := by
  have silent : session.transmitter.sent = 0 := unsent (by simp [phase])
  obtain ⟨bytes, pending, received⟩ := (Fragment.Assembler.Work.takes_of_read read).taken
  have count : work.assembler.received = bytes.length := by
    rw [received, idle, Nat.zero_add]
  refine ⟨session', connection', notices, work.assembler.received, 0, sessions, connections, posted,
    timed, own, unread, fun _ => sent.trans silent, ?_, by rw [outbound, Nat.add_zero],
    fun off => ?_, fun on => ?_, fun on => ?_, fun on => ?_⟩
  · rw [inbound, count]
    exact Fragment.Assembler.Work.unread_of_taken pending
  · rw [statistics, counted, if_neg (by rw [off]; simp)]
  · rw [statistics, counted, if_pos on]
    rfl
  · rw [statistics, counted, if_pos on, sent]
    exact (UInt64.add_zero _).symm
  · rw [statistics, counted, if_pos on]

/-- Writing stops, and what was written is counted. -/
theorem countedFrom_stopped {connection' : Connection} {notices : List Notice}
    (idle : session.assembler.received = 0)
    (sessions : next.sessions = client.sessions.set n session')
    (connections : next.connections = client.connections.set session.connection connection')
    (posted : next.posted = client.posted ++ notices) (none : Notice.answers notices = [])
    (own : session'.connection = session.connection)
    (unread : session'.assembler.received = session.assembler.received)
    (sent : session'.transmitter.sent = 0)
    (inbound : session'.channel.inbound = session.channel.inbound)
    (outbound : session'.channel.outbound = session.channel.outbound)
    (statistics : connection'.statistics =
      (client.countSent connection session.transmitter.sent).statistics) :
    client.CountedFrom n session connection next := by
  refine ⟨session', connection', notices, 0, 0, sessions, connections, posted,
    none ▸ List.forall_mem_nil _, own, unread.trans idle, fun _ => sent,
    by rw [inbound, Nat.add_zero], by rw [outbound, Nat.add_zero], fun off => ?_, fun on => ?_,
    fun on => ?_, fun on => ?_⟩
  · rw [statistics, countSent, if_neg (by rw [off]; simp)]
  · rw [statistics, countSent, if_pos on]
    exact (UInt64.add_zero _).symm
  · rw [statistics, countSent, if_pos on, sent]
    rfl
  · rw [statistics, countSent, if_pos on, none]
    rfl

/-- Every step counts what it moves. -/
theorem Stepped.countedFrom (h : client.Stepped n session connection next)
    (bound : client.connections[session.connection]? = some connection)
    (idle : session.assembler.received = 0)
    (unsent : session.phase ≠ .writing → session.transmitter.sent = 0) :
    client.CountedFrom n session connection next := by
  have kept : client.connections = client.connections.set session.connection connection := by
    obtain ⟨lt, rfl⟩ := List.getElem?_eq_some_iff.1 bound
    exact (List.set_getElem_self lt).symm
  have nothing : client.posted = client.posted ++ [] := (List.append_nil _).symm
  have silent (still : session.phase.exchanges = false) : session.transmitter.sent = 0 :=
    unsent fun writing => by
      rw [writing] at still
      cases still
  have ended (requests : List Request) (failure : Failure) :=
    Notice.answers_fail requests failure
  cases h with
  | went wanted alike goes =>
    exact countedFrom_still rfl kept nothing rfl rfl idle rfl (fun _ => silent goes.still)
      alike.inbound alike.outbound rfl
  | heard phase unasked =>
    exact countedFrom_still rfl rfl nothing rfl rfl idle rfl (fun _ => unsent (by simp [phase]))
      rfl rfl rfl
  | connected alike before unasked =>
    exact countedFrom_still rfl rfl nothing rfl rfl idle rfl
      (fun _ => silent (SessionPhase.exchanges_of_connects before)) alike.inbound alike.outbound rfl
  | failed cause alike before unasked =>
    exact countedFrom_still rfl rfl rfl (ended _ _) rfl idle rfl
      (fun _ => silent (SessionPhase.exchanges_of_connects before)) alike.inbound alike.outbound rfl
  | broke cause alike still link unasked =>
    exact countedFrom_still rfl rfl rfl (ended _ _) rfl idle rfl (fun _ => silent still)
      alike.inbound alike.outbound rfl
  | closed asked still live =>
    exact countedFrom_still rfl rfl rfl (ended _ _) rfl idle rfl (fun _ => silent still) rfl rfl rfl
  | pausedReading phase read =>
    exact countedFrom_read phase idle unsent read rfl rfl nothing rfl rfl rfl rfl rfl
      (client.statistics_countReceived connection _) (List.forall_mem_nil _)
  | endedReading phase read why =>
    refine countedFrom_read phase idle unsent read rfl rfl rfl rfl rfl rfl rfl rfl ?_ ?_
    · rw [ended]
      exact client.statistics_countReceived connection _
    · rw [ended]
      exact List.forall_mem_nil _
  | gaveUp phase read decoded unmatched =>
    exact countedFrom_read phase idle unsent read rfl rfl nothing rfl rfl rfl rfl rfl
      (client.statistics_countReceived connection _) (List.forall_mem_nil _)
  | answered phase read decoded inFlight =>
    exact countedFrom_read phase idle unsent read rfl rfl rfl rfl rfl rfl rfl rfl
      (client.statistics_usedFor connection _ _ _) fun answer mem =>
        ⟨_, List.mem_of_find?_eq_some inFlight, Request.timings_of_response mem⟩
  | pausedWriting phase unwritten =>
    exact countedFrom_stopped idle rfl rfl nothing rfl rfl rfl rfl rfl rfl rfl
  | endedWriting phase refusal reason? unwritten =>
    exact countedFrom_stopped idle rfl rfl rfl (ended _ _) rfl rfl rfl rfl rfl rfl
  | tookUp phase free queue fits =>
    exact countedFrom_still rfl rfl nothing rfl rfl idle rfl (fun idles => absurd phase idles) rfl
      rfl rfl
  | refused phase free queue large =>
    exact countedFrom_still rfl rfl rfl (ended [_] _) rfl idle rfl (fun idles => absurd phase idles)
      rfl rfl rfl
  | @moved cursor count side phase busy more accepted pos le =>
    refine ⟨_, connection, [], 0, count, rfl, rfl, nothing, List.forall_mem_nil _, rfl, idle,
      fun idles => absurd phase idles, rfl, ?_, fun _ => rfl, fun _ => (UInt64.add_zero _).symm,
      fun _ => ?_, fun _ => rfl⟩
    · rw [accepted, List.length_append, List.length_take, Nat.min_eq_left le]
    · rw [UInt64.add_assoc, ← UInt64.ofNat_add]
  | transmitted phase busy complete =>
    refine CountedFrom.loseAll ?_ _
    exact countedFrom_still rfl rfl nothing rfl rfl idle rfl (fun idles => absurd phase idles) rfl
      rfl rfl

end

/-! ## Timed requests -/

/-- Requests are timed if statistics are kept, and what is in flight is marked as sent then. -/
structure TimesKept (client : Client) : Prop where
  recorded : ∀ place, ∀ request ∈ client.requestsAt place,
    request.recordsTimings = client.settings.enableStatistics
  marked : ∀ index, ∀ request ∈ client.requestsAt (.inFlight index),
    request.recordsTimings = true → ∃ sent, request.sentAt = some sent

section

variable {client : Client}

theorem TimesKept.built (h : client.Built) : client.TimesKept := by
  obtain ⟨settings, parsers, pool, firstXid, rfl⟩ := h.exists_eq
  refine ⟨fun place request mem => ?_, fun index request mem => ?_⟩
  · cases place <;> cases mem
  · cases mem

theorem TimesKept.perform (h : client.TimesKept) (orderly : client.Orderly) (action : Action) :
    (client.perform action).TimesKept := by
  have advances := advances_perform orderly action
  have settings := (recorded_perform orderly.sound.valid action).later.2.1
  constructor
  · intro place request mem
    rw [settings]
    cases place with
    | queue index =>
      obtain ⟨more, sub, recent⟩ := queues_perform orderly action index
      rcases List.mem_append.1 (sub.subset mem) with old | new
      · exact h.recorded _ request old
      · obtain ⟨⟨call, header, rfl⟩, -⟩ := recent request new
        rfl
    | cursor n =>
      rcases advances.cursor n request mem with old | ⟨session, found, queued⟩
      · exact h.recorded _ request old
      · exact h.recorded _ request queued
    | inFlight index =>
      rcases advances.inFlight index request mem with
        old | ⟨n, session, written, now, found, own, held, rfl⟩
      · exact h.recorded _ request old
      · rw [Request.recordsTimings_markSent]
        exact h.recorded _ written held
    | resolved => cases mem
  · intro index request mem timed
    rcases advances.inFlight index request mem with
      old | ⟨n, session, written, now, found, own, held, rfl⟩
    · exact h.marked index request old timed
    · rw [Request.recordsTimings_markSent] at timed
      refine ⟨now, ?_⟩
      unfold Request.markSent
      rw [if_pos timed]

/-- A request in flight that is answered now has made a round trip. -/
theorem TimesKept.exists_trip (h : client.TimesKept) (on : client.settings.enableStatistics = true)
    {index : Nat} {connection : Connection} (found : client.connections[index]? = some connection)
    {request : Request} (mem : request ∈ connection.inFlight) :
    ∃ trip, (request.timings client.now).roundTrip = some trip ∧ trip ≤ client.now := by
  have there : request ∈ client.requestsAt (.inFlight index) :=
    mem_inFlight.2 ⟨connection, found, mem⟩
  have timed : request.recordsTimings = true := (h.recorded _ request there).trans on
  obtain ⟨sent, marked⟩ := h.marked index request there timed
  refine ⟨client.now.since sent, ?_, Nat.sub_le _ _⟩
  simp only [Request.timings, Timings.roundTrip, timed, marked, if_true]
  rfl

/-! ## The counters of a connection -/

/-- The counters of a connection; one that is still to be made has counted nothing. -/
def statisticsAt (client : Client) (index : Nat) : Statistics :=
  ((client.connections.map Connection.statistics)[index]?).getD {}

/-- The bytes that the sessions of a connection have put on their channels and not yet counted. -/
def unsentOn (client : Client) (index : Nat) : Nat :=
  (client.sessions.map fun session =>
    if session.connection = index then session.transmitter.sent else 0).sum

/-- What was moved between two states of a client by the driver of the session `n`. -/
def moved (client : Client) (n : Nat) (next : Client) : Moved where
  taken :=
    ((client.sessions[n]?.map fun session => session.channel.inbound.unread).getD 0) -
      ((next.sessions[n]?.map fun session => session.channel.inbound.unread).getD 0)
  put :=
    ((next.sessions[n]?.map fun session => session.channel.outbound.accepted.length).getD 0) -
      ((client.sessions[n]?.map fun session => session.channel.outbound.accepted.length).getD 0)
  answers := Notice.answers (next.posted.drop client.posted.length)

/-- What the drivers of the connection `index` move in an action. -/
def movedOn (client : Client) (index : Nat) : Action → List Moved
  | .drive n =>
      if client.sessions[n]?.map Session.connection = some index then
        [client.moved n (client.perform (.drive n))]
      else []
  | _ => []

/-- A sum over a list that was changed where it does not count, and got longer by what does not. -/
theorem sum_map_of_rest {α : Type} {f : α → Nat} {before after : List α}
    (rest : ∀ (n : Nat) b, after[n]? = some b →
      (∃ a, before[n]? = some a ∧ f b = f a) ∨ before[n]? = none ∧ f b = 0)
    (length : before.length ≤ after.length) : (after.map f).sum = (before.map f).sum := by
  induction before generalizing after with
  | nil =>
    refine List.sum_eq_zero fun x mem => ?_
    obtain ⟨b, there, rfl⟩ := List.mem_map.1 mem
    obtain ⟨n, found⟩ := List.mem_iff_getElem?.1 there
    rcases rest n b found with ⟨a, old, -⟩ | ⟨-, zero⟩
    · cases old
    · exact zero
  | cons a earlier ih =>
    cases after with
    | nil => cases length
    | cons b later =>
      have first : f b = f a := by
        rcases rest 0 b rfl with ⟨a', old, same⟩ | ⟨none, -⟩
        · cases old
          exact same
        · cases none
      have others := ih (fun n => rest (n + 1)) (Nat.le_of_succ_le_succ length)
      rw [List.map_cons, List.map_cons, List.sum_cons, List.sum_cons, first, others]

/-- What is missing in a list is what comes next. -/
theorem getD_concat {α : Type} (list : List α) (n : Nat) (a : α) :
    ((list ++ [a])[n]?).getD a = (list[n]?).getD a := by
  cases found : list[n]? with
  | some b => rw [getElem?_append_of_some [a] found]
  | none =>
    cases found' : (list ++ [a])[n]? with
    | none => rfl
    | some b =>
      rcases getElem?_concat_cases found' with old | ⟨-, rfl⟩
      · rw [found] at old
        cases old
      · rfl

/-- Sessions have nothing left to count but for what they write. -/
def Tallied (client : Client) : Prop :=
  ∀ (n : Nat) session, client.sessions[n]? = some session →
    session.assembler.received = 0 ∧ (session.phase ≠ .writing → session.transmitter.sent = 0)

/-- The counters of the connection `index` tell all that its drivers have moved. -/
structure Meters (client : Client) (index : Nat) (past : List Moved) : Prop where
  kept : client.TimesKept
  tallied : client.Tallied
  off : client.settings.enableStatistics = false → client.statisticsAt index = {}
  received : client.settings.enableStatistics = true →
    (client.statisticsAt index).received = UInt64.ofNat (past.map Moved.taken).sum
  sent : client.settings.enableStatistics = true →
    (client.statisticsAt index).sent + UInt64.ofNat (client.unsentOn index) =
      UInt64.ofNat (past.map Moved.put).sum
  latency : client.settings.enableStatistics = true → (client.statisticsAt index).latency =
    (Response.trips (past.flatMap Moved.answers)).foldl .record {}
  timed : client.settings.enableStatistics = true → ∀ answer ∈ past.flatMap Moved.answers,
    ∃ trip, answer.timings.roundTrip = some trip ∧ trip ≤ client.now

variable {next : Client} {index n : Nat} {past : List Moved} {session : Session}
  {connection : Connection}

theorem Meters.built (h : client.Built) (index : Nat) : client.Meters index [] := by
  have kept := TimesKept.built h
  obtain ⟨settings, parsers, pool, firstXid, rfl⟩ := h.exists_eq
  exact ⟨kept, fun n session found => (by cases found), fun _ => rfl, fun _ => rfl, fun _ => rfl,
    fun _ => rfl, fun _ => List.forall_mem_nil _⟩

/-- The counters of the connection stay. -/
theorem Meters.of_same (h : client.Meters index past) (kept : next.TimesKept)
    (tallied : next.Tallied) (now : client.now ≤ next.now)
    (settings : next.settings = client.settings)
    (statistics : next.statisticsAt index = client.statisticsAt index)
    (unsent : next.unsentOn index = client.unsentOn index) : next.Meters index past := by
  refine ⟨kept, tallied, ?_, ?_, ?_, ?_, ?_⟩
  · rw [settings, statistics]
    exact h.off
  · rw [settings, statistics]
    exact h.received
  · rw [settings, statistics, unsent]
    exact h.sent
  · rw [settings, statistics]
    exact h.latency
  · rw [settings]
    intro on answer mem
    obtain ⟨trip, timed, le⟩ := h.timed on answer mem
    exact ⟨trip, timed, le.trans now⟩

/-- Whoever moves nothing leaves the counters alone. -/
theorem Meters.rest (h : client.Meters index past) (orderly : client.Orderly) {action : Action}
    (drive : ∀ n, action ≠ .drive n) : (client.perform action).Meters index past := by
  have recorded := (recorded_perform orderly.sound.valid action).later
  have rested (n : Nat) {after : Session}
      (found : (client.perform action).sessions[n]? = some after) : client.Rested n after := by
    rcases steps_or_rests orderly action n with ⟨driven, -⟩ | ⟨-, rested⟩
    · exact absurd driven (drive n)
    · exact rested after found
  have statistics : (client.perform action).statisticsAt index = client.statisticsAt index := by
    rw [statisticsAt, statisticsAt]
    rcases statistics_perform orderly.sound.valid drive with same | new
    · rw [same]
    · rw [new, getD_concat]
  have unsentOn : (client.perform action).unsentOn index = client.unsentOn index := by
    refine sum_map_of_rest (fun n after found => ?_) ?_
    · rcases rested n found with ⟨before, there, rests⟩ | ⟨new, untouched, -⟩
      · exact .inl ⟨before, there, by rw [rests.own, rests.transmitter]⟩
      · exact .inr ⟨new, by rw [untouched.unwritten, ite_self]⟩
    · have length := (owners_perform orderly action).length_le
      rw [List.length_map, List.length_map] at length
      exact length
  refine h.of_same (h.kept.perform orderly action) (fun n after found => ?_) recorded.1 recorded.2.1
    statistics unsentOn
  rcases rested n found with ⟨before, there, rests⟩ | ⟨-, untouched, -⟩
  · obtain ⟨unread, unsent⟩ := h.tallied n before there
    rw [rests.assembler, rests.transmitter]
    refine ⟨unread, fun idle => unsent ?_⟩
    rcases rests.phase with same | ⟨waited, -⟩
    · rw [← same]
      exact idle
    · simp [waited]
  · rw [untouched.unread, untouched.unwritten]
    exact ⟨rfl, fun _ => rfl⟩

/-- What a step moves is what it counts. -/
theorem CountedFrom.exists_moved (h : client.CountedFrom n session connection next)
    (found : client.sessions[n]? = some session) : ∃ session' connection',
      next.sessions = client.sessions.set n session' ∧
      next.connections = client.connections.set session.connection connection' ∧
      (∀ answer ∈ (client.moved n next).answers, ∃ request ∈ connection.inFlight,
        answer.timings = request.timings client.now) ∧
      Metered client.settings.enableStatistics session session' connection.statistics
        connection'.statistics (client.moved n next) := by
  obtain ⟨session', connection', notices, taken, put, sessions, connections, posted, timed,
    counts⟩ := h
  have there : next.sessions[n]? = some session' := by
    rw [sessions, List.getElem?_set_self (List.getElem?_eq_some_iff.1 found).1]
  have moved : client.moved n next = ⟨taken, put, Notice.answers notices⟩ := by
    have hput := counts.put
    have htaken := counts.taken
    simp only [Client.moved, found, there, Option.map_some, Option.getD_some, posted,
      List.drop_left, Moved.mk.injEq, and_true]
    simp only at hput htaken
    omega
  rw [moved]
  exact ⟨session', connection', sessions, connections, timed, counts⟩

/-- Nothing more was moved. -/
theorem Meters.idle (h : client.Meters index past) :
    client.Meters index (past ++ [⟨0, 0, []⟩]) := by
  refine ⟨h.kept, h.tallied, h.off, ?_, ?_, ?_, ?_⟩
  · simpa using h.received
  · simpa using h.sent
  · simpa using h.latency
  · simpa using h.timed

theorem statisticsAt_set {own : Nat} {connection' : Connection} (index : Nat)
    (bound : client.connections[own]? = some connection)
    (connections : next.connections = client.connections.set own connection') :
    next.statisticsAt index =
      if own = index then connection'.statistics else client.statisticsAt index := by
  rw [statisticsAt, statisticsAt, connections, List.map_set]
  split
  · rename_i here
    subst here
    have lt := (List.getElem?_eq_some_iff.1 bound).1
    rw [List.getElem?_set_self (by rw [List.length_map]; exact lt)]
    rfl
  · rename_i other
    rw [List.getElem?_set_ne other]

theorem statisticsAt_eq (bound : client.connections[index]? = some connection) :
    client.statisticsAt index = connection.statistics := by
  rw [statisticsAt, List.getElem?_map, bound]
  rfl

/-- A step of a driver counts for its connection, and for no other. -/
theorem Meters.step (h : client.Meters index past) (orderly : client.Orderly)
    (step : client.step? n = some (client.perform (.drive n))) :
    (client.perform (.drive n)).Meters index (past ++ client.movedOn index (.drive n)) := by
  have kept := h.kept.perform orderly (.drive n)
  obtain ⟨now, settings, -⟩ := (recorded_perform orderly.sound.valid (.drive n)).later
  have moves : client.movedOn index (.drive n) =
      if client.sessions[n]?.map Session.connection = some index then
        [client.moved n (client.perform (.drive n))] else [] := rfl
  rw [moves]
  generalize client.perform (.drive n) = next at *
  obtain ⟨session, connection, found, bound, stepped⟩ := exists_stepped_of_step? step
  obtain ⟨unread, idle⟩ := h.tallied n session found
  obtain ⟨session', connection', sessions, connections, timed, counts⟩ :=
    (stepped.countedFrom bound unread idle).exists_moved found
  generalize client.moved n next = moved at timed counts ⊢
  have statistics := statisticsAt_set index bound connections
  have unsent := sum_map_set (fun session : Session =>
    if session.connection = index then session.transmitter.sent else 0) session' found
  rw [← sessions] at unsent
  have tallied : next.Tallied := by
    intro m after there
    rw [sessions] at there
    rcases getElem?_set_cases there with ⟨-, rfl⟩ | ⟨-, old⟩
    · exact ⟨counts.unread, counts.unsent⟩
    · exact h.tallied m after old
  simp only [counts.own] at unsent
  rw [found, Option.map_some]
  by_cases here : session.connection = index
  · subst here
    rw [if_pos rfl] at statistics
    rw [if_pos rfl, if_pos rfl] at unsent
    rw [if_pos rfl]
    have before := statisticsAt_eq bound
    refine ⟨kept, tallied, ?_, ?_, ?_, ?_, ?_⟩ <;> rw [settings]
    · intro off
      rw [statistics, counts.off off, ← before]
      exact h.off off
    · intro on
      rw [statistics, counts.received on, ← before, h.received on, ← UInt64.ofNat_add]
      simp
    · intro on
      have total := h.sent on
      have step := counts.sent on
      have put : ((past ++ [moved]).map Moved.put).sum = (past.map Moved.put).sum + moved.put := by
        simp
      have ahead : UInt64.ofNat (next.unsentOn session.connection + session.transmitter.sent) =
          UInt64.ofNat (client.unsentOn session.connection + session'.transmitter.sent) :=
        congrArg UInt64.ofNat unsent
      rw [UInt64.ofNat_add, UInt64.ofNat_add] at ahead
      rw [before] at total
      rw [statistics, put, UInt64.ofNat_add, ← total]
      grind
    · intro on
      rw [statistics, counts.latency on, ← before, h.latency on]
      simp [Response.trips]
    · intro on answer mem
      rw [List.flatMap_append, List.mem_append, List.flatMap_singleton] at mem
      rcases mem with old | new
      · obtain ⟨trip, timed, le⟩ := h.timed on answer old
        exact ⟨trip, timed, le.trans now⟩
      · obtain ⟨request, inFlight, same⟩ := timed answer new
        obtain ⟨trip, timed, le⟩ := h.kept.exists_trip on bound inFlight
        exact ⟨trip, by rw [same, timed], le.trans now⟩
  · rw [if_neg here] at statistics
    rw [if_neg here, if_neg here] at unsent
    have other : ¬ some session.connection = some index := fun same => here (Option.some.inj same)
    rw [if_neg other, List.append_nil]
    exact h.of_same kept tallied now settings statistics unsent

/-- Whatever happens, the counters go on to tell what was moved. -/
theorem Meters.perform (h : client.Meters index past) (orderly : client.Orderly) (action : Action) :
    (client.perform action).Meters index (past ++ client.movedOn index action) := by
  by_cases driven : ∃ n, action = .drive n
  · obtain ⟨n, rfl⟩ := driven
    rcases client.perform_drive_eq n with same | ⟨-, step⟩
    · have zero : client.moved n client = ⟨0, 0, []⟩ := by simp [moved, Notice.answers]
      simp only [movedOn, same, zero]
      split
      · exact h.idle
      · rw [List.append_nil]
        exact h
    · exact h.step orderly step
  · have none : client.movedOn index action = [] := by
      cases action with
      | drive n => exact absurd ⟨n, rfl⟩ driven
      | _ => rfl
    rw [none, List.append_nil]
    exact h.rest orderly fun n same => driven ⟨n, same⟩

theorem ReachableWhile.tallied {P : Client → Prop} (h : client.ReachableWhile P) :
    client.Tallied := by
  have meters : ∃ past, client.Meters 0 past :=
    h.of_orderly (I := fun client => ∃ past, client.Meters 0 past)
      (fun first built => ⟨[], .built built 0⟩)
      fun client action orderly ⟨past, meters⟩ => ⟨_, meters.perform orderly action⟩
  obtain ⟨past, meters⟩ := meters
  exact meters.tallied

/-- The counters of a connection are exact. Bytes are those that its drivers have taken from their
channels and put on them, modulo `2 ^ 64`, whatever became of them and however many the channels;
only while it writes a driver is ahead of the counters. Each response adds one sample, its round
trip, to the window, and nothing else does. The average is that of the ten latest, unless ten round
trips together exceed the largest duration. Without statistics nothing is counted. -/
theorem counters_exact {first : Client} (built : first.Built) (actions : List Action) {index : Nat}
    {connection : Connection}
    (found : (first.performAll actions).connections[index]? = some connection) :
    let last := first.performAll actions
    let past := first.gather (fun client => client.movedOn index) actions
    let statistics := connection.statistics
    (first.settings.enableStatistics = false → statistics = {}) ∧
    (first.settings.enableStatistics = true →
      statistics.received = UInt64.ofNat (past.map Moved.taken).sum ∧
      statistics.sent + UInt64.ofNat (last.unsentOn index) =
        UInt64.ofNat (past.map Moved.put).sum ∧
      ((∀ session ∈ last.sessions, session.connection = index → session.phase ≠ .writing) →
        statistics.sent = UInt64.ofNat (past.map Moved.put).sum) ∧
      ∃ trips : List Duration,
        (past.flatMap Moved.answers).map (fun answer => answer.timings.roundTrip) =
          trips.map some ∧
        statistics.latency.samples = trips.rtake 10 ∧
        (LatencyWindow.Fits 10 trips → statistics.latency.average =
          if trips = [] then none else some ((trips.rtake 10).sum / min trips.length 10)) ∧
        (10 * last.now ≤ Duration.longest → LatencyWindow.Fits 10 trips)) := by
  intro last past statistics
  obtain ⟨-, settings, meters⟩ := gather_induct
    (I := fun client past => client.settings = first.settings ∧ client.Meters index past)
    (fun client past action orderly holds =>
      ⟨(recorded_perform orderly.sound.valid action).later.2.1.trans holds.1,
        holds.2.perform orderly action⟩)
    (Orderly.built built) ⟨rfl, .built built index⟩ actions
  rw [List.nil_append] at meters
  have same : last.statisticsAt index = statistics := statisticsAt_eq found
  rw [← settings, ← same]
  refine ⟨meters.off, fun on => ⟨meters.received on, meters.sent on, fun still => ?_,
    Response.trips (past.flatMap Moved.answers), ?_, ?_, fun fits => ?_, fun small => ?_⟩⟩
  · have told : last.unsentOn index = 0 := by
      refine List.sum_eq_zero fun count mem => ?_
      obtain ⟨session, there, rfl⟩ := List.mem_map.1 mem
      obtain ⟨n, found'⟩ := List.mem_iff_getElem?.1 there
      split
      · rename_i own
        exact (meters.tallied n session found').2 (still session there own)
      · rfl
    have sent := meters.sent on
    rw [told] at sent
    exact (UInt64.add_zero _).symm.trans sent
  · rw [Response.trips, List.map_filterMap_some_eq_filter_map_isSome, List.filter_eq_self.2]
    intro trip mem
    obtain ⟨answer, there, rfl⟩ := List.mem_map.1 mem
    obtain ⟨trip, timed, -⟩ := meters.timed on answer there
    rw [timed]
    rfl
  · rw [meters.latency on]
    exact LatencyWindow.samples_foldl_record 10 _
  · rw [meters.latency on]
    exact LatencyWindow.average_foldl_record 10 fits
  · refine LatencyWindow.fits_of_le (fun trip mem => ?_) small
    obtain ⟨answer, there, timed⟩ := List.mem_filterMap.1 mem
    obtain ⟨trip', timed', le⟩ := meters.timed on answer there
    rw [timed, Option.some.injEq] at timed'
    exact timed' ▸ le

/-- A client that keeps statistics. -/
def counting : Client := { usual with settings := { enableStatistics := true } }

theorem built_counting : counting.Built := ⟨counting.settings, [], {}, 1, rfl⟩

/-- A call is answered three milliseconds after it was sent. -/
def countingActions : List Action :=
  [Action.start, .elapse timerProbe, .turn, .send nullCall, .turn] ++
    List.replicate 14 (Action.drive 0) ++ [Action.elapse (Duration.ofMillis 3),
      .change 0 (.feed [0x80, 0, 0, 8, 0, 0, 0, 1, 0, 0, 0, 0])] ++
    List.replicate 3 (Action.drive 0)

theorem counters_exact_counting : ∃ connection,
    (counting.performAll countingActions).connections[0]? = some connection ∧
      connection.statistics.received = 12 ∧ connection.statistics.sent = 44 := by
  obtain ⟨connection, found⟩ := Option.isSome_iff_exists.1
    (by decide +kernel : (counting.performAll countingActions).connections[0]?.isSome = true)
  obtain ⟨received, -, sent, -⟩ := (counters_exact built_counting countingActions found).2 rfl
  refine ⟨connection, found, received.trans ?_, (sent (by decide +kernel)).trans ?_⟩
  · exact congrArg UInt64.ofNat (by decide +kernel)
  · exact congrArg UInt64.ofNat (by decide +kernel)

end

end Client

end RemoteCall
