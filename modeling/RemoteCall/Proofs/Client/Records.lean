import RemoteCall.Proofs.Client.Placing
import RemoteCall.Proofs.Client.Tending

/-!
# What actions make of the records of connections

Calls place requests, steps of drivers tend their connections, sweeps evict; whatever else happens
stands aside: it leaves all records alone, asks no connection to close for being idle, and lets
requests fail only because the client was shut down. `Recorded` says so of every action. Time does
not return, and the settings stay.
-/
namespace RemoteCall

/-- What the record of a connection says. -/
def Connection.record (connection : Connection) : Address × RetryAllowance × Instant × Link :=
  (connection.target, connection.allowance, connection.lastUsed, connection.link)

namespace Client

section

variable {client next : Client} {action : Action}

/-! ## Actions that leave records alone -/

/-- The records of all connections. -/
def records (client : Client) : List (Address × RetryAllowance × Instant × Link) :=
  client.connections.map Connection.record

/-- The loop leaves records alone. -/
theorem turnRelation_records :
    TurnRelation (fun client next => next.records = client.records) fun _ _ => True :=
  .of_connections (fun before after => after.map Connection.record = before.map Connection.record)
    (fun _ => rfl) (fun first second => second.trans first)
    (fun _ bound => map_set_of_eq _ bound rfl) (fun _ _ bound => map_set_of_eq _ bound rfl)
    fun bound => map_set_of_eq _ bound rfl

/-- The loop counts nothing. -/
theorem turnRelation_statistics : TurnRelation (fun client next =>
    next.connections.map Connection.statistics = client.connections.map Connection.statistics)
      fun _ _ => True :=
  .of_connections
    (fun before after => after.map Connection.statistics = before.map Connection.statistics)
    (fun _ => rfl) (fun first second => second.trans first)
    (fun _ bound => map_set_of_eq _ bound rfl) (fun _ _ bound => map_set_of_eq _ bound rfl)
    fun bound => map_set_of_eq _ bound rfl

/-- What stays but for calls, as time passes. -/
structure Passing (client next : Client) : Prop where
  now : client.now ≤ next.now
  settings : next.settings = client.settings
  calls : next.calls = client.calls
  opens : next.opens = client.opens

/-- Records and counters stay as they are, nothing is registered, no connection is asked to close
for being idle, and requests fail only because the client was shut down. -/
structure Aside (client next : Client) : Prop extends client.Passing next, client.Spares next where
  registry : next.registry = client.registry ∨ next.registry = []
  records : next.records = client.records
  statistics :
    next.connections.map Connection.statistics = client.connections.map Connection.statistics
  notices : ∀ notice ∈ next.notices,
    notice ∈ client.notices ∨ ∃ request : Request, request.fail .shutDown = notice

theorem Aside.of_same (passing : client.Passing next) (registry : next.registry = client.registry)
    (connections : next.connections = client.connections)
    (notices : next.notices ⊆ client.notices) : client.Aside next where
  toPassing := passing
  toSpares := .of_same registry (by rw [connections])
  registry := .inl registry
  records := by rw [Client.records, connections, Client.records]
  statistics := by rw [connections]
  notices := fun notice mem => .inl (notices mem)

theorem Passing.of_same (now : next.now = client.now) (settings : next.settings = client.settings)
    (calls : next.calls = client.calls) (opens : next.opens = client.opens) :
    client.Passing next :=
  ⟨now.ge, settings, calls, opens⟩

theorem Aside.refl (client : Client) : client.Aside client :=
  .of_same (.of_same rfl rfl rfl rfl) rfl rfl (List.Subset.refl _)

/-- Everything registered is removed from service. -/
theorem aside_failOutstanding (client : Client) : client.Aside client.failOutstanding where
  toPassing := by
    rw [failOutstanding_frame]
    exact .of_same rfl rfl rfl rfl
  toSpares := spares_failOutstanding client
  registry := by
    rw [failOutstanding_frame]
    exact .inr rfl
  records := turnRelation_records.failOutstanding client
  statistics := turnRelation_statistics.failOutstanding client
  notices := by
    intro notice mem
    rw [Client.notices, failOutstanding_frame, List.mem_append, List.mem_append] at mem
    rcases mem with (posted | rejected) | told
    · refine (mem_posted_failOutstanding client posted).imp_left fun old => ?_
      exact List.mem_append_left _ (List.mem_append_left _ old)
    · exact .inl (List.mem_append_left _ (List.mem_append_right _ rejected))
    · exact .inl (List.mem_append_right _ told)

/-- A turn changes connections, sessions, what the loop keeps of them and where it stands, and posts
notices, no more. -/
theorem perform_turn_frame (client : Client) : client.perform .turn = { client with
    loop := (client.perform .turn).loop
    lastSweep := (client.perform .turn).lastSweep
    driversEnded := (client.perform .turn).driversEnded
    registry := (client.perform .turn).registry
    registrations := (client.perform .turn).registrations
    registrationsOpen := (client.perform .turn).registrationsOpen
    sessions := (client.perform .turn).sessions
    connections := (client.perform .turn).connections
    posted := (client.perform .turn).posted } := by
  rcases client.perform_turn_eq with same | ⟨-, turned⟩
  · rw [same]
  · exact turned.frame

theorem records_turn (client : Client) : (client.perform .turn).records = client.records := by
  rcases client.perform_turn_eq with same | ⟨-, turned⟩
  · rw [same]
  · exact turnRelation_records.turned turned fun _ _ => trivial

theorem statistics_turn (client : Client) : (client.perform .turn).connections.map
    Connection.statistics = client.connections.map Connection.statistics := by
  rcases client.perform_turn_eq with same | ⟨-, turned⟩
  · rw [same]
  · exact turnRelation_statistics.turned turned fun _ _ => trivial

theorem passing_turn (client : Client) : client.Passing (client.perform .turn) := by
  rw [perform_turn_frame]
  exact .of_same rfl rfl rfl rfl

/-- A notice that a turn brings was posted in it. -/
theorem mem_notices_turn {notice : Notice} (mem : notice ∈ (client.perform .turn).notices) :
    notice ∈ client.notices ∨ notice ∈ (client.perform .turn).posted := by
  rw [notices, List.mem_append, List.mem_append] at mem
  rcases mem with (posted | rejected) | told
  · exact .inr posted
  · rw [perform_turn_frame] at rejected
    exact .inl (List.mem_append_left _ (List.mem_append_right _ rejected))
  · rw [perform_turn_frame] at told
    exact .inl (List.mem_append_right _ told)

/-- A turn without a sweep. -/
theorem aside_turn (still : ¬ client.Sweeps) : client.Aside (client.perform .turn) := by
  have passes := client.sweeps_or_passes.resolve_left still
  refine ⟨passing_turn client, passes.spares, passes.registry, records_turn client,
    statistics_turn client, fun notice mem => ?_⟩
  rcases mem_notices_turn mem with old | posted
  · exact .inl old
  · refine (passes.mem_posted posted).imp_left fun old => ?_
    exact List.mem_append_left _ (List.mem_append_left _ old)

/-- A notice is told that was posted or rejected. -/
theorem aside_deliver {notice : Notice} {posted rejected : List Notice}
    (mem : notice ∈ client.notices) (left : posted ⊆ client.posted)
    (left' : rejected ⊆ client.rejected) :
    client.Aside (deliver { client with posted := posted, rejected := rejected } notice) := by
  rw [deliver_eq]
  refine .of_same (.of_same rfl rfl rfl rfl) rfl rfl fun other found => ?_
  rw [notices, List.mem_append, List.mem_append] at found
  rcases found with (old | old) | told
  · exact List.mem_append_left _ (List.mem_append_left _ (left old))
  · exact List.mem_append_left _ (List.mem_append_right _ (left' old))
  · rcases List.mem_cons.1 told with rfl | old
    · exact mem
    · exact List.mem_append_right _ old

/-- Whatever is neither a call nor a turn nor a step of a driver. -/
theorem Minor.toAside (h : client.Minor action next) : client.Aside next := by
  cases h with
  | toldPosted found =>
    have mem := List.mem_append_left client.rejected (List.mem_of_getElem? found)
    exact aside_deliver (List.mem_append_left _ mem) List.eraseIdx_subset (List.Subset.refl _)
  | toldRejected found =>
    have mem := List.mem_append_right client.posted (List.mem_of_getElem? found)
    exact aside_deliver (List.mem_append_left _ mem) (List.Subset.refl _) List.eraseIdx_subset
  | notified found =>
    exact ⟨.of_same rfl rfl rfl rfl, .of_same rfl (map_set_of_eq _ found rfl), .inl rfl,
      map_set_of_eq _ found rfl, map_set_of_eq _ found rfl, fun notice mem => .inl mem⟩
  | changed found => exact .of_same (.of_same rfl rfl rfl rfl) rfl rfl (List.Subset.refl _)
  | started up loop deadline =>
    exact .of_same (.of_same rfl rfl rfl rfl) rfl rfl (List.Subset.refl _)
  | abandoned up loop fails =>
    rw [abandonLoop_frame]
    exact .of_same (.of_same rfl rfl rfl rfl) rfl rfl (List.Subset.refl _)
  | ended loop =>
    have failed := aside_failOutstanding { client with shuttingDown := true }
    exact ⟨⟨failed.now, failed.settings, failed.calls, failed.opens⟩,
      ⟨failed.asked, failed.unasked⟩, failed.registry, failed.records, failed.statistics,
      failed.notices⟩
  | flagged loop => exact .of_same (.of_same rfl rfl rfl rfl) rfl rfl (List.Subset.refl _)
  | aside other later same =>
    refine .of_same ⟨later, ?_, ?_, ?_⟩ ?_ ?_ ?_ <;> rw [same]
    exact List.Subset.refl _

/-- Whatever is no call, no step of a driver and no sweep. -/
theorem aside_perform (call : ∀ call, action ≠ .send call) (drive : ∀ n, action ≠ .drive n)
    (still : action = .turn → ¬ client.Sweeps) : client.Aside (client.perform action) := by
  by_cases turn : action = .turn
  · rw [turn]
    exact aside_turn (still turn)
  · exact (client.minor_perform call turn drive).toAside

/-! ## All actions -/

theorem Located.frame {target : Address} {index : Nat} {connection : Connection}
    (h : client.Located target index connection next) : next = { client with
      connections := next.connections
      registry := next.registry } := by
  cases h <;> rfl

theorem Placed.frame {index : Nat} {connection : Connection} {request : Request}
    (h : client.Placed index connection request next) : next = { client with
      connections := next.connections
      sessions := next.sessions
      registrations := next.registrations
      owed := next.owed
      rejected := next.rejected
      opens := next.opens
      plans := next.plans } := by
  cases h <;> rfl

/-- Only the connection on which a request is placed changes. It keeps its destination, what it was
asked and its counters. -/
theorem Placed.exists_set {index : Nat} {connection : Connection} {request : Request}
    (h : client.Placed index connection request next)
    (found : client.connections[index]? = some connection) :
    ∃ after, next.connections = client.connections.set index after ∧
      after.target = connection.target ∧ after.closeReason = connection.closeReason ∧
        after.statistics = connection.statistics ∧
          (after.lastUsed = connection.lastUsed ∨ after.lastUsed = client.now) := by
  cases h with
  | refused down =>
    obtain ⟨lt, rfl⟩ := List.getElem?_eq_some_iff.1 found
    exact ⟨_, (List.set_getElem_self lt).symm, rfl, rfl, rfl, .inl rfl⟩
  | queued up link owed => exact ⟨_, rfl, rfl, rfl, rfl, .inr rfl⟩
  | blocked up link spent => exact ⟨_, rfl, rfl, rfl, rfl, .inr rfl⟩
  | opened up link permitted accepted session => exact ⟨_, rfl, rfl, rfl, rfl, .inr rfl⟩
  | failed up link permitted cause refused unused => exact ⟨_, rfl, rfl, rfl, rfl, .inr rfl⟩
  | gone up link permitted accepted shut session => exact ⟨_, rfl, rfl, rfl, rfl, .inr rfl⟩

/-- The kinds of actions, by what they make of the records of connections. -/
inductive Recorded (client : Client) : Action → Client → Prop where
  | malformed (call : Call) {failure : Failure}
      (encoded : (client.headerFor call).encode call.credentials = .error failure) :
      Recorded client (.send call) (client.countCall.reject [client.requestFor call] failure)
  | placed (call : Call) {next located : Client} {header : Bytes} {index : Nat}
      {connection : Connection}
      (encoded : (client.headerFor call).encode call.credentials = .ok header)
      (found : client.countCall.Located call.target index connection located)
      (placed : located.Placed index connection
        { client.requestFor call with header := header } next) :
      Recorded client (.send call) next
  | tended (n : Nat) {next : Client} {session : Session} {connection : Connection}
      (found : client.sessions[n]? = some session)
      (bound : client.connections[session.connection]? = some connection)
      (tended : client.TendedFrom n session connection next)
      (frame : next = { client with
        sessions := next.sessions
        connections := next.connections
        posted := next.posted
        pool := next.pool
        driversEnded := next.driversEnded
        events := next.events
        mailbox := next.mailbox }) : Recorded client (.drive n) next
  | swept {next : Client} (sweeps : client.Sweeps) (swept : client.Swept next)
      (passing : client.Passing next) (records : next.records = client.records) :
      Recorded client .turn next
  | aside {action : Action} {next : Client} (aside : client.Aside next) :
      Recorded client action next

/-- Every action is of one of the kinds of `Recorded`. -/
theorem recorded_perform (valid : client.RegistryValid) (action : Action) :
    client.Recorded action (client.perform action) := by
  by_cases call : ∀ call, action ≠ .send call
  · by_cases drive : ∀ n, action ≠ .drive n
    · by_cases sweeps : action = .turn ∧ client.Sweeps
      · obtain ⟨rfl, sweeps⟩ := sweeps
        exact .swept sweeps sweeps.swept (passing_turn client) (records_turn client)
      · exact .aside (aside_perform call drive fun turn due => sweeps ⟨turn, due⟩)
    · obtain ⟨n, rfl⟩ := not_forall_not.1 drive
      rcases client.perform_drive_eq n with same | ⟨-, step⟩
      · rw [same]
        exact .aside (.refl client)
      · obtain ⟨session, connection, found, bound, stepped⟩ := exists_stepped_of_step? step
        obtain ⟨_, _, _, _, _, changed⟩ := stepped.drivenFrom bound
        exact .tended n found bound (stepped.tendedFrom bound) (by rw [changed])
  · obtain ⟨sent, rfl⟩ := not_forall_not.1 call
    rcases malformed_or_placed valid sent with ⟨failure, encoded, changed⟩ |
      ⟨header, encoded, index, connection, located, found, placed⟩
    · have malformed := Recorded.malformed sent encoded
      rw [← changed] at malformed
      exact malformed
    · exact .placed sent encoded found placed

namespace Recorded

/-- Time does not return, the settings stay, and no ticket is taken back. -/
theorem later (h : client.Recorded action next) :
    client.now ≤ next.now ∧ next.settings = client.settings ∧ client.calls ≤ next.calls := by
  cases h with
  | malformed call encoded => exact ⟨Nat.le_refl _, rfl, Nat.le_succ _⟩
  | placed call encoded found placed =>
    rw [placed.frame, found.frame]
    exact ⟨Nat.le_refl _, rfl, Nat.le_succ _⟩
  | tended n found bound tended frame =>
    rw [frame]
    exact ⟨Nat.le_refl _, rfl, Nat.le_refl _⟩
  | swept sweeps swept passing records => exact ⟨passing.now, passing.settings, passing.calls.ge⟩
  | aside aside => exact ⟨aside.now, aside.settings, aside.calls.ge⟩

/-- A connection is new and used now, or it was there before. Then it was used last when it was
before, or is used now, and only a sweep has asked it to close for being idle. -/
theorem exists_before (h : client.Recorded action next) {index : Nat} {after : Connection}
    (found : next.connections[index]? = some after) :
    after.lastUsed = client.now ∧ after.closeReason = none ∨
      ∃ before, client.connections[index]? = some before ∧
        (after.lastUsed = before.lastUsed ∨ after.lastUsed = client.now) ∧
        ((action = .turn → ¬ client.Sweeps) → after.closeReason = some .idle →
          before.closeReason = some .idle) := by
  have untouched (old : client.connections[index]? = some after) :
      ∃ before, client.connections[index]? = some before ∧
        (after.lastUsed = before.lastUsed ∨ after.lastUsed = client.now) ∧
        ((action = .turn → ¬ client.Sweeps) → after.closeReason = some .idle →
          before.closeReason = some .idle) :=
    ⟨after, old, .inl rfl, fun _ => id⟩
  have used_last (records : next.records = client.records) :
      ∃ before, client.connections[index]? = some before ∧ after.lastUsed = before.lastUsed := by
    obtain ⟨before, found', same⟩ := exists_of_map_eq records found
    exact ⟨before, found', (congrArg (·.2.2.1) same).symm⟩
  cases h with
  | malformed call encoded => exact .inr (untouched found)
  | placed call encoded found' placed =>
    obtain ⟨new, connections, -, reason, -, used⟩ := placed.exists_set found'.found
    rw [connections] at found
    cases found' with
    | known registered bound =>
      rcases getElem?_set_cases found with ⟨rfl, rfl⟩ | ⟨-, old⟩
      · exact .inr ⟨_, bound, used, fun _ idle => reason ▸ idle⟩
      · exact .inr (untouched old)
    | fresh unknown number =>
      rcases getElem?_set_cases found with ⟨-, rfl⟩ | ⟨other, old⟩
      · exact .inl ⟨used.elim id id, reason⟩
      · refine .inr (untouched ((getElem?_concat_cases old).resolve_right fun last => ?_))
        exact other (last.1.trans number.symm)
  | tended n found' bound tended frame =>
    obtain ⟨session', connection', notices, tended, -, connections, -⟩ := tended
    obtain ⟨-, reason, used⟩ := tended.stays
    rw [connections] at found
    rcases getElem?_set_cases found with ⟨rfl, rfl⟩ | ⟨-, old⟩
    · exact .inr ⟨_, bound, used, fun _ idle => reason ▸ idle⟩
    · exact .inr (untouched old)
  | swept sweeps swept passing records =>
    obtain ⟨before, found', used⟩ := used_last records
    exact .inr ⟨before, found', .inl used, fun still => absurd sweeps (still rfl)⟩
  | aside aside =>
    obtain ⟨before, found', used⟩ := used_last aside.records
    refine .inr ⟨before, found', .inl used, fun _ idle => ?_⟩
    obtain ⟨other, there, asked⟩ := aside.asked index after found idle
    rw [found', Option.some.injEq] at there
    exact there ▸ asked

/-- What is registered was so before, or is made now for a destination that had no connection. -/
theorem registered_or_unknown (h : client.Recorded action next) {entry : Address × Nat}
    (mem : entry ∈ next.registry) :
    entry ∈ client.registry ∨
      client.registered? entry.1 = none ∧ entry.2 = client.connections.length := by
  cases h with
  | malformed call encoded => exact .inl mem
  | placed call encoded found placed =>
    rw [placed.frame] at mem
    cases found with
    | known registered bound => exact .inl mem
    | fresh unknown number =>
      rcases List.mem_append.1 mem with old | new
      · exact .inl old
      · rw [List.mem_singleton.1 new]
        exact .inr ⟨unknown, number⟩
  | tended n found bound tended frame =>
    rw [frame] at mem
    exact .inl mem
  | swept sweeps swept passing records =>
    rw [swept.registry] at mem
    exact .inl (List.mem_filter.1 mem).1
  | aside aside =>
    rcases aside.registry with same | none
    · rw [same] at mem
      exact .inl mem
    · rw [none] at mem
      cases mem

/-- What is registered was so before, or is made now. -/
theorem registered (h : client.Recorded action next) {entry : Address × Nat}
    (mem : entry ∈ next.registry) :
    entry ∈ client.registry ∨ entry.2 = client.connections.length :=
  (h.registered_or_unknown mem).imp_right And.right

/-- No connection is forgotten. -/
theorem length_le (h : client.Recorded action next) :
    client.connections.length ≤ next.connections.length := by
  have kept (records : next.records = client.records) :
      client.connections.length ≤ next.connections.length := by
    have same := congrArg List.length records
    rw [Client.records, Client.records, List.length_map, List.length_map] at same
    exact same.ge
  cases h with
  | malformed call encoded => exact Nat.le_refl _
  | placed call encoded found placed =>
    obtain ⟨after, connections, -⟩ := placed.exists_set found.found
    rw [connections, List.length_set]
    cases found with
    | known registered bound => exact Nat.le_refl _
    | fresh unknown number =>
      rw [List.length_append]
      exact Nat.le_add_right _ _
  | tended n found bound tended frame =>
    obtain ⟨session', connection', notices, -, -, connections, -⟩ := tended
    rw [connections, List.length_set]
  | swept sweeps swept passing records => exact kept records
  | aside aside => exact kept aside.records

end Recorded

/-- Only drivers count; a new connection has counted nothing. -/
theorem statistics_perform (valid : client.RegistryValid) (drive : ∀ n, action ≠ .drive n) :
    (client.perform action).connections.map Connection.statistics =
        client.connections.map Connection.statistics ∨
      (client.perform action).connections.map Connection.statistics =
        client.connections.map Connection.statistics ++ [{ : Statistics }] := by
  have turned (turn : action = .turn) : (client.perform action).connections.map
      Connection.statistics = client.connections.map Connection.statistics := by
    rw [turn]
    exact statistics_turn client
  have recorded := recorded_perform valid action
  generalize client.perform action = next at recorded turned
  cases recorded with
  | malformed call encoded => exact .inl rfl
  | placed call encoded found placed =>
    obtain ⟨after, connections, -, -, same, -⟩ := placed.exists_set found.found
    rw [connections, map_set_of_eq Connection.statistics found.found same]
    cases found with
    | known registered bound => exact .inl rfl
    | fresh unknown number =>
      rw [List.map_append]
      exact .inr rfl
  | tended n found bound tended frame => exact absurd rfl (drive n)
  | swept sweeps swept passing records => exact .inl (turned rfl)
  | aside aside => exact .inl aside.statistics

/-- What every action keeps of an orderly client holds wherever a run leads. -/
theorem ReachableWhile.of_orderly {P I : Client → Prop} (h : client.ReachableWhile P)
    (built : ∀ first, Built first → I first)
    (step : ∀ client action, client.Orderly → I client → I (client.perform action)) : I client := by
  suffices both : client.Orderly ∧ I client from both.2
  exact h.induct (fun first hfirst => ⟨.built hfirst, built first hfirst⟩)
    fun client action _ before =>
      ⟨before.1.perform action, step client action before.1 before.2⟩

/-- A call leaves the clock, the settings and the loop alone. -/
theorem send_frame (valid : client.RegistryValid) (call : Call) :
    (client.send call).now = client.now ∧ (client.send call).settings = client.settings ∧
      (client.send call).loop = client.loop ∧ (client.send call).calls = client.calls + 1 := by
  rcases malformed_or_placed valid call with ⟨failure, -, changed⟩ |
    ⟨header, -, index, connection, located, found, placed⟩
  · rw [changed]
    exact ⟨rfl, rfl, rfl, rfl⟩
  · rw [placed.frame, found.frame]
    exact ⟨rfl, rfl, rfl, rfl⟩

end

end Client

end RemoteCall
