import RemoteCall.Proofs.Client.Ownership

/-!
# The load of a client with a request

The load of a client with a ticket counts it wherever requests and notices are: in the queues, with
the sessions that are writing, in flight, and with the notices. A call adds one to the load of its
ticket; no action changes it otherwise, unless a request in flight has to give way to another with
the same transaction id.
-/
namespace RemoteCall

theorem sum_map_set {α : Type} (f : α → Nat) {list : List α} {i : Nat} {a : α} (b : α)
    (h : list[i]? = some a) : ((list.set i b).map f).sum + f a = (list.map f).sum + f b := by
  induction list generalizing i with
  | nil => cases h
  | cons first later ih =>
    cases i with
    | zero =>
      cases h
      simp only [List.set_cons_zero, List.map_cons, List.sum_cons]
      omega
    | succ i =>
      have hi := ih h
      simp only [List.set_cons_succ, List.map_cons, List.sum_cons]
      omega

theorem le_sum_map {α : Type} (f : α → Nat) {list : List α} {a : α} (h : a ∈ list) :
    f a ≤ (list.map f).sum :=
  List.le_sum_of_mem (List.mem_map_of_mem h)

/-- If numbers sum to one, one of them is one and the others are zero. -/
theorem exists_of_sum_map_eq_one {α : Type} (f : α → Nat) {list : List α}
    (h : (list.map f).sum = 1) : ∃ (i : Nat) (a : α), list[i]? = some a ∧ f a = 1 ∧
      ∀ (j : Nat) b, list[j]? = some b → j ≠ i → f b = 0 := by
  induction list with
  | nil => cases h
  | cons first later ih =>
    rw [List.map_cons, List.sum_cons] at h
    by_cases hfirst : f first = 0
    · obtain ⟨i, a, ha, hone, hzero⟩ := ih (by omega)
      refine ⟨i + 1, a, ha, hone, fun j b hb hj => ?_⟩
      cases j with
      | zero =>
        cases hb
        exact hfirst
      | succ j => exact hzero j b hb (by omega)
    · refine ⟨0, first, rfl, by omega, fun j b hb hj => ?_⟩
      cases j with
      | zero => exact absurd rfl hj
      | succ j =>
        have le := le_sum_map f (List.mem_of_getElem? (show later[j]? = some b from hb))
        omega

/-- What has a key that occurs at most once is alone with it. -/
theorem filter_eq_singleton {α β : Type} [BEq β] [LawfulBEq β] {f : α → β} {list : List α} {a : α}
    (mem : a ∈ list) (once : (list.map f).count (f a) ≤ 1) :
    list.filter (fun b => f b == f a) = [a] := by
  have found : a ∈ list.filter (fun b => f b == f a) :=
    List.mem_filter.2 ⟨mem, beq_self_eq_true _⟩
  rw [List.count, List.countP_map, List.countP_eq_length_filter] at once
  have length : (list.filter (fun b => f b == f a)).length ≤ 1 := once
  obtain ⟨first, last, parts⟩ := List.append_of_mem found
  rw [parts, List.length_append, List.length_cons] at length
  have before : first = [] := List.eq_nil_of_length_eq_zero (by omega)
  have after : last = [] := List.eq_nil_of_length_eq_zero (by omega)
  rw [parts, before, after, List.nil_append]

/-- How many requests carry a ticket. -/
def Request.load (ticket : Nat) (requests : List Request) : Nat :=
  (requests.map Request.ticket).count ticket

/-- How many notices carry a ticket. -/
def Notice.load (ticket : Nat) (notices : List Notice) : Nat :=
  (notices.map Notice.ticket).count ticket

namespace Request

@[simp] theorem load_nil (ticket : Nat) : load ticket [] = 0 := rfl

theorem load_cons (ticket : Nat) (request : Request) (later : List Request) :
    load ticket (request :: later) = load ticket [request] + load ticket later := by
  rw [← List.singleton_append, load, List.map_append, List.count_append]
  rfl

@[simp] theorem load_append (ticket : Nat) (first second : List Request) :
    load ticket (first ++ second) = load ticket first + load ticket second := by
  simp [load]

theorem load_singleton_congr {a b : Request} (ticket : Nat) (h : a.ticket = b.ticket) :
    load ticket [a] = load ticket [b] := by
  simp [load, h]

/-- Taking out the first request with some property takes its load. -/
theorem load_eraseP (ticket : Nat) (p : Request → Bool) (requests : List Request) :
    load ticket (requests.eraseP p) + load ticket (requests.find? p).toList =
      load ticket requests := by
  induction requests with
  | nil => rfl
  | cons request later ih =>
    by_cases hp : p request
    · rw [List.eraseP_cons_of_pos hp, List.find?_cons_of_pos hp, load_cons ticket request later]
      simp only [Option.toList]
      omega
    · rw [List.eraseP_cons_of_neg hp, List.find?_cons_of_neg hp, load_cons ticket request later,
        load_cons ticket request (later.eraseP p)]
      omega

theorem load_filter (ticket : Nat) (p : Request → Bool) (requests : List Request) :
    load ticket (requests.filter p) + load ticket (requests.filter (!p ·)) =
      load ticket requests := by
  have perm := List.filter_append_perm p requests
  rw [← load_append]
  exact (perm.map Request.ticket).count_eq ticket

theorem load_takeWhile (ticket : Nat) (p : Request → Bool) (requests : List Request) :
    load ticket (requests.takeWhile p) + load ticket (requests.dropWhile p) =
      load ticket requests := by
  rw [← load_append, List.takeWhile_append_dropWhile]

theorem load_flatMap {α : Type} (ticket : Nat) (f : α → List Request) (list : List α) :
    load ticket (list.flatMap f) = (list.map fun a => load ticket (f a)).sum := by
  rw [load, List.map_flatMap, List.count_flatMap]
  rfl

end Request

namespace Notice

@[simp] theorem load_nil (ticket : Nat) : load ticket [] = 0 := rfl

@[simp] theorem load_append (ticket : Nat) (first second : List Notice) :
    load ticket (first ++ second) = load ticket first + load ticket second := by
  simp [load]

theorem load_cons (ticket : Nat) (notice : Notice) (later : List Notice) :
    load ticket (notice :: later) = load ticket [notice] + load ticket later := by
  rw [← List.singleton_append, load_append]

/-- A request that fails passes its load to the notice. -/
@[simp] theorem load_fail (ticket : Nat) (requests : List Request) (failure : Request → Failure) :
    load ticket (requests.map fun request => request.fail (failure request)) =
      Request.load ticket requests := by
  unfold load Request.load
  rw [List.map_map]
  rfl

theorem load_of_ticket (ticket : Nat) {notice : Notice} {request : Request}
    (h : notice.ticket = request.ticket) :
    load ticket [notice] = Request.load ticket [request] := by
  simp [load, Request.load, h]

/-- Taking out a notice takes its load. -/
theorem load_eraseIdx (ticket : Nat) {notices : List Notice} {position : Nat}
    {notice : Notice} (h : notices[position]? = some notice) :
    load ticket (notices.eraseIdx position) + load ticket [notice] =
      load ticket notices := by
  obtain ⟨hlt, rfl⟩ := List.getElem?_eq_some_iff.1 h
  have perm := List.getElem_cons_eraseIdx_perm hlt
  have cons := load_cons ticket notices[position] (notices.eraseIdx position)
  have same : load ticket (notices[position] :: notices.eraseIdx position) =
      load ticket notices := (perm.map Notice.ticket).count_eq ticket
  omega

end Notice

/-- A step of a driver moves requests between the queue, the session, the requests in flight and the
notices. -/
theorem Driven.load {session session' : Session} {connection connection' : Connection}
    {notices : List Notice} {displaced : Option Request}
    (h : Driven session connection session' connection' notices displaced) (ticket : Nat) :
    Request.load ticket connection'.outstanding + Request.load ticket session'.held.toList +
        Notice.load ticket notices + Request.load ticket displaced.toList =
      Request.load ticket connection.outstanding + Request.load ticket session.held.toList := by
  simp only [Connection.outstanding, Request.load_append]
  cases h with
  | stayed own shared link live taken exchanges =>
    rw [shared.queue, shared.inFlight, own.held]
    simp
  | connected own shared before after =>
    rw [shared.queue, shared.inFlight, own.held]
    simp
  | tookUp own phase before free held queue shared =>
    rename_i request later
    have moved := Request.load_cons ticket request later
    rw [shared.queue, shared.inFlight, free, held, queue]
    simp only [Option.toList_none, Option.toList_some, Request.load_nil, Notice.load_nil]
    omega
  | refused failure own phase before queue shared =>
    rename_i request later
    have moved := Request.load_cons ticket request later
    have told : Notice.load ticket [request.fail failure] = Request.load ticket [request] :=
      Notice.load_of_ticket ticket rfl
    rw [shared.queue, shared.inFlight, own.held, queue, told]
    simp only [Option.toList_none, Request.load_nil]
    omega
  | transmitted now own phase before held free shared =>
    rename_i request
    have marked := Request.load_singleton_congr ticket (request.ticket_markSent now)
    have erased := Request.load_eraseP ticket (·.info.xid == request.info.xid) connection.inFlight
    rw [shared.queue, shared.inFlight, held, free]
    simp only [Connection.markInFlight, Connection.inFlight?, Request.info_markSent,
      Request.load_append, Option.toList_none, Option.toList_some, Request.load_nil,
      Notice.load_nil]
    omega
  | answered xid now own phase before inFlight ticketEq shared =>
    have told := Notice.load_of_ticket ticket ticketEq
    have erased := Request.load_eraseP ticket (·.info.xid == xid) connection.inFlight
    rw [Connection.inFlight?] at inFlight
    rw [inFlight, Option.toList_some] at erased
    rw [shared.queue, shared.inFlight, own.held, told]
    simp only [Connection.takeInFlight, Option.toList_none, Request.load_nil]
    omega
  | tornDown reason own phase live free shared asked =>
    rw [shared.queue, shared.inFlight, free, Notice.load_fail, Request.load_append,
      Connection.outstanding, Request.load_append]
    simp only [Connection.drain, Option.toList_none, Request.load_nil]
    omega
  | connectFailed cause own phase before unasked shared =>
    rw [shared.queue, shared.inFlight, own.held, Notice.load_fail, Connection.outstanding,
      Request.load_append]
    simp only [Connection.drain, Option.toList_none, Request.load_nil]
    omega

namespace Client

/-! ## The load of a client -/

def connectionsLoad (client : Client) (ticket : Nat) : Nat :=
  (client.connections.map fun connection => Request.load ticket connection.outstanding).sum

def sessionsLoad (client : Client) (ticket : Nat) : Nat :=
  (client.sessions.map fun session => Request.load ticket session.held.toList).sum

/-- The notices of all requests that have ended. -/
def notices (client : Client) : List Notice := client.posted ++ client.rejected ++ client.told

/-- How often a ticket occurs in the client. -/
def load (client : Client) (ticket : Nat) : Nat :=
  client.connectionsLoad ticket + client.sessionsLoad ticket + Notice.load ticket client.notices

section

variable {client next : Client}

@[simp] theorem load_enter (client : Client) (loop : LoopPhase) (ticket : Nat) :
    (client.enter loop).load ticket = client.load ticket := rfl

/-- One connection changes. -/
theorem load_setConnection {index : Nat} {connection : Connection} (connection' : Connection)
    (hc : client.connections[index]? = some connection) (ticket : Nat) :
    load { client with connections := client.connections.set index connection' } ticket +
        Request.load ticket connection.outstanding =
      client.load ticket + Request.load ticket connection'.outstanding := by
  have sum := sum_map_set (fun connection => Request.load ticket connection.outstanding)
    connection' hc
  simp only [load, connectionsLoad, sessionsLoad, notices] at sum ⊢
  omega

/-- Requests are taken from a connection and fail. -/
theorem load_drain {index : Nat} {connection connection' : Connection}
    (hc : client.connections[index]? = some connection) (empty : connection'.outstanding = [])
    (failure : Failure) (ticket : Nat) :
    load { client with
      connections := client.connections.set index connection'
      posted := client.posted ++ connection.outstanding.map fun request => request.fail failure }
        ticket = client.load ticket := by
  have set := load_setConnection connection' hc ticket
  rw [empty, Request.load_nil] at set
  rw [← Nat.add_zero (client.load ticket), ← set]
  simp only [load, connectionsLoad, sessionsLoad, notices, Notice.load_append, Notice.load_fail]
  omega

/-- One session changes, and holds as much as before. -/
theorem load_setSession {index : Nat} {session session' : Session}
    (hs : client.sessions[index]? = some session) (ticket : Nat)
    (same : session'.held = session.held) :
    load { client with sessions := client.sessions.set index session' } ticket =
      client.load ticket := by
  have sum := sum_map_set (fun session => Request.load ticket session.held.toList) session' hs
  simp only [load, connectionsLoad, sessionsLoad, notices, same] at sum ⊢
  omega

/-! ## What actions do to the load -/

theorem load_deliver (client : Client) (notice : Notice) (ticket : Nat) :
    (client.deliver notice).load ticket = client.load ticket + Notice.load ticket [notice] := by
  have cons := Notice.load_cons ticket notice client.told
  rw [deliver_eq]
  simp only [load, connectionsLoad, sessionsLoad, notices, Notice.load_append]
  omega

theorem load_retireAndFail (client : Client) (index : Nat) (reason : CloseReason) (ticket : Nat) :
    (client.retireAndFail index reason).load ticket = client.load ticket := by
  cases hc : client.connections[index]? with
  | none => rw [retireAndFail_eq_self hc]
  | some connection =>
    rw [retireAndFail_eq hc]
    exact load_drain hc rfl _ ticket

theorem load_retireAll (entries : List (Address × Nat)) (reason : CloseReason) (client : Client)
    (ticket : Nat) :
    (entries.foldl (fun client entry => client.retireAndFail entry.2 reason) client).load ticket =
      client.load ticket := by
  induction entries generalizing client with
  | nil => rfl
  | cons entry later ih =>
    rw [List.foldl_cons, ih, load_retireAndFail]

/-- The requests that are too old take their load out of the client. -/
theorem load_takeAllExpired (indices : List Nat) (client : Client) (ticket : Nat) :
    (client.takeAllExpired indices).2.load ticket +
        Request.load ticket (client.takeAllExpired indices).1 = client.load ticket := by
  induction indices generalizing client with
  | nil => rfl
  | cons index later ih =>
    have step : (client.takeExpired index).2.load ticket +
        Request.load ticket (client.takeExpired index).1 = client.load ticket := by
      cases hc : client.connections[index]? with
      | none =>
        rw [takeExpired_eq_self hc]
        rfl
      | some connection =>
        have set := load_setConnection
          (connection.takeExpired client.settings.requestTimeout client.now).2 hc ticket
        have filtered := Request.load_filter ticket
          (·.isExpired client.settings.requestTimeout client.now) connection.inFlight
        have dropped := Request.load_takeWhile ticket
          (·.isExpired client.settings.requestTimeout client.now) connection.queue
        rw [takeExpired_eq hc]
        simp only [Connection.takeExpired, Connection.outstanding, Request.load_append] at set ⊢
        omega
    have rest := ih (client.takeExpired index).2
    have first : (client.takeAllExpired (index :: later)).1 =
        (client.takeExpired index).1 ++ ((client.takeExpired index).2.takeAllExpired later).1 := rfl
    have second : (client.takeAllExpired (index :: later)).2 =
        ((client.takeExpired index).2.takeAllExpired later).2 := rfl
    rw [first, second, Request.load_append]
    omega

theorem load_sweep (client : Client) (ticket : Nat) :
    client.sweep.load ticket = client.load ticket := by
  let kept := client.registry.filter (!client.isIdle ·)
  let started : Client := { client with registry := kept }
  have taken := load_takeAllExpired (kept.map Prod.snd) started ticket
  have retired := load_retireAll (client.registry.filter client.isIdle) .idle
    (started.takeAllExpired (kept.map Prod.snd)).2 ticket
  have same : started.load ticket = client.load ticket := rfl
  have posted (swept : Client) (requests : List Request) :
      (swept.postFailures requests .timeout).load ticket =
        swept.load ticket + Request.load ticket requests := by
    simp only [postFailures, load, connectionsLoad, sessionsLoad, notices, Notice.load_append,
      Notice.load_fail]
    omega
  have swept := posted ((client.registry.filter client.isIdle).foldl
    (fun client entry => client.retireAndFail entry.2 .idle)
    (started.takeAllExpired (kept.map Prod.snd)).2) (started.takeAllExpired (kept.map Prod.snd)).1
  rw [retired, taken, same] at swept
  exact swept

theorem load_failOutstanding (client : Client) (ticket : Nat) :
    client.failOutstanding.load ticket = client.load ticket :=
  load_retireAll _ _ _ ticket

theorem load_abandonLoop (client : Client) (ticket : Nat) :
    client.abandonLoop.load ticket = client.load ticket := by
  have held : client.abandonLoop.sessionsLoad ticket = client.sessionsLoad ticket :=
    congrArg List.sum (map_abandonLoop _ (fun _ => rfl) client)
  rw [load, held, abandonLoop_frame]
  rfl

theorem load_spawnAll (client : Client) (ticket : Nat) :
    client.spawnAll.load ticket = client.load ticket := by
  have spawned (list : List Nat) : ∀ client : Client,
      (list.foldl spawn client).load ticket = client.load ticket := by
    induction list with
    | nil => exact fun client => rfl
    | cons n later ih =>
      intro client
      rw [List.foldl_cons, ih]
      cases hs : client.sessions[n]? with
      | none =>
        unfold spawn
        rw [hs]
      | some session =>
        rw [spawn_eq hs]
        exact load_setSession hs ticket rfl
  exact spawned client.registrations { client with registrations := [] }

theorem load_discard (client : Client) (n ticket : Nat) :
    (client.discard n).load ticket = client.load ticket := by
  cases hs : client.sessions[n]? with
  | none =>
    unfold discard
    rw [hs]
  | some session =>
    let ended : Session := { session with channel := session.channel.close, phase := .closed }
    let closed : Client := { client with sessions := client.sessions.set n ended }
    have same : closed.load ticket = client.load ticket := load_setSession hs ticket rfl
    cases hc : client.connections[session.connection]? with
    | none =>
      have hc' : closed.connections[session.connection]? = none := hc
      have left : client.discard n = closed := by
        unfold discard
        rw [hs]
        simp only [putSession]
        rw [hc]
      rw [left, same]
    | some connection =>
      have hc' : closed.connections[session.connection]? = some connection := hc
      have drained := load_drain hc' connection.outstanding_drain .shutDown ticket
      rw [discard_eq hs hc, ← same, ← drained]

theorem load_halt (client : Client) (ticket : Nat) :
    client.halt.load ticket = client.load ticket := by
  have discarded (list : List Nat) : ∀ client : Client,
      (list.foldl discard client).load ticket = client.load ticket := by
    induction list with
    | nil => exact fun client => rfl
    | cons n later ih =>
      intro client
      rw [List.foldl_cons, ih, load_discard]
  unfold halt
  simp only
  rw [discarded]
  exact load_failOutstanding client ticket

theorem load_turned (turned : client.Turned next) (ticket : Nat) :
    next.load ticket = client.load ticket := by
  cases turned with
  | began deadline loop changed =>
    rw [changed, load_enter]
    rfl
  | halted lastSweep running waited down changed =>
    rw [changed, load_halt]
    rfl
  | worked since loop up noticed changed =>
    have swept (client : Client) : client.sweepIfDue.load ticket = client.load ticket := by
      unfold sweepIfDue
      split
      · exact load_sweep { client with lastSweep := client.now } ticket
      · rfl
    rw [changed, load_enter, worked, swept, load_spawnAll]
    rfl
  | ended loop closed changed => rw [changed, load_enter]

/-- A call adds its request to the load. -/
theorem load_submit {index : Nat} {connection : Connection} {request : Request}
    (hc : client.connections[index]? = some connection)
    (submitted : client.Submitted index connection request next) (ticket : Nat) :
    next.load ticket = client.load ticket + Request.load ticket [request] ∧
      next.calls = client.calls := by
  have told (failure : Failure) : Notice.load ticket [request.fail failure] =
      Request.load ticket [request] := Notice.load_of_ticket ticket rfl
  cases submitted with
  | refused down changed =>
    rw [changed]
    refine ⟨?_, rfl⟩
    simp only [load, connectionsLoad, sessionsLoad, notices, Notice.load_append, told]
    omega
  | queued up link connection' shared changed =>
    have set := load_setConnection connection' hc ticket
    rw [Connection.outstanding, Connection.outstanding, shared.queue, shared.inFlight] at set
    simp only [Connection.enqueue, Request.load_append] at set
    rw [changed]
    refine ⟨?_, rfl⟩
    simp only [load, connectionsLoad, sessionsLoad, notices] at set ⊢
    omega
  | opened up link takesUp session own phase free connection' shared changed =>
    have set := load_setConnection connection' hc ticket
    rw [Connection.outstanding, Connection.outstanding, shared.queue, shared.inFlight] at set
    simp only [Connection.enqueue, Request.load_append] at set
    rw [changed]
    refine ⟨?_, rfl⟩
    simp only [load, connectionsLoad, sessionsLoad, notices, List.map_append, List.map_cons,
      List.map_nil, List.sum_append, List.sum_singleton, free, Option.toList_none,
      Request.load_nil] at set ⊢
    omega
  | failed up link failure unused closed connection' shared changed =>
    have set := load_setConnection connection' hc ticket
    rw [Connection.outstanding, Connection.outstanding, shared.queue, shared.inFlight] at set
    simp only [Request.load_append, Request.load_nil] at set
    have idle : (unused.map fun session => Request.load ticket session.held.toList).sum = 0 := by
      refine List.sum_eq_zero fun load hload => ?_
      obtain ⟨session, hsession, rfl⟩ := List.mem_map.1 hload
      rw [(closed session hsession).2]
      rfl
    rw [changed]
    refine ⟨?_, rfl⟩
    simp only [load, connectionsLoad, sessionsLoad, notices, List.map_append, List.sum_append,
      Notice.load_append, Notice.load_fail, idle] at set ⊢
    omega

theorem load_send (valid : client.RegistryValid) (call : Call) (ticket : Nat) :
    (client.send call).load ticket =
        client.load ticket + Request.load ticket [client.requestFor call] ∧
      (client.send call).calls = client.calls + 1 := by
  cases sent_send valid call with
  | malformed failure encoded changed =>
    rw [changed]
    refine ⟨?_, rfl⟩
    simp only [reject, countCall, load, connectionsLoad, sessionsLoad, notices,
      Notice.load_append, Notice.load_fail]
    omega
  | submitted header encoded seat outcome =>
    rename_i index connection seated
    have seating : seated.load ticket = client.load ticket ∧ seated.calls = client.calls + 1 := by
      cases seat with
      | known _ _ => exact ⟨rfl, rfl⟩
      | fresh number link empty unasked =>
        refine ⟨?_, rfl⟩
        simp [countCall, load, connectionsLoad, sessionsLoad, notices, empty]
    obtain ⟨hload, hcalls⟩ := load_submit seat.found outcome ticket
    have same : Request.load ticket [{ client.requestFor call with header := header }] =
        Request.load ticket [client.requestFor call] := Request.load_singleton_congr ticket rfl
    exact ⟨by rw [hload, same, seating.1], hcalls.trans seating.2⟩

end

/-! ## Conservation -/

/-- Everything outstanding: queued, in flight, or being written. -/
def outstanding (client : Client) : List Request :=
  client.connections.flatMap Connection.outstanding ++ client.sessions.filterMap Session.held

/-- What is outstanding is with the connections and the sessions. -/
theorem load_outstanding (client : Client) (ticket : Nat) :
    Request.load ticket client.outstanding =
      client.connectionsLoad ticket + client.sessionsLoad ticket := by
  have sessions : client.sessions.filterMap Session.held =
      client.sessions.flatMap fun session => session.held.toList :=
    List.filterMap_eq_flatMap_toList _ _
  rw [outstanding, Request.load_append, Request.load_flatMap, sessions, Request.load_flatMap]
  rfl

/-- The transaction ids of what is outstanding are distinct. -/
def XidsDistinct (client : Client) : Prop := (client.outstanding.map (·.info.xid)).Nodup

instance : DecidablePred XidsDistinct := fun client =>
  inferInstanceAs (Decidable (client.outstanding.map (·.info.xid)).Nodup)

/-- A ticket was given out as often as this: once if the call was made. -/
def issued (client : Client) (ticket : Nat) : Nat := if ticket < client.calls then 1 else 0

section

variable {client next : Client}

/-- With distinct ids no request in flight has to give way. -/
theorem inFlight?_eq_none (h : client.XidsDistinct) {session : Session} {connection : Connection}
    (hs : session ∈ client.sessions) (hc : connection ∈ client.connections) {request : Request}
    (held : session.held = some request) :
    connection.inFlight? request.info.xid = none := by
  rw [XidsDistinct, outstanding, List.map_append, List.nodup_append] at h
  have writing : request ∈ client.sessions.filterMap Session.held :=
    List.mem_filterMap.2 ⟨session, hs, held⟩
  refine List.find?_eq_none.2 fun other hother same => ?_
  have bound : other ∈ client.connections.flatMap Connection.outstanding :=
    List.mem_flatMap.2 ⟨connection, hc, List.mem_append_right _ hother⟩
  exact h.2.2 other.info.xid (List.mem_map_of_mem bound) request.info.xid
    (List.mem_map_of_mem writing) (by simpa using same)

/-- A driver only loses a request in flight that has to give way. -/
theorem load_driven {n : Nat} {session session' : Session} {connection connection' : Connection}
    {notices : List Notice} {displaced : Option Request}
    (hs : client.sessions[n]? = some session)
    (hc : client.connections[session.connection]? = some connection)
    (driven : Driven session connection session' connection' notices displaced) (ticket : Nat) :
    load { client with
        sessions := client.sessions.set n session'
        connections := client.connections.set session.connection connection'
        posted := client.posted ++ notices } ticket + Request.load ticket displaced.toList =
      client.load ticket := by
  have moved := driven.load ticket
  have set := load_setConnection connection' hc ticket
  have put := sum_map_set (fun session => Request.load ticket session.held.toList) session' hs
  simp only [load, connectionsLoad, sessionsLoad, Client.notices, Notice.load_append] at set put ⊢
  omega

/-- The load of a ticket changes with the tickets given out, less what drivers have lost. With
distinct ids nothing is lost. -/
def Balances (client next : Client) (ticket : Nat) : Prop :=
  ∃ lost, next.load ticket + lost + client.issued ticket = client.load ticket + next.issued ticket ∧
    (client.XidsDistinct → lost = 0) ∧ client.calls ≤ next.calls

theorem Balances.of_same {ticket : Nat} (load : next.load ticket = client.load ticket)
    (calls : next.calls = client.calls) : client.Balances next ticket := by
  refine ⟨0, ?_, fun _ => rfl, calls.ge⟩
  rw [load, issued, issued, calls, Nat.add_zero]

theorem balances_send (valid : client.RegistryValid) (call : Call) (ticket : Nat) :
    client.Balances (client.send call) ticket := by
  obtain ⟨hload, hcalls⟩ := load_send valid call ticket
  have new : Request.load ticket [client.requestFor call] =
      if ticket = client.calls then 1 else 0 := by
    by_cases same : ticket = client.calls
    · rw [if_pos same, same]
      exact List.count_singleton_self
    · rw [if_neg same]
      exact List.count_eq_zero.2 (by simpa [requestFor] using same)
  refine ⟨0, ?_, fun _ => rfl, hcalls.ge.trans' (Nat.le_succ _)⟩
  rw [hload, new, issued, issued, hcalls]
  split_ifs <;> omega

/-- Every action balances the load of every ticket. -/
theorem balances_perform (h : client.Orderly) (action : Action) (ticket : Nat) :
    client.Balances (client.perform action) ticket := by
  have performed := client.performed_perform action
  generalize client.perform action = next at performed
  cases performed with
  | sent call => exact balances_send h.sound.valid call ticket
  | turned free turned => exact .of_same (load_turned turned ticket) (by rw [turned.frame])
  | driven n found bound waited driven changed handled =>
    rename_i session session' connection connection' notices displaced
    have load := load_driven found bound driven ticket
    rw [changed]
    refine ⟨Request.load ticket displaced.toList, ?_, fun distinct => ?_, Nat.le_refl _⟩
    · exact congrArg (· + client.issued ticket) load
    · have none : displaced = none := driven.displaced_eq_none fun request held =>
        inFlight?_eq_none distinct (List.mem_of_getElem? found) (List.mem_of_getElem? bound) held
      rw [none]
      rfl
  | toldPosted position found =>
    have erased := Notice.load_eraseIdx ticket found
    refine .of_same ?_ (by rw [deliver_eq])
    rw [load_deliver]
    simp only [load, connectionsLoad, sessionsLoad, notices, Notice.load_append]
    omega
  | toldRejected position found =>
    have erased := Notice.load_eraseIdx ticket found
    refine .of_same ?_ (by rw [deliver_eq])
    rw [load_deliver]
    simp only [load, connectionsLoad, sessionsLoad, notices, Notice.load_append]
    omega
  | notified found =>
    rename_i index connection
    exact .of_same (Nat.add_right_cancel (load_setConnection connection.notify found ticket)) rfl
  | changed found channel => exact .of_same (load_setSession found ticket rfl) rfl
  | started up loop deadline => exact .of_same (load_enter client _ ticket) rfl
  | abandoned up loop => exact .of_same (load_abandonLoop client ticket) (by rw [abandonLoop_frame])
  | ended loop =>
    refine .of_same (load_failOutstanding _ ticket) ?_
    rw [failOutstanding_frame]
  | flagged loop => exact .of_same rfl rfl
  | aside same =>
    rw [same]
    exact .of_same rfl rfl

theorem load_built (h : client.Built) (ticket : Nat) :
    client.load ticket = 0 ∧ client.issued ticket = 0 := by
  obtain ⟨settings, parsers, pool, firstXid, rfl⟩ := h.exists_eq
  exact ⟨rfl, rfl⟩

/-- Wherever a run leads, a ticket occurs at most as often as it was given out. -/
theorem ReachableWhile.load_le {P : Client → Prop} (h : client.ReachableWhile P) (ticket : Nat) :
    client.load ticket ≤ client.issued ticket := by
  have both : client.Orderly ∧ client.load ticket ≤ client.issued ticket := by
    refine h.induct (fun first built => ⟨.built built, ?_⟩) fun client action _ before => ?_
    · rw [(load_built built ticket).1]
      exact Nat.zero_le _
    · obtain ⟨orderly, le⟩ := before
      obtain ⟨lost, moved, -, -⟩ := balances_perform orderly action ticket
      exact ⟨orderly.perform action, by omega⟩
  exact both.2

/-- With distinct ids a ticket occurs exactly as often as it was given out. -/
theorem ReachableWhile.load_eq (h : client.ReachableWhile XidsDistinct) (ticket : Nat) :
    client.load ticket = client.issued ticket := by
  have both : client.Orderly ∧ client.load ticket = client.issued ticket := by
    refine h.induct (fun first built => ⟨.built built, ?_⟩) fun client action distinct before => ?_
    · rw [(load_built built ticket).1, (load_built built ticket).2]
    · obtain ⟨orderly, eq⟩ := before
      obtain ⟨lost, moved, none, -⟩ := balances_perform orderly action ticket
      have zero := none distinct
      exact ⟨orderly.perform action, by omega⟩
  exact both.2

end

end Client

end RemoteCall
