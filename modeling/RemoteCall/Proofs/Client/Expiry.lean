import RemoteCall.Proofs.Client.Ageing

/-!
# Requests that are too old

Queues are in the order of age, so what a sweep takes from the head of a queue is all that is too
old in it. A sweep lets exactly the overdue requests fail that are queued or in flight on
connections that it does not evict, and nobody else lets a request fail with `timeout`. What a
driver is writing is out of its reach.
-/
namespace RemoteCall

section

variable {α : Type} {p : α → Bool} {list : List α}

/-- If whatever stands before an element of a kind is of this kind too, the kind makes up the head
of the list. -/
theorem takeWhile_eq_filter (order : list.Pairwise fun a b => p b = true → p a = true) :
    list.takeWhile p = list.filter p := by
  induction list with
  | nil => rfl
  | cons a later ih =>
    obtain ⟨first, order⟩ := List.pairwise_cons.1 order
    cases here : p a with
    | true => rw [List.takeWhile_cons_of_pos here, List.filter_cons_of_pos here, ih order]
    | false =>
      have none : later.filter p = [] := List.filter_eq_nil_iff.2 fun b mem kind => by
        rw [first b mem kind] at here
        cases here
      rw [List.takeWhile_cons_of_neg (by simp [here]), List.filter_cons_of_neg (by simp [here]),
        none]

theorem dropWhile_eq_filter (order : list.Pairwise fun a b => p b = true → p a = true) :
    list.dropWhile p = list.filter (!p ·) := by
  induction list with
  | nil => rfl
  | cons a later ih =>
    obtain ⟨first, order⟩ := List.pairwise_cons.1 order
    cases here : p a with
    | true =>
      rw [List.dropWhile_cons_of_pos here, List.filter_cons_of_neg (by simp [here]), ih order]
    | false =>
      have all : later.filter (!p ·) = later := List.filter_eq_self.2 fun b mem => by
        cases kind : p b with
        | false => rfl
        | true =>
          rw [first b mem kind] at here
          cases here
      rw [List.dropWhile_cons_of_neg (by simp [here]), List.filter_cons_of_pos (by simp [here]),
        all]

end

/-- The requests of a list are in the order of age, the oldest first. -/
def InAgeOrder (requests : List Request) : Prop :=
  requests.Pairwise fun first second => first.queuedAt ≤ second.queuedAt

/-- In the order of age what is too old stands at the head. -/
theorem InAgeOrder.head {requests : List Request} (h : InAgeOrder requests) (timeout : Duration)
    (now : Instant) : requests.Pairwise fun first second =>
      second.isExpired timeout now = true → first.isExpired timeout now = true := by
  refine h.imp fun {first second} older expired => ?_
  rw [Request.isExpired, decide_eq_true_eq] at expired ⊢
  exact lt_of_le_of_lt (Nat.add_le_add_right older timeout) expired

namespace Client

/-- The request is older than the settings allow. -/
def overdue (client : Client) (request : Request) : Bool :=
  request.isExpired client.settings.requestTimeout client.now

/-- Every queue is in the order of age, and nothing in it was queued in the future. -/
def Aged (client : Client) : Prop :=
  ∀ index, InAgeOrder (client.requestsAt (.queue index)) ∧
    ∀ request ∈ client.requestsAt (.queue index), request.queuedAt ≤ client.now

section

variable {client : Client}

theorem Aged.perform (aged : client.Aged) (h : client.Orderly) (action : Action) :
    (client.perform action).Aged := by
  intro index
  obtain ⟨order, past⟩ := aged index
  obtain ⟨more, sub, recent⟩ := queues_perform h action index
  have now := (recorded_perform h.sound.valid action).later.1
  have new {request : Request} (mem : request ∈ more) : request.queuedAt = client.now := by
    obtain ⟨⟨call, header, rfl⟩, -⟩ := recent request mem
    rfl
  refine ⟨List.Pairwise.sublist sub (List.pairwise_append.2 ⟨order, ?_, ?_⟩), fun request mem => ?_⟩
  · exact List.pairwise_of_forall_mem_list fun first mem second mem' => by
      rw [new mem, new mem']
  · intro first mem second mem'
    rw [new mem']
    exact past first mem
  · rcases List.mem_append.1 (sub.subset mem) with old | pushed
    · exact (past request old).trans now
    · rw [new pushed]
      exact now

theorem ReachableWhile.aged {P : Client → Prop} (h : client.ReachableWhile P) : client.Aged := by
  refine h.of_orderly (fun first built => ?_) fun client action orderly aged =>
    aged.perform orderly action
  obtain ⟨settings, parsers, pool, firstXid, rfl⟩ := built.exists_eq
  exact fun index => ⟨List.Pairwise.nil, List.forall_mem_nil _⟩

/-! ## Sweeps -/

/-- In a queue in the order of age a sweep finds everything that is too old. -/
theorem Aged.takeExpired (aged : client.Aged) {index : Nat} {connection : Connection}
    (found : client.connections[index]? = some connection) :
    connection.takeExpired client.settings.requestTimeout client.now =
      (connection.inFlight.filter client.overdue ++ connection.queue.filter client.overdue,
        { connection with
          inFlight := connection.inFlight.filter (!client.overdue ·)
          queue := connection.queue.filter (!client.overdue ·) }) := by
  have order : InAgeOrder connection.queue := by
    have order := (aged index).1
    rw [requestsAt, found] at order
    exact order
  have head := order.head client.settings.requestTimeout client.now
  have taken := takeWhile_eq_filter head
  have left := dropWhile_eq_filter head
  simp only [Connection.takeExpired]
  rw [taken, left]
  rfl

/-- What a sweep makes of the requests of a connection that it does not evict. -/
structure Expires (client next : Client) (connection after : Connection) : Prop where
  queue : after.queue = connection.queue.filter (!client.overdue ·)
  inFlight : after.inFlight = connection.inFlight.filter (!client.overdue ·)
  failed : ∀ request ∈ connection.outstanding, client.overdue request = true →
    next.Resolved (request.fail .timeout)
  spared : ∀ request ∈ connection.outstanding, client.overdue request = false →
    ∀ notice ∈ next.notices, notice.ticket ≠ request.ticket

/-- A connection that a sweep does not evict. -/
theorem Sweeps.expires (sweeps : client.Sweeps) (h : client.Reachable) {entry : Address × Nat}
    (registered : entry ∈ client.registry) (busy : client.isIdle entry = false)
    {connection : Connection} (found : client.connections[entry.2]? = some connection) :
    ∃ after, (client.perform .turn).connections[entry.2]? = some after ∧
      client.Expires (client.perform .turn) connection after := by
  have swept := sweeps.swept
  have reachable : (client.perform .turn).Reachable := h.perform .turn
  have kept := swept.kept entry registered busy connection found
  have taken := h.aged.takeExpired found
  rw [taken] at kept
  refine ⟨_, kept, rfl, rfl, fun request outstanding old => ?_,
    fun request outstanding young notice mem same => ?_⟩
  · have posted : request.fail .timeout ∈ (client.perform .turn).posted := by
      refine (swept.posted _).2 (.inr (.inr ⟨entry, registered, busy, connection, found, request,
        ?_, rfl⟩))
      rw [taken]
      rcases List.mem_append.1 outstanding with queued | sent
      · exact List.mem_append_right _ (List.mem_filter.2 ⟨queued, old⟩)
      · exact List.mem_append_left _ (List.mem_filter.2 ⟨sent, old⟩)
    exact resolved_of_mem_notices reachable (List.mem_append_left _ (List.mem_append_left _ posted))
  · -- A request that has a notice is not outstanding.
    have resolved := resolved_of_mem_notices reachable mem
    have there : request ∈ (client.perform .turn).outstanding := by
      refine List.mem_append_left _ (List.mem_flatMap.2 ⟨_, List.mem_of_getElem? kept, ?_⟩)
      rcases List.mem_append.1 outstanding with queued | sent
      · exact List.mem_append_left _ (List.mem_filter.2 ⟨queued, by simp [young]⟩)
      · exact List.mem_append_right _ (List.mem_filter.2 ⟨sent, by simp [young]⟩)
    exact (resolved _ .refl).1 request there same.symm

/-- Nobody but a sweep lets a request fail with `timeout`, and only one that is overdue. -/
theorem exists_overdue (h : client.Reachable) {action : Action} {notice : Notice}
    (mem : notice ∈ (client.perform action).notices) (new : notice ∉ client.notices)
    (timeout : notice.outcome = .failure .timeout) : action = .turn ∧ client.Sweeps ∧
      ∃ entry ∈ client.registry, client.isIdle entry = false ∧ ∃ connection,
        client.connections[entry.2]? = some connection ∧ ∃ request ∈ connection.outstanding,
          client.overdue request = true ∧ request.fail .timeout = notice := by
  rcases swept_perform h.orderly mem new (by rw [timeout]; rfl) with ⟨rfl, sweeps⟩ |
    ⟨n, session, connection, -, -, -, -, request, -, rfl⟩
  · refine ⟨rfl, sweeps, ?_⟩
    have posted := (mem_notices_turn mem).resolve_left new
    rcases (sweeps.swept.posted notice).1 posted with
      old | ⟨entry, -, -, connection, -, request, -, rfl⟩ |
      ⟨entry, registered, busy, connection, found, request, taken, rfl⟩
    · exact absurd (List.mem_append_left _ (List.mem_append_left _ old)) new
    · cases timeout
    · rw [h.aged.takeExpired found] at taken
      refine ⟨entry, registered, busy, connection, found, request, ?_, ?_, rfl⟩
      · rcases List.mem_append.1 taken with sent | queued
        · exact List.mem_append_right _ (List.mem_filter.1 sent).1
        · exact List.mem_append_left _ (List.mem_filter.1 queued).1
      · rcases List.mem_append.1 taken with sent | queued
        · exact (List.mem_filter.1 sent).2
        · exact (List.mem_filter.1 queued).2
  · cases timeout

/-! ## The age of a call -/

/-- A ticket that occurs in a client was given out. -/
theorem lt_calls_of_load {P : Client → Prop} (h : client.ReachableWhile P) {ticket : Nat}
    (load : 0 < client.load ticket) : ticket < client.calls := by
  have all := h.load_le ticket
  by_contra ge
  rw [issued, if_neg ge] at all
  omega

theorem UnresolvedOn.lt_calls (h : client.Reachable) {index : Nat} {request : Request}
    (unresolved : client.UnresolvedOn index request) : request.ticket < client.calls := by
  have outstanding : request ∈ client.outstanding := by
    rcases unresolved with ⟨connection, found, mem⟩ | ⟨session, mem, -, held⟩
    · exact List.mem_append_left _ (List.mem_flatMap.2 ⟨_, List.mem_of_getElem? found, mem⟩)
    · exact List.mem_append_right _ (List.mem_filterMap.2 ⟨session, mem, held⟩)
  exact lt_calls_of_load h (Nat.add_pos_left (load_pos_of_mem_outstanding outstanding) _)

theorem ticket_lt_calls (h : client.Reachable) {notice : Notice} (mem : notice ∈ client.notices) :
    notice.ticket < client.calls :=
  lt_calls_of_load h (Nat.add_pos_right _ (List.count_pos_iff.2 (List.mem_map_of_mem mem)))

/-- A call was made at a moment: its request is of that age wherever it is, and it has failed with
`timeout` only if more than the timeout has passed. -/
structure MadeAt (ticket : Nat) (moment : Instant) (timeout : Duration) (client : Client) :
    Prop where
  reachable : client.Reachable
  made : ticket < client.calls
  settings : client.settings.requestTimeout = timeout
  age : ∀ index request, client.UnresolvedOn index request → request.ticket = ticket →
    request.queuedAt = moment
  late : ∀ notice ∈ client.notices, notice.ticket = ticket →
    notice.outcome = .failure .timeout → moment + timeout < client.now

theorem madeAt_send (h : client.Reachable) (call : Call) :
    MadeAt client.calls client.now client.settings.requestTimeout
      (client.perform (.send call)) where
  reachable := h.perform (.send call)
  made := by
    obtain ⟨-, -, -, calls⟩ := send_frame h.orderly.sound.valid call
    exact calls.symm ▸ Nat.lt_succ_self _
  settings := congrArg Settings.requestTimeout (send_frame h.orderly.sound.valid call).2.1
  age := by
    intro index request unresolved ticket
    rcases unresolved.of_perform h.orderly with ⟨before, there, same, -⟩ | ⟨-, queuedAt, -⟩
    · have lt := there.lt_calls h
      omega
    · exact queuedAt
  late := by
    intro notice mem ticket timeout
    rcases notices_send h.orderly.sound.valid call mem with old | other
    · have lt := ticket_lt_calls h old
      omega
    · rw [timeout] at other
      cases other

theorem MadeAt.perform {ticket : Nat} {moment : Instant} {timeout : Duration}
    (h : MadeAt ticket moment timeout client) (action : Action) :
    MadeAt ticket moment timeout (client.perform action) := by
  have orderly := h.reachable.orderly
  obtain ⟨now, settings, calls⟩ := (recorded_perform orderly.sound.valid action).later
  refine ⟨h.reachable.perform action, h.made.trans_le calls, ?_,
    fun index request unresolved same => ?_, fun notice mem same failed => ?_⟩
  · rw [settings, h.settings]
  · rcases unresolved.of_perform orderly with ⟨before, there, ticket', queuedAt⟩ | ⟨ticket', -⟩
    · exact queuedAt.symm.trans (h.age index before there (ticket'.trans same))
    · have made := h.made
      omega
  · by_cases old : notice ∈ client.notices
    · exact (h.late notice old same failed).trans_le now
    · obtain ⟨-, -, entry, -, -, connection, found, request, bound, overdue, rfl⟩ :=
        exists_overdue h.reachable mem old failed
      have age := h.age entry.2 request (.inl ⟨connection, found, bound⟩) same
      rw [Client.overdue, Request.isExpired, decide_eq_true_eq, age, h.settings] at overdue
      exact lt_of_lt_of_le overdue now

theorem MadeAt.run {ticket : Nat} {moment : Instant} {timeout : Duration} {later : Client}
    (h : MadeAt ticket moment timeout client) (run : Run client later) :
    MadeAt ticket moment timeout later := by
  induction run with
  | refl => exact h
  | tail _ _ action ih => exact ih.perform action

/-- All queues are always in the order of age. Therefore a sweep lets exactly those requests fail
with `timeout`, each once, that are queued or in flight on the connections that it does not evict
and are overdue, though it looks no further into a queue than to the first that is not. All others
stay where they are, in their order. Nothing else lets a request fail with `timeout`, and no request
does so before more than the timeout has passed since the call was made. -/
theorem sweep_expires_exactly (h : client.Reachable) :
    (∀ (index : Nat) connection, client.connections[index]? = some connection →
      InAgeOrder connection.queue) ∧
    (client.Sweeps →
      (∀ entry ∈ client.registry, client.isIdle entry = false → ∃ connection after,
        client.connections[entry.2]? = some connection ∧
        (client.perform .turn).connections[entry.2]? = some after ∧
        client.Expires (client.perform .turn) connection after) ∧
      (∀ index, (∀ entry ∈ client.registry, entry.2 ≠ index) →
        (client.perform .turn).connections[index]? = client.connections[index]?) ∧
      (client.perform .turn).sessions.map (fun session => (session.connection, session.held)) =
        client.sessions.map fun session => (session.connection, session.held)) ∧
    (∀ action, ∀ notice ∈ (client.perform action).notices, notice ∉ client.notices →
      notice.outcome = .failure .timeout → action = .turn ∧ client.Sweeps ∧
        ∃ entry ∈ client.registry, client.isIdle entry = false ∧ ∃ connection,
          client.connections[entry.2]? = some connection ∧ ∃ request ∈ connection.outstanding,
            client.overdue request = true ∧ request.fail .timeout = notice) ∧
    ∀ call later, Run (client.perform (.send call)) later →
      ∀ notice ∈ later.notices, notice.ticket = client.calls →
        notice.outcome = .failure .timeout →
          client.now + client.settings.requestTimeout < later.now := by
  refine ⟨fun index connection found => ?_, fun sweeps => ⟨fun entry registered busy => ?_,
    sweeps.swept.others, sweeps.swept.sessions⟩, fun action notice mem new timeout =>
    exists_overdue h mem new timeout, fun call later run => ((madeAt_send h call).run run).late⟩
  · have order := (h.aged index).1
    rw [requestsAt, found] at order
    exact order
  · have found := List.getElem?_eq_getElem (h.orderly.sound.valid entry registered)
    obtain ⟨after, found', expires⟩ := sweeps.expires h registered busy found
    exact ⟨_, after, found, found', expires⟩

end

/-- A client with two calls in a queue, of which the loop finds the first overdue when it sweeps. -/
def lagging : Client :=
  usual.performAll
    [.start, .elapse timerProbe, .turn, .send nullCall, .elapse (Duration.ofMillis 10000),
      .send nullCall, .turn, .elapse (Duration.ofMillis 5001)]

theorem reachable_lagging : lagging.Reachable := ⟨usual, built_usual, run_performAll usual _⟩

theorem sweep_expires_exactly_lagging : lagging.Sweeps ∧ ∃ connection after,
    lagging.connections[0]? = some connection ∧ connection.queue.length = 2 ∧
    (lagging.perform .turn).connections[0]? = some after ∧ after.queue.length = 1 ∧
    lagging.Expires (lagging.perform .turn) connection after := by
  have sweeps : lagging.Sweeps := by decide +kernel
  obtain ⟨expires, -, -⟩ := (sweep_expires_exactly reachable_lagging).2.1 sweeps
  obtain ⟨connection, after, found, found', exact⟩ :=
    expires (nullCall.target, 0) (by decide +kernel) (by decide +kernel)
  refine ⟨sweeps, connection, after, found, ?_, found', ?_, exact⟩
  · have length : lagging.connections[0]?.map (·.queue.length) = some 2 := by decide +kernel
    rw [found] at length
    exact Option.some.inj length
  · have length : (lagging.perform .turn).connections[0]?.map (·.queue.length) = some 1 := by
      decide +kernel
    rw [found'] at length
    exact Option.some.inj length

/-! ## What is being written -/

/-- A driver of the connection `index` is writing the request. -/
def Writes (client : Client) (index : Nat) (request : Request) : Prop :=
  ∃ session ∈ client.sessions, session.connection = index ∧ session.held = some request

section

variable {client : Client}

theorem writes_iff {index : Nat} {request : Request} : client.Writes index request ↔
    (index, some request) ∈
      client.sessions.map fun session => (session.connection, session.held) := by
  simp [Writes]

/-- In a turn no time passes. -/
theorem overdue_turn (client : Client) : (client.perform .turn).overdue = client.overdue := by
  rw [perform_turn_frame]
  rfl

/-- What is unresolved on a registered connection after a sweep is not overdue, unless a driver was
writing it. -/
theorem Sweeps.unresolved (sweeps : client.Sweeps) (h : client.Reachable) {entry : Address × Nat}
    (mem : entry ∈ (client.perform .turn).registry) {request : Request}
    (unresolved : (client.perform .turn).UnresolvedOn entry.2 request) :
    client.overdue request = false ∨ client.Writes entry.2 request := by
  have swept := sweeps.swept
  rw [swept.registry] at mem
  have registered := (List.mem_filter.1 mem).1
  have busy : client.isIdle entry = false := by simpa using (List.mem_filter.1 mem).2
  have found := List.getElem?_eq_getElem (h.orderly.sound.valid entry registered)
  obtain ⟨after, found', expires⟩ := sweeps.expires h registered busy found
  rcases unresolved with ⟨connection, there, outstanding⟩ | written
  · rw [found', Option.some.injEq] at there
    rw [← there, Connection.outstanding, expires.queue, expires.inFlight, ← List.filter_append]
      at outstanding
    exact .inl (by simpa using (List.mem_filter.1 outstanding).2)
  · right
    rw [writes_iff, ← swept.sessions, ← writes_iff]
    exact written

/-- What is overdue on a connection that a sweep does not evict, and not being written, fails. -/
theorem Sweeps.resolved (sweeps : client.Sweeps) (h : client.Reachable) {entry : Address × Nat}
    (registered : entry ∈ client.registry) (busy : client.isIdle entry = false) {request : Request}
    (unresolved : client.UnresolvedOn entry.2 request) (old : client.overdue request = true)
    (unwritten : ¬ client.Writes entry.2 request) :
    (client.perform .turn).Resolved (request.fail .timeout) := by
  rcases unresolved with ⟨connection, found, outstanding⟩ | written
  · obtain ⟨after, -, expires⟩ := sweeps.expires h registered busy found
    exact expires.failed request outstanding old
  · exact absurd written unwritten

/-- After a sweep the requests of registered connections that are overdue and unresolved are those
that a driver was writing when the sweep was made. All others that were overdue have failed with
`timeout`. -/
theorem overdue_after_sweep (h : client.Reachable) (sweeps : client.Sweeps) :
    ∀ entry ∈ (client.perform .turn).registry, ∀ request,
      ((client.perform .turn).UnresolvedOn entry.2 request ∧
          (client.perform .turn).overdue request = true ↔
        client.Writes entry.2 request ∧ client.overdue request = true) ∧
      (client.UnresolvedOn entry.2 request → client.overdue request = true →
        ¬ client.Writes entry.2 request →
          (client.perform .turn).Resolved (request.fail .timeout)) := by
  intro entry mem request
  have kept := mem
  rw [sweeps.swept.registry] at kept
  have registered := (List.mem_filter.1 kept).1
  have busy : client.isIdle entry = false := by simpa using (List.mem_filter.1 kept).2
  rw [overdue_turn]
  refine ⟨and_congr_left fun old => ⟨fun unresolved => ?_, fun written => .inr ?_⟩,
    fun unresolved old unwritten => sweeps.resolved h registered busy unresolved old unwritten⟩
  · rcases sweeps.unresolved h mem unresolved with young | written
    · rw [old] at young
      cases young
    · exact written
  · rw [writes_iff, ← sweeps.swept.sessions, ← writes_iff] at written
    exact written

end

/-- A client whose driver has written a part of its request when this gets overdue. -/
def stalling : Client :=
  usual.performAll
    [.start, .elapse timerProbe, .turn, .plan { budget := some 10 }, .send nullCall, .turn,
      .drive 0, .drive 0, .drive 0, .drive 0, .drive 0, .drive 0, .drive 0, .drive 0, .drive 0,
      .elapse (Duration.ofMillis 15001)]

theorem reachable_stalling : stalling.Reachable := ⟨usual, built_usual, run_performAll usual _⟩

theorem exists_written_stalling : ∃ request, stalling.Writes 0 request ∧
    stalling.overdue request = true := by
  obtain ⟨session, found⟩ : ∃ session, stalling.sessions[0]? = some session :=
    Option.isSome_iff_exists.1 (by decide +kernel)
  have facts : stalling.sessions[0]?.all (fun session => session.connection == 0 &&
      session.held.any stalling.overdue) = true := by
    decide +kernel
  rw [found] at facts
  simp only [Option.all_some, Bool.and_eq_true, beq_iff_eq, Option.any_eq_true] at facts
  obtain ⟨own, request, held, old⟩ := facts
  exact ⟨request, ⟨session, List.mem_of_getElem? found, own, held⟩, old⟩

theorem overdue_after_sweep_stalling : ∃ request,
    (stalling.perform .turn).UnresolvedOn 0 request ∧
      (stalling.perform .turn).overdue request = true := by
  have sweeps : stalling.Sweeps := by decide +kernel
  obtain ⟨request, written, old⟩ := exists_written_stalling
  exact ⟨request, ((overdue_after_sweep reachable_stalling sweeps (nullCall.target, 0)
    (by decide +kernel) request).1.2 ⟨written, old⟩)⟩

/-- A sweep leaves a request alone that a driver has written a part of, however old it is. -/
theorem written_outlives_sweep : ¬ ∀ client : Client, client.Reachable → client.Sweeps →
    ∀ entry ∈ (client.perform .turn).registry, ∀ request,
      (client.perform .turn).UnresolvedOn entry.2 request →
        (client.perform .turn).overdue request = false := by
  intro all
  have sweeps : stalling.Sweeps := by decide +kernel
  obtain ⟨request, written, old⟩ := exists_written_stalling
  rw [writes_iff, ← sweeps.swept.sessions, ← writes_iff] at written
  have young := all stalling reachable_stalling sweeps (nullCall.target, 0) (by decide +kernel)
    request (.inr written)
  rw [overdue_turn, old] at young
  cases young

end Client

end RemoteCall
