import RemoteCall.Proofs.Client.Records

/-!
# How requests age

A request keeps the moment at which it was queued, and it stays with the connection on which it was
queued. Calls come to the end of a queue, so queues are in the order of age. Only a sweep lets
requests fail as sweeps do, or a driver that a sweep has asked to close.
-/
namespace RemoteCall

@[simp] theorem Request.queuedAt_markSent (request : Request) (now : Instant) :
    (request.markSent now).queuedAt = request.queuedAt := by
  unfold markSent; split <;> rfl

/-- A driver takes requests from a queue and adds none. -/
theorem Driven.queue {session session' : Session} {connection connection' : Connection}
    {notices : List Notice} {displaced : Option Request}
    (h : Driven session connection session' connection' notices displaced) :
    connection'.queue.Sublist connection.queue := by
  cases h with
  | stayed own shared link live taken exchanges => rw [shared.queue]
  | connected own shared before after => rw [shared.queue]
  | tookUp own phase before free held queue shared
  | refused failure own phase before queue shared =>
    rw [shared.queue, queue]
    exact List.sublist_cons_self _ _
  | transmitted now own phase before held free shared =>
    rw [shared.queue]
    exact List.Sublist.refl _
  | answered xid now own phase before inFlight ticket shared =>
    rw [shared.queue]
    exact List.Sublist.refl _
  | tornDown reason own phase live free shared asked =>
    rw [shared.queue]
    exact List.nil_sublist _
  | connectFailed cause own phase before unasked shared =>
    rw [shared.queue]
    exact List.nil_sublist _

namespace Client

section

variable {client next : Client} {action : Action}

/-! ## Queues -/

/-- No queue gets longer, or changes its order. -/
def Shortens (client next : Client) : Prop :=
  ∀ index, (next.requestsAt (.queue index)).Sublist (client.requestsAt (.queue index))

namespace Shortens

theorem of_same (connections : next.connections = client.connections) : client.Shortens next := by
  intro index
  rw [requestsAt, requestsAt, connections]

/-- A connection is put back with a part of its queue. -/
theorem set {index : Nat} {before after : Connection}
    (found : client.connections[index]? = some before) (queue : after.queue.Sublist before.queue)
    (connections : next.connections = client.connections.set index after) :
    client.Shortens next := by
  intro other
  rw [requestsAt, requestsAt, connections]
  by_cases here : index = other
  · subst here
    obtain ⟨lt, -⟩ := List.getElem?_eq_some_iff.1 found
    rw [List.getElem?_set_self lt, found]
    exact queue
  · rw [List.getElem?_set_ne here]

/-- The loop takes requests from queues and adds none. -/
theorem turnRelation : TurnRelation Shortens fun _ _ => True where
  refl _ := of_same rfl
  trans first second := fun index => (second index).trans (first index)
  fresh _ before := before
  noted same := by
    rw [same]
    exact of_same rfl
  retired client index reason := by
    cases hc : client.connections[index]? with
    | none =>
      rw [retireAndFail_eq_self hc]
      exact of_same rfl
    | some connection =>
      rw [retireAndFail_eq hc]
      exact set hc (List.nil_sublist _) rfl
  expired client index := by
    cases hc : client.connections[index]? with
    | none =>
      rw [takeExpired_eq_self hc]
      exact of_same rfl
    | some connection =>
      rw [takeExpired_eq hc]
      exact set hc (List.dropWhile_sublist _) rfl
  failed _ _ := of_same rfl
  spawned client n _ := by
    rw [spawn_frame]
    exact of_same rfl
  discarded client n _ := by
    unfold discard
    split
    · exact of_same rfl
    · simp only
      split
      · exact of_same rfl
      · rename_i connection hc
        exact set hc (List.nil_sublist _) rfl

end Shortens

/-- A queue is a part of what it was, and behind it what is pushed now, on a connection that is not
asked to close. -/
def Queues (client next : Client) (index : Nat) (new : Request → Prop) : Prop :=
  ∃ more, (next.requestsAt (.queue index)).Sublist (client.requestsAt (.queue index) ++ more) ∧
    ∀ request ∈ more, new request ∧ ∃ after, next.connections[index]? = some after ∧
      after.lastUsed = client.now ∧ after.closeReason = none

theorem Shortens.queues (h : client.Shortens next) (index : Nat) (new : Request → Prop) :
    client.Queues next index new :=
  ⟨[], by rw [List.append_nil]; exact h index, List.forall_mem_nil _⟩

/-- The connection that a call finds is not asked to close. -/
theorem Located.closeReason (sound : client.Sound) {target : Address} {index : Nat}
    {connection : Connection} (h : client.Located target index connection next) :
    connection.closeReason = none := by
  cases h with
  | known registered found =>
    simp only [registered?, Option.map_eq_some_iff] at registered
    obtain ⟨entry, hentry, rfl⟩ := registered
    exact sound.unasked entry (List.mem_of_find?_eq_some hentry) connection found
  | fresh unknown number => rfl

theorem Located.shortens {target : Address} {index : Nat} {connection : Connection}
    (h : client.Located target index connection next) : client.Shortens next := by
  cases h with
  | known registered found => exact .of_same rfl
  | fresh unknown number =>
    intro other
    rw [requestsAt, requestsAt]
    by_cases lt : other < client.connections.length
    · rw [List.getElem?_append_left lt]
    · rcases Nat.eq_or_lt_of_not_lt lt with here | beyond
      · rw [here, List.getElem?_concat_length]
        exact List.nil_sublist _
      · rw [List.getElem?_eq_none (by simp; omega)]
        exact List.nil_sublist _

theorem Placed.queues {index : Nat} {connection : Connection} {request : Request}
    (h : client.Placed index connection request next)
    (found : client.connections[index]? = some connection)
    (unasked : connection.closeReason = none) (other : Nat) :
    client.Queues next other (· = request) := by
  have pushed {after : Connection} (queue : after.queue = connection.queue ++ [request])
      (used : after.lastUsed = client.now) (asked : after.closeReason = none)
      (connections : next.connections = client.connections.set index after) :
      client.Queues next other (· = request) := by
    obtain ⟨lt, -⟩ := List.getElem?_eq_some_iff.1 found
    by_cases here : index = other
    · subst here
      have there : next.connections[index]? = some after := by
        rw [connections]
        exact List.getElem?_set_self lt
      refine ⟨[request], ?_, List.forall_mem_singleton.2 ⟨rfl, after, there, used, asked⟩⟩
      rw [requestsAt, requestsAt, there, found]
      exact (congrArg (List.Sublist after.queue) queue).mp (List.Sublist.refl _)
    · refine ⟨[], ?_, List.forall_mem_nil _⟩
      rw [List.append_nil, requestsAt, requestsAt, connections, List.getElem?_set_ne here]
  have emptied {after : Connection} (queue : after.queue = [])
      (connections : next.connections = client.connections.set index after) :
      client.Queues next other (· = request) :=
    (Shortens.set found (by rw [queue]; exact List.nil_sublist _) connections).queues other _
  cases h with
  | refused down =>
    have same : client.Shortens (client.reject [request] .shutDown) := .of_same rfl
    exact same.queues other _
  | queued up link owed => exact pushed (by rfl) (by rfl) (by exact unasked) rfl
  | opened up link permitted accepted session =>
    exact pushed (by rfl) (by rfl) (by exact unasked) rfl
  | blocked up link spent => exact emptied (by rfl) rfl
  | failed up link permitted cause refused unused => exact emptied (by rfl) rfl
  | gone up link permitted accepted shut session => exact emptied (by rfl) rfl

theorem queues_send (sound : client.Sound) (call : Call) (index : Nat) :
    client.Queues (client.send call) index fun request =>
      ∃ header, request = { client.requestFor call with header := header } := by
  have counted : client.countCall.Sound := sound.of_same rfl id id Iff.rfl
  rcases malformed_or_placed sound.valid call with ⟨failure, -, changed⟩ |
    ⟨header, -, here, connection, located, found, placed⟩
  · rw [changed]
    have same : client.Shortens (client.countCall.reject [client.requestFor call] failure) :=
      .of_same rfl
    exact same.queues index _
  · have now : located.now = client.now := by rw [found.frame]; rfl
    obtain ⟨more, sub, recent⟩ := placed.queues found.found (found.closeReason counted) index
    rw [now] at recent
    refine ⟨more, sub.trans ((found.shortens index).append_right more), fun request mem => ?_⟩
    obtain ⟨same, after⟩ := recent request mem
    exact ⟨⟨header, same⟩, after⟩

/-- An action is a call, or no request is pushed and no id is taken. -/
theorem sends_or_shortens (client : Client) (action : Action) :
    (∃ call, client.perform action = client.send call) ∨
      client.Shortens (client.perform action) ∧ (client.perform action).calls = client.calls ∧
        (client.perform action).nextXid = client.nextXid := by
  have performed := client.performed_perform action
  generalize client.perform action = next at performed
  have idle {next : Client} (connections : next.connections = client.connections)
      (calls : next.calls = client.calls) (nextXid : next.nextXid = client.nextXid) :
      (∃ call, next = client.send call) ∨ client.Shortens next ∧ next.calls = client.calls ∧
        next.nextXid = client.nextXid :=
    .inr ⟨.of_same connections, calls, nextXid⟩
  cases performed with
  | sent call => exact .inl ⟨call, rfl⟩
  | turned free turned =>
    refine .inr ⟨Shortens.turnRelation.turned turned fun _ _ => trivial, ?_, ?_⟩
    · rw [turned.frame]
    · rw [turned.frame]
  | driven n found bound waited driven changed =>
    rw [changed]
    exact .inr ⟨.set bound driven.queue rfl, rfl, rfl⟩
  | toldPosted position found =>
    rw [deliver_eq]
    exact idle rfl rfl rfl
  | toldRejected position found =>
    rw [deliver_eq]
    exact idle rfl rfl rfl
  | notified found => exact .inr ⟨.set found (by exact List.Sublist.refl _) rfl, rfl, rfl⟩
  | changed found channel shut accepted => exact idle rfl rfl rfl
  | started up loop deadline => exact idle rfl rfl rfl
  | abandoned up loop =>
    rw [abandonLoop_frame]
    exact idle rfl rfl rfl
  | ended loop =>
    refine .inr ⟨Shortens.turnRelation.failOutstanding { client with shuttingDown := true }, ?_, ?_⟩
    · rw [failOutstanding_frame]
    · rw [failOutstanding_frame]
  | flagged loop => exact idle rfl rfl rfl
  | aside same =>
    rw [same]
    exact idle rfl rfl rfl

/-- What an action makes of a queue. -/
theorem queues_perform (h : client.Orderly) (action : Action) (index : Nat) :
    client.Queues (client.perform action) index fun request =>
      ∃ call header, request = { client.requestFor call with header := header } := by
  rcases client.sends_or_shortens action with ⟨call, sent⟩ | ⟨short, -, -⟩
  · obtain ⟨more, sub, recent⟩ := queues_send h.sound call index
    rw [sent]
    refine ⟨more, sub, fun request mem => ?_⟩
    obtain ⟨same, after⟩ := recent request mem
    exact ⟨⟨call, same⟩, after⟩
  · exact short.queues index _

/-! ## Unresolved requests -/

/-- The loop leaves sessions with their connections. -/
theorem turnRelation_owners : TurnRelation (fun client next =>
    next.sessions.map Session.connection = client.sessions.map Session.connection)
      fun _ _ => True :=
  .of_sessions
    (fun before after => after.map Session.connection = before.map Session.connection)
    (fun _ => rfl) (fun first second => second.trans first)
    (fun found => map_set_of_eq _ found rfl) fun found => map_set_of_eq _ found rfl

theorem Placed.sessions {index : Nat} {connection : Connection} {request : Request}
    (h : client.Placed index connection request next) :
    ∃ more, next.sessions = client.sessions ++ more := by
  cases h with
  | refused down => exact ⟨[], (List.append_nil _).symm⟩
  | queued up link owed => exact ⟨[], (List.append_nil _).symm⟩
  | blocked up link spent => exact ⟨[], (List.append_nil _).symm⟩
  | opened up link permitted accepted session => exact ⟨[session], rfl⟩
  | failed up link permitted cause refused unused => exact ⟨unused, rfl⟩
  | gone up link permitted accepted shut session => exact ⟨[session], rfl⟩

/-- A call adds sessions and leaves those that are there. -/
theorem exists_sessions_send (valid : client.RegistryValid) (call : Call) :
    ∃ more, (client.send call).sessions = client.sessions ++ more := by
  rcases malformed_or_placed valid call with ⟨failure, -, changed⟩ |
    ⟨header, -, index, connection, located, found, placed⟩
  · rw [changed]
    exact ⟨[], (List.append_nil _).symm⟩
  · obtain ⟨more, sessions⟩ := placed.sessions
    refine ⟨more, ?_⟩
    rw [sessions, found.frame]
    rfl

/-- A session stays with its connection. -/
theorem owners_perform (h : client.Orderly) (action : Action) :
    client.sessions.map Session.connection <+:
      (client.perform action).sessions.map Session.connection := by
  have same {next : Client} (sessions : next.sessions = client.sessions) :
      client.sessions.map Session.connection <+: next.sessions.map Session.connection := by
    rw [sessions]
  have performed := client.performed_perform action
  generalize client.perform action = next at performed
  cases performed with
  | sent call =>
    obtain ⟨more, sessions⟩ := exists_sessions_send h.sound.valid call
    rw [sessions, List.map_append]
    exact List.prefix_append _ _
  | turned free turned =>
    rw [turnRelation_owners.turned turned fun _ _ => trivial]
  | driven n found bound waited driven changed =>
    rw [changed]
    have own := map_set_of_eq Session.connection found driven.own
    rw [own]
  | toldPosted position found =>
    rw [deliver_eq]
  | toldRejected position found =>
    rw [deliver_eq]
  | notified found => exact same rfl
  | changed found channel shut accepted =>
    rename_i n session
    have own : ({ session with channel := channel } : Session).connection = session.connection :=
      rfl
    have owners := map_set_of_eq Session.connection found own
    exact (congrArg _ owners).mpr List.prefix_rfl
  | started up loop deadline => exact same rfl
  | abandoned up loop =>
    have owners := map_abandonLoop Session.connection (fun _ => rfl) client
    rw [owners]
  | ended loop =>
    have failed := turnRelation_owners.failOutstanding { client with shuttingDown := true }
    exact (congrArg _ failed).mpr List.prefix_rfl
  | flagged loop => exact same rfl
  | aside same' => exact same (by rw [same'])

theorem unresolvedOn_iff {index : Nat} {request : Request} :
    client.UnresolvedOn index request ↔ request ∈ client.requestsAt (.queue index) ∨
      request ∈ client.requestsAt (.inFlight index) ∨ ∃ n session,
        client.sessions[n]? = some session ∧ session.connection = index ∧
          request ∈ client.requestsAt (.cursor n) := by
  constructor
  · rintro (⟨connection, found, mem⟩ | ⟨session, mem, own, held⟩)
    · rcases List.mem_append.1 mem with queued | sent
      · exact .inl (mem_queue.2 ⟨connection, found, queued⟩)
      · exact .inr (.inl (mem_inFlight.2 ⟨connection, found, sent⟩))
    · obtain ⟨n, found⟩ := List.mem_iff_getElem?.1 mem
      exact .inr (.inr ⟨n, session, found, own, mem_cursor.2 ⟨session, found, held⟩⟩)
  · rintro (queued | sent | ⟨n, session, found, own, mem⟩)
    · obtain ⟨connection, found, queued⟩ := mem_queue.1 queued
      exact .inl ⟨connection, found, List.mem_append_left _ queued⟩
    · obtain ⟨connection, found, sent⟩ := mem_inFlight.1 sent
      exact .inl ⟨connection, found, List.mem_append_right _ sent⟩
    · obtain ⟨other, found', held⟩ := mem_cursor.1 mem
      rw [found, Option.some.injEq] at found'
      exact .inr ⟨session, List.mem_of_getElem? found, own, found' ▸ held⟩

/-- What is unresolved on a connection was so before, with the same age, or is pushed now on a
connection that is not asked to close. -/
theorem UnresolvedOn.of_perform (h : client.Orderly) {index : Nat} {request : Request}
    (unresolved : (client.perform action).UnresolvedOn index request) :
    (∃ before, client.UnresolvedOn index before ∧ before.ticket = request.ticket ∧
      before.queuedAt = request.queuedAt) ∨
    request.ticket = client.calls ∧ request.queuedAt = client.now ∧ ∃ after,
      (client.perform action).connections[index]? = some after ∧
        after.lastUsed = client.now ∧ after.closeReason = none := by
  have advances := advances_perform h action
  have old {request : Request} (mem : request ∈ client.requestsAt (.queue index) ∨
      request ∈ client.requestsAt (.inFlight index) ∨ ∃ n session,
        client.sessions[n]? = some session ∧ session.connection = index ∧
          request ∈ client.requestsAt (.cursor n)) :
      ∃ before, client.UnresolvedOn index before ∧ before.ticket = request.ticket ∧
        before.queuedAt = request.queuedAt :=
    ⟨request, unresolvedOn_iff.2 mem, rfl, rfl⟩
  rcases unresolvedOn_iff.1 unresolved with queued | sent | ⟨n, after, found, own, mem⟩
  · obtain ⟨new, sub, recent⟩ := queues_perform h action index
    rcases List.mem_append.1 (sub.subset queued) with before | pushed
    · exact .inl (old (.inl before))
    · obtain ⟨⟨call, header, rfl⟩, after⟩ := recent request pushed
      exact .inr ⟨rfl, rfl, after⟩
  · rcases advances.inFlight index request sent with
      before | ⟨n, session, written, now, found, own, mem, rfl⟩
    · exact .inl (old (.inr (.inl before)))
    · obtain ⟨before, there, ticket, queuedAt⟩ := old (.inr (.inr ⟨n, session, found, own, mem⟩))
      exact .inl ⟨before, there, ticket.trans (Request.ticket_markSent _ _).symm,
        queuedAt.trans (Request.queuedAt_markSent _ _).symm⟩
  · have owner {session : Session} (before : client.sessions[n]? = some session) :
        session.connection = index := by
      obtain ⟨same, found', connection⟩ :=
        exists_of_prefix_map (owners_perform h action) before
      rw [found, Option.some.injEq] at found'
      rw [← connection, ← found', own]
    rcases advances.cursor n request mem with before | ⟨session, found', queued⟩
    · obtain ⟨session, found', -⟩ := mem_cursor.1 before
      exact .inl (old (.inr (.inr ⟨n, session, found', owner found', before⟩)))
    · rw [owner found'] at queued
      exact .inl (old (.inl queued))

/-! ## Notices that come from sweeps -/

theorem isSwept_of_encode {header : CallHeader} {credentials : Option Message} {failure : Failure}
    (encoded : header.encode credentials = .error failure) : failure.isSwept = false := by
  unfold CallHeader.encode CallHeader.encodeCredentials at encoded
  cases credentials with
  | none => cases encoded
  | some message =>
    simp only at encoded
    split at encoded
    · cases encoded
      rfl
    · cases encoded

/-- A request that cannot be sent does not fail because of a sweep. -/
theorem Placed.rejected {index : Nat} {connection : Connection} {request : Request}
    (h : client.Placed index connection request next) :
    ∃ (requests : List Request) (failure : Failure), failure.isSwept = false ∧
      next.rejected = client.rejected ++ requests.map fun request => request.fail failure := by
  have none : ∃ (requests : List Request) (failure : Failure), failure.isSwept = false ∧
      client.rejected = client.rejected ++ requests.map fun request => request.fail failure :=
    ⟨[], .shutDown, rfl, (List.append_nil _).symm⟩
  cases h with
  | refused down => exact ⟨[request], .shutDown, rfl, rfl⟩
  | queued up link owed => exact none
  | blocked up link spent => exact ⟨_, _, rfl, rfl⟩
  | opened up link permitted accepted session => exact none
  | failed up link permitted cause refused unused => exact ⟨_, _, rfl, rfl⟩
  | gone up link permitted accepted shut session => exact ⟨_, .shutDown, rfl, rfl⟩

theorem notices_send (valid : client.RegistryValid) (call : Call) {notice : Notice}
    (mem : notice ∈ (client.send call).notices) :
    notice ∈ client.notices ∨ notice.outcome.isSwept = false := by
  obtain ⟨posted, told, requests, failure, kind, rejected⟩ :
      (client.send call).posted = client.posted ∧ (client.send call).told = client.told ∧
        ∃ (requests : List Request) (failure : Failure), failure.isSwept = false ∧
          (client.send call).rejected =
            client.rejected ++ requests.map fun request => request.fail failure := by
    rcases malformed_or_placed valid call with ⟨failure, encoded, changed⟩ |
      ⟨header, -, index, connection, located, found, placed⟩
    · rw [changed]
      exact ⟨rfl, rfl, [client.requestFor call], failure, isSwept_of_encode encoded, rfl⟩
    · have rejected := placed.rejected
      have same : located.rejected = client.rejected := by
        rw [found.frame]
        rfl
      rw [same] at rejected
      refine ⟨?_, ?_, rejected⟩
      · rw [placed.frame, found.frame]
        rfl
      · rw [placed.frame, found.frame]
        rfl
  rw [notices, posted, told, rejected, List.mem_append, List.mem_append, List.mem_append] at mem
  rcases mem with (old | old | new) | old
  · exact .inl (List.mem_append_left _ (List.mem_append_left _ old))
  · exact .inl (List.mem_append_left _ (List.mem_append_right _ old))
  · obtain ⟨request, -, rfl⟩ := List.mem_map.1 new
    exact .inr kind
  · exact .inl (List.mem_append_right _ old)

/-- A request ends because of a sweep either in one, or when the driver of its connection does what
a sweep has asked it to. -/
theorem swept_perform (h : client.Orderly) {notice : Notice}
    (mem : notice ∈ (client.perform action).notices) (new : notice ∉ client.notices)
    (kind : notice.outcome.isSwept = true) :
    action = .turn ∧ client.Sweeps ∨ ∃ n session connection, action = .drive n ∧
      client.sessions[n]? = some session ∧
      client.connections[session.connection]? = some connection ∧
      connection.closeReason = some .idle ∧
      ∃ request ∈ session.held.toList ++ connection.outstanding,
        request.fail (.connectionClosed connection.endpoint .idle) = notice := by
  have sent {call : Call} (send : action = .send call) : False := by
    rw [send] at mem
    rcases notices_send h.sound.valid call mem with old | other
    · exact new old
    · rw [other] at kind
      cases kind
  have recorded := recorded_perform h.sound.valid action
  generalize client.perform action = next at mem recorded
  cases recorded with
  | malformed call encoded => exact (sent rfl).elim
  | placed call encoded found placed => exact (sent rfl).elim
  | swept sweeps swept passing records => exact .inl ⟨rfl, sweeps⟩
  | aside aside =>
    rcases aside.notices notice mem with old | ⟨request, rfl⟩
    · exact absurd old new
    · cases kind
  | tended n found bound tended frame =>
    rename_i session connection
    obtain ⟨session', connection', notices, tended, -, -, posted⟩ := tended
    have told : next.rejected = client.rejected ∧ next.told = client.told := by
      rw [frame]
      exact ⟨rfl, rfl⟩
    have there : notice ∈ notices := by
      rw [Client.notices, posted, told.1, told.2] at mem
      by_contra absent
      refine new ?_
      simp only [Client.notices, List.mem_append] at mem ⊢
      tauto
    right
    cases tended with
    | retained record connects swept =>
      obtain ⟨asked, request, bound', rfl⟩ := swept notice there kind
      exact ⟨n, session, connection, rfl, found, bound, asked, request, bound', rfl⟩
    | connected before after => cases there
    | failed cause before after unasked =>
      obtain ⟨request, -, rfl⟩ := List.mem_map.1 there
      cases kind

end

end Client

end RemoteCall
