import RemoteCall.Proofs.Client.Accounting

/-!
# How requests move

A call comes to a queue, what is queued comes to the session of the connection, and what a session
has written comes to the requests in flight on its connection. From anywhere a request may end, and
there is no other way. The loop only takes requests away.
-/
namespace RemoteCall

/-- Where the requests of a connection and a session come from in a step of the driver. -/
structure Driven.Sources (session : Session) (connection : Connection) (session' : Session)
    (connection' : Connection) : Prop where
  queue : ∀ request ∈ connection'.queue, request ∈ connection.queue
  held : ∀ request, session'.held = some request →
    session.held = some request ∨ request ∈ connection.queue
  inFlight : ∀ request ∈ connection'.inFlight, request ∈ connection.inFlight ∨
    ∃ written now, session.held = some written ∧ request = written.markSent now

theorem Driven.Sources.of_queue {session session' : Session} {connection connection' : Connection}
    (own : session'.held = session.held)
    (queue : ∀ request ∈ connection'.queue, request ∈ connection.queue)
    (inFlight : ∀ request ∈ connection'.inFlight, request ∈ connection.inFlight) :
    Sources session connection session' connection' :=
  ⟨queue, fun _ held => .inl (own ▸ held), fun request mem => .inl (inFlight request mem)⟩

/-- A driver takes requests up from the queue and puts in flight what it has written. -/
theorem Driven.sources {session session' : Session} {connection connection' : Connection}
    {notices : List Notice} {displaced : Option Request}
    (h : Driven session connection session' connection' notices displaced) :
    Sources session connection session' connection' := by
  have same {first second : List Request} (eq : second = first) :
      ∀ request ∈ second, request ∈ first := fun _ mem => eq ▸ mem
  cases h with
  | stayed own shared link live taken exchanges =>
    exact .of_queue own.held (same shared.queue) (same shared.inFlight)
  | connected own shared before after =>
    exact .of_queue own.held (same shared.queue) (same shared.inFlight)
  | tookUp own phase before free held queue shared =>
    rename_i request later
    refine ⟨fun other mem => ?_, fun other other_held => .inr ?_, fun other mem => .inl ?_⟩
    · rw [shared.queue] at mem
      rw [queue]
      exact List.mem_cons_of_mem _ mem
    · rw [held, Option.some.injEq] at other_held
      rw [queue, ← other_held]
      exact List.mem_cons_self
    · rw [shared.inFlight] at mem
      exact mem
  | refused failure own phase before queue shared =>
    refine .of_queue own.held (fun other mem => ?_) (same shared.inFlight)
    rw [shared.queue] at mem
    rw [queue]
    exact List.mem_cons_of_mem _ mem
  | transmitted now own phase before held free shared =>
    rename_i request
    refine ⟨fun other mem => ?_, fun other other_held => ?_, fun other mem => ?_⟩
    · rw [shared.queue] at mem
      exact mem
    · rw [free] at other_held
      cases other_held
    · rw [shared.inFlight] at mem
      rcases List.mem_append.1 mem with old | new
      · exact .inl (List.mem_of_mem_eraseP old)
      · rw [List.mem_singleton.1 new]
        exact .inr ⟨request, now, held, rfl⟩
  | answered xid now own phase before inFlight ticket shared =>
    refine .of_queue own.held (same shared.queue) fun other mem => ?_
    rw [shared.inFlight] at mem
    exact List.mem_of_mem_eraseP mem
  | tornDown reason own phase live free shared asked =>
    refine ⟨fun other mem => ?_, fun other other_held => ?_, fun other mem => ?_⟩
    · rw [shared.queue] at mem
      cases mem
    · rw [free] at other_held
      cases other_held
    · rw [shared.inFlight] at mem
      cases mem
  | connectFailed cause own phase before unasked shared =>
    refine .of_queue own.held (fun other mem => ?_) fun other mem => ?_
    · rw [shared.queue] at mem
      cases mem
    · rw [shared.inFlight] at mem
      cases mem

namespace Client

/-! ## Being in a place -/

/-- The requests in a place; those that are resolved are gone. -/
def requestsAt (client : Client) : Place → List Request
  | .queue index => (client.connections[index]?.map Connection.queue).getD []
  | .cursor n => (client.sessions[n]?.map fun session => session.held.toList).getD []
  | .inFlight index => (client.connections[index]?.map Connection.inFlight).getD []
  | .resolved => []

section

variable {client : Client}

theorem ticketsAt_eq {place : Place} (unresolved : place ≠ .resolved) :
    client.ticketsAt place = (client.requestsAt place).map Request.ticket := by
  cases place with
  | queue index => cases hc : client.connections[index]? <;> simp [ticketsAt, requestsAt, hc]
  | cursor n => cases hs : client.sessions[n]? <;> simp [ticketsAt, requestsAt, hs]
  | inFlight index => cases hc : client.connections[index]? <;> simp [ticketsAt, requestsAt, hc]
  | resolved => exact absurd rfl unresolved

variable {request : Request}

theorem ticket_mem {place : Place} (mem : request ∈ client.requestsAt place) :
    request.ticket ∈ client.ticketsAt place := by
  have unresolved : place ≠ .resolved := fun resolved => by
    rw [resolved] at mem
    cases mem
  rw [ticketsAt_eq unresolved]
  exact List.mem_map_of_mem mem

theorem mem_queue {index : Nat} : request ∈ client.requestsAt (.queue index) ↔
    ∃ connection, client.connections[index]? = some connection ∧ request ∈ connection.queue := by
  cases hc : client.connections[index]? <;> simp [requestsAt, hc]

theorem mem_inFlight {index : Nat} : request ∈ client.requestsAt (.inFlight index) ↔
    ∃ connection, client.connections[index]? = some connection ∧ request ∈ connection.inFlight := by
  cases hc : client.connections[index]? <;> simp [requestsAt, hc]

theorem mem_cursor {n : Nat} : request ∈ client.requestsAt (.cursor n) ↔
    ∃ session, client.sessions[n]? = some session ∧ session.held = some request := by
  cases hs : client.sessions[n]? <;> simp [requestsAt, hs]

end

/-! ## Withdrawing -/

/-- Nothing comes to a queue, to a session or to what is in flight. -/
def Withdraws (client next : Client) : Prop :=
  ∀ place, next.requestsAt place ⊆ client.requestsAt place

namespace Withdraws

variable {client middle next : Client}

theorem trans (first : client.Withdraws middle) (second : middle.Withdraws next) :
    client.Withdraws next := fun place => List.Subset.trans (second place) (first place)

/-- Every connection and every session that is there then was there before, with no less. -/
theorem of_parts
    (connections : ∀ (index : Nat) after, next.connections[index]? = some after →
      after.outstanding = [] ∨ ∃ before, client.connections[index]? = some before ∧
        after.queue ⊆ before.queue ∧ after.inFlight ⊆ before.inFlight)
    (sessions : ∀ (n : Nat) after, next.sessions[n]? = some after →
      after.held = none ∨ ∃ before, client.sessions[n]? = some before ∧ after.held = before.held) :
    client.Withdraws next := by
  intro place request mem
  cases place with
  | queue index =>
    obtain ⟨after, hafter, queued⟩ := mem_queue.1 mem
    rcases connections index after hafter with empty | ⟨before, hbefore, queue, -⟩
    · rw [(List.append_eq_nil_iff.1 empty).1] at queued
      cases queued
    · exact mem_queue.2 ⟨before, hbefore, queue queued⟩
  | inFlight index =>
    obtain ⟨after, hafter, sent⟩ := mem_inFlight.1 mem
    rcases connections index after hafter with empty | ⟨before, hbefore, -, inFlight⟩
    · rw [(List.append_eq_nil_iff.1 empty).2] at sent
      cases sent
    · exact mem_inFlight.2 ⟨before, hbefore, inFlight sent⟩
  | cursor n =>
    obtain ⟨after, hafter, held⟩ := mem_cursor.1 mem
    rcases sessions n after hafter with free | ⟨before, hbefore, own⟩
    · rw [free] at held
      cases held
    · exact mem_cursor.2 ⟨before, hbefore, own ▸ held⟩
  | resolved => cases mem

theorem of_held (connections : next.connections = client.connections)
    (held : next.sessions.map Session.held = client.sessions.map Session.held) :
    client.Withdraws next := by
  refine of_parts (fun index after hafter => .inr ⟨after, ?_, fun _ h => h, fun _ h => h⟩)
    fun n after hafter => ?_
  · rw [← connections]
    exact hafter
  · obtain ⟨before, hbefore, own⟩ := exists_of_map_eq held hafter
    exact .inr ⟨before, hbefore, own.symm⟩

theorem of_same (connections : next.connections = client.connections)
    (sessions : next.sessions = client.sessions) : client.Withdraws next :=
  of_held connections (by rw [sessions])

theorem refl (client : Client) : client.Withdraws client := .of_same rfl rfl

/-- A connection is put back with less. -/
theorem of_connection {index : Nat} {before after : Connection}
    (found : client.connections[index]? = some before)
    (queue : after.queue ⊆ before.queue) (inFlight : after.inFlight ⊆ before.inFlight)
    (connections : next.connections = client.connections.set index after)
    (sessions : next.sessions = client.sessions) : client.Withdraws next := by
  refine of_parts (fun other now hnow => ?_) fun n now hnow => .inr ⟨now, ?_, rfl⟩
  · rw [connections] at hnow
    rcases getElem?_set_cases hnow with ⟨rfl, rfl⟩ | ⟨-, old⟩
    · exact .inr ⟨before, found, queue, inFlight⟩
    · exact .inr ⟨now, old, fun _ h => h, fun _ h => h⟩
  · rw [← sessions]
    exact hnow

/-- A session is put back with the request that it held. -/
theorem of_session {n : Nat} {before after : Session} (found : client.sessions[n]? = some before)
    (own : after.held = before.held) (sessions : next.sessions = client.sessions.set n after)
    (connections : next.connections = client.connections) : client.Withdraws next := by
  refine of_parts (fun index now hnow => .inr ⟨now, ?_, fun _ h => h, fun _ h => h⟩)
    fun m now hnow => ?_
  · rw [← connections]
    exact hnow
  · rw [sessions] at hnow
    rcases getElem?_set_cases hnow with ⟨rfl, rfl⟩ | ⟨-, old⟩
    · exact .inr ⟨before, found, own⟩
    · exact .inr ⟨now, old, rfl⟩

/-! ### Turns of the loop -/

theorem retireAndFail (client : Client) (index : Nat) (reason : CloseReason) :
    client.Withdraws (client.retireAndFail index reason) := by
  cases hc : client.connections[index]? with
  | none =>
    rw [retireAndFail_eq_self hc]
    exact refl client
  | some connection =>
    rw [retireAndFail_eq hc]
    exact of_connection hc (List.nil_subset _) (List.nil_subset _) rfl rfl

theorem takeExpired (client : Client) (index : Nat) :
    client.Withdraws (client.takeExpired index).2 := by
  cases hc : client.connections[index]? with
  | none =>
    rw [takeExpired_eq_self hc]
    exact refl client
  | some connection =>
    rw [takeExpired_eq hc]
    exact of_connection hc (List.dropWhile_sublist _).subset List.filter_sublist.subset rfl rfl

theorem spawn (client : Client) (n : Nat) : client.Withdraws (client.spawn n) := by
  cases hs : client.sessions[n]? with
  | none =>
    unfold Client.spawn
    rw [hs]
    exact refl client
  | some session =>
    have same : ({ session with phase := .finishing false } : Session).held = session.held := rfl
    rw [spawn_eq hs]
    exact of_session hs same rfl rfl

theorem discard (client : Client) (n : Nat) : client.Withdraws (client.discard n) := by
  unfold Client.discard
  cases hs : client.sessions[n]? with
  | none => exact refl client
  | some session =>
    let ended : Session := { session with channel := session.channel.close, phase := .closed }
    have same : ended.held = session.held := rfl
    have closed : client.Withdraws (client.putSession n ended) := of_session hs same rfl rfl
    simp only
    split
    · exact closed
    · rename_i connection hc
      exact closed.trans (of_connection hc (List.nil_subset _) (List.nil_subset _) rfl rfl)

/-- The loop brings no request anywhere. -/
theorem turnRelation : TurnRelation Withdraws fun _ _ => True where
  refl := refl
  trans first second := first.trans second
  fresh _ before := before
  noted same := by
    rw [same]
    exact .of_same rfl rfl
  retired := retireAndFail
  expired := takeExpired
  failed _ _ := .of_same rfl rfl
  spawned client n _ := spawn client n
  discarded client n _ := discard client n

end Withdraws

/-! ## Moving on -/

/-- Whatever comes to a place comes from the place before it. -/
structure Advances (client next : Client) : Prop where
  queue : ∀ index, ∀ request ∈ next.requestsAt (.queue index),
    request ∈ client.requestsAt (.queue index) ∨ request.ticket = client.calls
  cursor : ∀ n, ∀ request ∈ next.requestsAt (.cursor n),
    request ∈ client.requestsAt (.cursor n) ∨ ∃ session, client.sessions[n]? = some session ∧
      request ∈ client.requestsAt (.queue session.connection)
  inFlight : ∀ index, ∀ request ∈ next.requestsAt (.inFlight index),
    request ∈ client.requestsAt (.inFlight index) ∨
      ∃ (n : Nat) (session : Session) (written : Request) (now : Instant),
        client.sessions[n]? = some session ∧ session.connection = index ∧
          written ∈ client.requestsAt (.cursor n) ∧ request = written.markSent now

section

variable {client next : Client}

theorem Withdraws.advances (h : client.Withdraws next) : client.Advances next :=
  ⟨fun index _ mem => .inl (h (.queue index) mem), fun n _ mem => .inl (h (.cursor n) mem),
    fun index _ mem => .inl (h (.inFlight index) mem)⟩

theorem Advances.of_same (connections : next.connections = client.connections)
    (sessions : next.sessions = client.sessions) : client.Advances next :=
  (Withdraws.of_same connections sessions).advances

/-- A new request is queued, after others were taken away perhaps, and sessions that hold no request
may be added. -/
theorem Withdraws.enqueue {middle : Client} (first : client.Withdraws middle) {index : Nat}
    {connection connection' : Connection} {request : Request} {more : List Session}
    (found : middle.connections[index]? = some connection) (new : request.ticket = client.calls)
    (queue : connection'.queue = connection.queue ++ [request])
    (inFlight : connection'.inFlight = connection.inFlight)
    (free : ∀ session ∈ more, session.held = none)
    (connections : next.connections = middle.connections.set index connection')
    (sessions : next.sessions = middle.sessions ++ more) : client.Advances next := by
  refine ⟨fun i other mem => ?_, fun n other mem => .inl (first (.cursor n) ?_),
    fun i other mem => .inl (first (.inFlight i) ?_)⟩
  · obtain ⟨after, hafter, queued⟩ := mem_queue.1 mem
    rw [connections] at hafter
    rcases getElem?_set_cases hafter with ⟨rfl, rfl⟩ | ⟨-, old⟩
    · rw [queue] at queued
      rcases List.mem_append.1 queued with old | last
      · exact .inl (first (.queue i) (mem_queue.2 ⟨connection, found, old⟩))
      · rw [List.mem_singleton.1 last]
        exact .inr new
    · exact .inl (first (.queue i) (mem_queue.2 ⟨after, old, queued⟩))
  · obtain ⟨after, hafter, held⟩ := mem_cursor.1 mem
    rw [sessions] at hafter
    rcases getElem?_append_cases hafter with old | ⟨-, added⟩
    · exact mem_cursor.2 ⟨after, old, held⟩
    · rw [free after added] at held
      cases held
  · obtain ⟨after, hafter, sent⟩ := mem_inFlight.1 mem
    rw [connections] at hafter
    rcases getElem?_set_cases hafter with ⟨rfl, rfl⟩ | ⟨-, old⟩
    · rw [inFlight] at sent
      exact mem_inFlight.2 ⟨connection, found, sent⟩
    · exact mem_inFlight.2 ⟨after, old, sent⟩

theorem Seated.withdraws {target : Address} {index : Nat} {connection : Connection}
    (seat : client.Seated target index connection next) : client.Withdraws next := by
  cases seat with
  | known entry found => exact .refl client
  | fresh number link empty unasked =>
    refine .of_parts (fun i after hafter => ?_) fun n after hafter => .inr ⟨after, hafter, rfl⟩
    rcases getElem?_concat_cases hafter with old | ⟨-, rfl⟩
    · exact .inr ⟨after, old, fun _ mem => mem, fun _ mem => mem⟩
    · exact .inl empty

theorem advances_send (valid : client.RegistryValid) (call : Call) :
    client.Advances (client.send call) := by
  have counted : client.Withdraws client.countCall := .of_same rfl rfl
  cases sent_send valid call with
  | malformed failure encoded changed =>
    rw [changed]
    have rejected : client.Withdraws (client.countCall.reject [client.requestFor call] failure) :=
      .of_same rfl rfl
    exact rejected.advances
  | submitted header encoded seat outcome =>
    rename_i index connection seated
    have seating := counted.trans seat.withdraws
    cases outcome with
    | refused down changed =>
      rw [changed]
      refine Withdraws.advances (seating.trans ?_)
      exact .of_same rfl rfl
    | queued up link connection' shared changed =>
      rw [changed]
      exact seating.enqueue seat.found rfl shared.queue shared.inFlight (List.forall_mem_nil _) rfl
        (List.append_nil _).symm
    | opened up link takesUp session own phase free connection' shared changed =>
      rw [changed]
      exact seating.enqueue seat.found rfl shared.queue shared.inFlight
        (List.forall_mem_singleton.2 free) rfl rfl
    | failed up link failure unused closed connection' shared changed =>
      rw [changed]
      refine (seating.trans (.of_parts (fun i after hafter => ?_) fun n after hafter => ?_)).advances
      · rcases getElem?_set_cases hafter with ⟨rfl, rfl⟩ | ⟨-, old⟩
        · refine .inr ⟨connection, seat.found, ?_, ?_⟩
          · rw [shared.queue]
            exact List.nil_subset _
          · rw [shared.inFlight]
            exact List.Subset.refl _
        · exact .inr ⟨after, old, fun _ mem => mem, fun _ mem => mem⟩
      · rcases getElem?_append_cases hafter with old | ⟨-, mem⟩
        · exact .inr ⟨after, old, rfl⟩
        · exact .inl (closed after mem).2

theorem advances_driven {n : Nat} {session session' : Session}
    {connection connection' : Connection} (found : client.sessions[n]? = some session)
    (bound : client.connections[session.connection]? = some connection)
    (sources : Driven.Sources session connection session' connection')
    (sessions : next.sessions = client.sessions.set n session')
    (connections : next.connections = client.connections.set session.connection connection') :
    client.Advances next := by
  refine ⟨fun i request mem => .inl ?_, fun m request mem => ?_, fun i request mem => ?_⟩
  · obtain ⟨after, hafter, queued⟩ := mem_queue.1 mem
    rw [connections] at hafter
    rcases getElem?_set_cases hafter with ⟨rfl, rfl⟩ | ⟨-, old⟩
    · exact mem_queue.2 ⟨connection, bound, sources.queue request queued⟩
    · exact mem_queue.2 ⟨after, old, queued⟩
  · obtain ⟨after, hafter, held⟩ := mem_cursor.1 mem
    rw [sessions] at hafter
    rcases getElem?_set_cases hafter with ⟨rfl, rfl⟩ | ⟨-, old⟩
    · rcases sources.held request held with held | queued
      · exact .inl (mem_cursor.2 ⟨session, found, held⟩)
      · exact .inr ⟨session, found, mem_queue.2 ⟨connection, bound, queued⟩⟩
    · exact .inl (mem_cursor.2 ⟨after, old, held⟩)
  · obtain ⟨after, hafter, sent⟩ := mem_inFlight.1 mem
    rw [connections] at hafter
    rcases getElem?_set_cases hafter with ⟨rfl, rfl⟩ | ⟨-, old⟩
    · rcases sources.inFlight request sent with stayed | ⟨written, now, held, marked⟩
      · exact .inl (mem_inFlight.2 ⟨connection, bound, stayed⟩)
      · exact .inr ⟨n, session, written, now, found, rfl,
          mem_cursor.2 ⟨session, found, held⟩, marked⟩
    · exact .inl (mem_inFlight.2 ⟨after, old, sent⟩)

/-- Every action only moves requests on. -/
theorem advances_perform (h : client.Orderly) (action : Action) :
    client.Advances (client.perform action) := by
  have performed := client.performed_perform action
  generalize client.perform action = next at performed
  cases performed with
  | sent call => exact advances_send h.sound.valid call
  | turned free turned => exact (Withdraws.turnRelation.turned turned fun _ _ => trivial).advances
  | driven n found bound waited driven changed =>
    rw [changed]
    exact advances_driven found bound driven.sources rfl rfl
  | toldPosted position found =>
    rw [deliver_eq]
    exact .of_same rfl rfl
  | toldRejected position found =>
    rw [deliver_eq]
    exact .of_same rfl rfl
  | notified found =>
    rename_i index connection
    have queue : connection.notify.queue ⊆ connection.queue := List.Subset.refl _
    have inFlight : connection.notify.inFlight ⊆ connection.inFlight := List.Subset.refl _
    exact Withdraws.advances (.of_connection found queue inFlight rfl rfl)
  | changed found channel shut accepted =>
    rename_i n session
    have same : ({ session with channel := channel } : Session).held = session.held := rfl
    exact Withdraws.advances (.of_session found same rfl rfl)
  | started up loop deadline => exact .of_same rfl rfl
  | abandoned up loop =>
    have connections : client.abandonLoop.connections = client.connections := by
      rw [abandonLoop_frame]
    exact (Withdraws.of_held connections (map_abandonLoop _ (fun _ => rfl) client)).advances
  | ended loop =>
    have flagged : client.Withdraws { client with shuttingDown := true } := .of_same rfl rfl
    exact (flagged.trans (Withdraws.turnRelation.failOutstanding _)).advances
  | flagged loop => exact .of_same rfl rfl
  | aside same =>
    rw [same]
    exact .of_same rfl rfl

/-! ## The way of a request -/

/-- The places to which a request can come from a place in one step, if it does not end. -/
inductive Leads (client : Client) : Place → Place → Prop
  | stays (place : Place) : Leads client place place
  | takenUp {n : Nat} {session : Session} (found : client.sessions[n]? = some session) :
      Leads client (.queue session.connection) (.cursor n)
  | written {n : Nat} {session : Session} (found : client.sessions[n]? = some session) :
      Leads client (.cursor n) (.inFlight session.connection)

/-- A ticket that is somewhere was given out, and it is in no other place. -/
theorem ReachableWhile.place_unique (h : client.ReachableWhile XidsDistinct) {ticket : Nat}
    {place other : Place} (mem : ticket ∈ client.ticketsAt place)
    (mem' : ticket ∈ client.ticketsAt other) :
    ticket < client.calls ∧ (client.ticketsAt place).count ticket = 1 ∧ other = place := by
  have load := h.load_eq ticket
  have lt : ticket < client.calls := by
    by_contra ge
    rw [issued, if_neg ge] at load
    exact not_mem_of_load load place mem
  rw [issued, if_pos lt] at load
  obtain ⟨only, once, elsewhere⟩ := exists_place load
  have here {place : Place} (mem : ticket ∈ client.ticketsAt place) : place = only := by
    by_contra different
    exact elsewhere place different mem
  refine ⟨lt, ?_, (here mem').trans (here mem).symm⟩
  rw [here mem]
  exact once

/-- Where a ticket occurs once, it belongs to one element. -/
theorem eq_of_count_map {α : Type} {f : α → Nat} {list : List α} {a b : α}
    (once : (list.map f).count (f a) ≤ 1) (ha : a ∈ list) (hb : b ∈ list) (same : f b = f a) :
    b = a := by
  have there : b ∈ list.filter (fun c => f c == f a) :=
    List.mem_filter.2 ⟨hb, beq_iff_eq.2 same⟩
  rw [filter_eq_singleton ha once] at there
  exact List.mem_singleton.1 there

/-- The request of a ticket is the only one with it. -/
theorem ReachableWhile.request_unique (h : client.ReachableWhile XidsDistinct)
    {place other : Place} {request request' : Request} (mem : request ∈ client.requestsAt place)
    (mem' : request' ∈ client.requestsAt other) (same : request'.ticket = request.ticket) :
    other = place ∧ request' = request := by
  have mem'' : request.ticket ∈ client.ticketsAt other := same ▸ ticket_mem mem'
  obtain ⟨-, once, rfl⟩ := h.place_unique (ticket_mem mem) mem''
  have unresolved : other ≠ .resolved := fun resolved => by
    rw [resolved] at mem
    cases mem
  rw [ticketsAt_eq unresolved] at once
  exact ⟨rfl, eq_of_count_map once.le mem mem' same⟩

/-- With distinct ids every action leaves a request where it was or brings it to a next place, or it
ends. It stays the same call. -/
theorem ReachableWhile.exists_leads (h : client.ReachableWhile XidsDistinct)
    (distinct : client.XidsDistinct) (action : Action) {request : Request} {place : Place}
    (mem : request ∈ client.requestsAt place) :
    request.ticket ∈ (client.perform action).ticketsAt .resolved ∨
      ∃ other, client.Leads place other ∧ ∃ after ∈ (client.perform action).requestsAt other,
        after.ticket = request.ticket ∧ after.info = request.info := by
  -- The ticket occurs once before and once after, so where it is then tells where it came from.
  have advances := advances_perform h.orderly action
  have lt := (h.place_unique (ticket_mem mem) (ticket_mem mem)).1
  have next : (client.perform action).ReachableWhile XidsDistinct := by
    obtain ⟨first, built, run⟩ := h
    exact ⟨first, built, run.tail distinct action⟩
  have load : (client.perform action).load request.ticket = 1 := by
    obtain ⟨-, -, -, calls⟩ := balances_perform h.orderly action request.ticket
    rw [next.load_eq, issued, if_pos (by omega)]
  obtain ⟨other, count, -⟩ := exists_place load
  have there : request.ticket ∈ (client.perform action).ticketsAt other :=
    List.count_pos_iff.1 (by omega)
  by_cases resolved : other = .resolved
  · rw [resolved] at there
    exact .inl there
  rw [ticketsAt_eq resolved] at there
  obtain ⟨after, hafter, same⟩ := List.mem_map.1 there
  suffices moved : client.Leads place other ∧ after.info = request.info from
    .inr ⟨other, moved.1, after, hafter, same, moved.2⟩
  cases other with
  | queue index =>
    rcases advances.queue index after hafter with old | new
    · obtain ⟨rfl, rfl⟩ := h.request_unique mem old same
      exact ⟨.stays _, rfl⟩
    · omega
  | cursor n =>
    rcases advances.cursor n after hafter with old | ⟨session, found, old⟩
    · obtain ⟨rfl, rfl⟩ := h.request_unique mem old same
      exact ⟨.stays _, rfl⟩
    · obtain ⟨rfl, rfl⟩ := h.request_unique mem old same
      exact ⟨.takenUp found, rfl⟩
  | inFlight index =>
    rcases advances.inFlight index after hafter with
      old | ⟨n, session, written, now, found, rfl, old, rfl⟩
    · obtain ⟨rfl, rfl⟩ := h.request_unique mem old same
      exact ⟨.stays _, rfl⟩
    · rw [Request.ticket_markSent] at same
      obtain ⟨rfl, rfl⟩ := h.request_unique mem old same
      exact ⟨.written found, Request.info_markSent _ _⟩
  | resolved => exact absurd rfl resolved

end

end Client

end RemoteCall
