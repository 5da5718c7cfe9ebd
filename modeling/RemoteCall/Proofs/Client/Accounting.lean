import RemoteCall.Proofs.Client.Load

/-!
# Accounting for requests

Every ticket that was given out is in one place: in a queue, with a session that is writing the
request, in flight, or with the notices. Notices are kept until they are told, and those told stay
told, so every listener is told at most once, and only of a request that is resolved.
-/
namespace RemoteCall.Client

/-! ## Places -/

/-- Where the request of a ticket can be. -/
inductive Place where
  | queue (connection : Nat)
  /-- With the driver that is writing it. -/
  | cursor (session : Nat)
  | inFlight (connection : Nat)
  | resolved
  deriving DecidableEq, Repr

/-- The tickets in a place. -/
def ticketsAt (client : Client) : Place → List Nat
  | .queue index => (client.connections[index]?.map fun connection =>
      connection.queue.map Request.ticket).getD []
  | .cursor n => (client.sessions[n]?.map fun session =>
      session.held.toList.map Request.ticket).getD []
  | .inFlight index => (client.connections[index]?.map fun connection =>
      connection.inFlight.map Request.ticket).getD []
  | .resolved => client.notices.map Notice.ticket

section

variable {client : Client}

theorem count_queue {index : Nat} {connection : Connection}
    (hc : client.connections[index]? = some connection) (ticket : Nat) :
    (client.ticketsAt (.queue index)).count ticket = Request.load ticket connection.queue := by
  rw [ticketsAt, hc]
  rfl

theorem count_inFlight {index : Nat} {connection : Connection}
    (hc : client.connections[index]? = some connection) (ticket : Nat) :
    (client.ticketsAt (.inFlight index)).count ticket =
      Request.load ticket connection.inFlight := by
  rw [ticketsAt, hc]
  rfl

theorem count_cursor {n : Nat} {session : Session} (hs : client.sessions[n]? = some session)
    (ticket : Nat) :
    (client.ticketsAt (.cursor n)).count ticket = Request.load ticket session.held.toList := by
  rw [ticketsAt, hs]
  rfl

/-- Connections without load have the ticket in no queue and not in flight. -/
theorem not_mem_of_connectionsLoad {index ticket : Nat}
    (h : ∀ connection, client.connections[index]? = some connection →
      Request.load ticket connection.outstanding = 0) :
    ticket ∉ client.ticketsAt (.queue index) ∧ ticket ∉ client.ticketsAt (.inFlight index) := by
  cases hc : client.connections[index]? with
  | none => simp [ticketsAt, hc]
  | some connection =>
    have zero := h connection hc
    rw [Connection.outstanding, Request.load_append] at zero
    constructor
    · rw [← List.count_eq_zero, count_queue hc]
      omega
    · rw [← List.count_eq_zero, count_inFlight hc]
      omega

theorem not_mem_of_sessionsLoad {n ticket : Nat}
    (h : ∀ session, client.sessions[n]? = some session →
      Request.load ticket session.held.toList = 0) :
    ticket ∉ client.ticketsAt (.cursor n) := by
  cases hs : client.sessions[n]? with
  | none => simp [ticketsAt, hs]
  | some session =>
    rw [← List.count_eq_zero, count_cursor hs]
    exact h session hs

theorem connectionsLoad_eq_zero {ticket : Nat} (h : client.connectionsLoad ticket = 0)
    {index : Nat} (connection : Connection) (hc : client.connections[index]? = some connection) :
    Request.load ticket connection.outstanding = 0 := by
  have le := le_sum_map (fun connection => Request.load ticket connection.outstanding)
    (List.mem_of_getElem? hc)
  rw [connectionsLoad] at h
  omega

theorem sessionsLoad_eq_zero {ticket : Nat} (h : client.sessionsLoad ticket = 0)
    {n : Nat} (session : Session) (hs : client.sessions[n]? = some session) :
    Request.load ticket session.held.toList = 0 := by
  have le := le_sum_map (fun session => Request.load ticket session.held.toList)
    (List.mem_of_getElem? hs)
  rw [sessionsLoad] at h
  omega

/-- A ticket without load is nowhere. -/
theorem not_mem_of_load {ticket : Nat} (h : client.load ticket = 0) (place : Place) :
    ticket ∉ client.ticketsAt place := by
  rw [load] at h
  have connections := @connectionsLoad_eq_zero client ticket (by omega)
  have sessions := @sessionsLoad_eq_zero client ticket (by omega)
  cases place with
  | queue index => exact (not_mem_of_connectionsLoad fun connection => connections connection).1
  | cursor n => exact not_mem_of_sessionsLoad fun session => sessions session
  | inFlight index => exact (not_mem_of_connectionsLoad fun connection => connections connection).2
  | resolved =>
    rw [← List.count_eq_zero]
    have zero : Notice.load ticket client.notices = 0 := by omega
    exact zero

/-- A ticket with a load of one is in one place, once. -/
theorem exists_place {ticket : Nat} (h : client.load ticket = 1) :
    ∃ place, (client.ticketsAt place).count ticket = 1 ∧
      ∀ other, other ≠ place → ticket ∉ client.ticketsAt other := by
  rw [load] at h
  have split : client.connectionsLoad ticket = 1 ∧ client.sessionsLoad ticket = 0 ∧
        Notice.load ticket client.notices = 0 ∨
      client.connectionsLoad ticket = 0 ∧ client.sessionsLoad ticket = 1 ∧
        Notice.load ticket client.notices = 0 ∨
      client.connectionsLoad ticket = 0 ∧ client.sessionsLoad ticket = 0 ∧
        Notice.load ticket client.notices = 1 := by omega
  rcases split with ⟨hone, hsessions, hnotices⟩ | ⟨hconnections, hone, hnotices⟩ |
    ⟨hconnections, hsessions, hone⟩
  · obtain ⟨index, connection, hc, hload, hrest⟩ := exists_of_sum_map_eq_one _ hone
    rw [Connection.outstanding, Request.load_append] at hload
    have elsewhere (i : Nat) (hi : i ≠ index) : ticket ∉ client.ticketsAt (.queue i) ∧
        ticket ∉ client.ticketsAt (.inFlight i) :=
      not_mem_of_connectionsLoad fun other hother => hrest i other hother hi
    have notWriting (n : Nat) : ticket ∉ client.ticketsAt (.cursor n) :=
      not_mem_of_sessionsLoad fun session => sessionsLoad_eq_zero hsessions session
    have notResolved : ticket ∉ client.ticketsAt .resolved := List.count_eq_zero.1 hnotices
    by_cases hqueue : Request.load ticket connection.queue = 1
    · refine ⟨.queue index, by rw [count_queue hc, hqueue], fun other hother => ?_⟩
      cases other with
      | queue i => exact (elsewhere i fun same => hother (by rw [same])).1
      | cursor n => exact notWriting n
      | inFlight i =>
        by_cases hi : i = index
        · rw [hi, ← List.count_eq_zero, count_inFlight hc]
          omega
        · exact (elsewhere i hi).2
      | resolved => exact notResolved
    · refine ⟨.inFlight index, by rw [count_inFlight hc]; omega, fun other hother => ?_⟩
      cases other with
      | queue i =>
        by_cases hi : i = index
        · rw [hi, ← List.count_eq_zero, count_queue hc]
          omega
        · exact (elsewhere i hi).1
      | cursor n => exact notWriting n
      | inFlight i => exact (elsewhere i fun same => hother (by rw [same])).2
      | resolved => exact notResolved
  · obtain ⟨n, session, hs, hload, hrest⟩ := exists_of_sum_map_eq_one _ hone
    have notBound (i : Nat) : ticket ∉ client.ticketsAt (.queue i) ∧
        ticket ∉ client.ticketsAt (.inFlight i) :=
      not_mem_of_connectionsLoad fun connection => connectionsLoad_eq_zero hconnections connection
    refine ⟨.cursor n, by rw [count_cursor hs, hload], fun other hother => ?_⟩
    cases other with
    | queue i => exact (notBound i).1
    | cursor m =>
      refine not_mem_of_sessionsLoad fun session' hs' => hrest m session' hs' fun same => ?_
      exact hother (by rw [same])
    | inFlight i => exact (notBound i).2
    | resolved => exact List.count_eq_zero.1 hnotices
  · have notBound (i : Nat) : ticket ∉ client.ticketsAt (.queue i) ∧
        ticket ∉ client.ticketsAt (.inFlight i) :=
      not_mem_of_connectionsLoad fun connection => connectionsLoad_eq_zero hconnections connection
    refine ⟨.resolved, hone, fun other hother => ?_⟩
    cases other with
    | queue i => exact (notBound i).1
    | cursor n =>
      exact not_mem_of_sessionsLoad fun session => sessionsLoad_eq_zero hsessions session
    | inFlight i => exact (notBound i).2
    | resolved => exact absurd rfl hother

end

/-! ## Notices and listeners -/

/-- What became of the notices of a client: those put down are still there or were told, and those
told remain told. -/
structure Keeps (client next : Client) : Prop where
  posted : ∀ notice ∈ client.posted, notice ∈ next.posted ∨ notice ∈ next.told
  rejected : ∀ notice ∈ client.rejected, notice ∈ next.rejected ∨ notice ∈ next.told
  told : client.told <:+ next.told

namespace Keeps

variable {client middle next : Client}

theorem refl (client : Client) : client.Keeps client :=
  ⟨fun _ h => .inl h, fun _ h => .inl h, List.suffix_rfl⟩

theorem trans (first : client.Keeps middle) (second : middle.Keeps next) : client.Keeps next where
  posted := fun notice h => (first.posted notice h).elim (second.posted notice) fun told =>
    .inr (second.told.subset told)
  rejected := fun notice h => (first.rejected notice h).elim (second.rejected notice) fun told =>
    .inr (second.told.subset told)
  told := first.told.trans second.told

theorem of_longer (posted : client.posted <+: next.posted)
    (rejected : client.rejected <+: next.rejected) (told : next.told = client.told) :
    client.Keeps next :=
  ⟨fun _ h => .inl (posted.subset h), fun _ h => .inl (rejected.subset h), by rw [told]⟩

/-- A listener is told, and its notice is taken away. -/
theorem deliver {notice : Notice}
    (posted : ∀ other ∈ client.posted, other = notice ∨ other ∈ middle.posted)
    (rejected : ∀ other ∈ client.rejected, other = notice ∨ other ∈ middle.rejected)
    (told : middle.told = client.told) : client.Keeps (middle.deliver notice) := by
  rw [deliver_eq]
  refine ⟨fun other h => ?_, fun other h => ?_, ?_⟩
  · rcases posted other h with rfl | h
    · exact .inr List.mem_cons_self
    · exact .inl h
  · rcases rejected other h with rfl | h
    · exact .inr List.mem_cons_self
    · exact .inl h
  · rw [told]
    exact List.suffix_cons _ _

end Keeps

theorem mem_eraseIdx_of_mem {α : Type} {list : List α} {position : Nat} {a b : α}
    (ha : list[position]? = some a) (hb : b ∈ list) : b = a ∨ b ∈ list.eraseIdx position := by
  obtain ⟨hlt, rfl⟩ := List.getElem?_eq_some_iff.1 ha
  exact List.mem_cons.1 ((List.getElem_cons_eraseIdx_perm hlt).mem_iff.2 hb)

section

variable {client next : Client}

theorem keeps_send (valid : client.RegistryValid) (call : Call) :
    client.Keeps (client.send call) := by
  cases sent_send valid call with
  | malformed failure encoded changed =>
    rw [changed]
    exact .of_longer List.prefix_rfl (List.prefix_append _ _) rfl
  | submitted header encoded seat outcome =>
    rename_i index connection seated
    have seating : client.Keeps seated := by
      cases seat with
      | known _ _ => exact .of_longer List.prefix_rfl List.prefix_rfl rfl
      | fresh _ _ _ _ => exact .of_longer List.prefix_rfl List.prefix_rfl rfl
    apply seating.trans
    cases outcome with
    | refused down changed =>
      rw [changed]
      exact .of_longer List.prefix_rfl (List.prefix_append _ _) rfl
    | queued up link connection' shared changed =>
      rw [changed]
      exact .of_longer List.prefix_rfl List.prefix_rfl rfl
    | opened up link takesUp session own phase free connection' shared changed =>
      rw [changed]
      exact .of_longer List.prefix_rfl List.prefix_rfl rfl
    | failed up link failure unused closed connection' shared changed =>
      rw [changed]
      exact .of_longer List.prefix_rfl (List.prefix_append _ _) rfl

/-- No action takes a notice away untold. -/
theorem keeps_perform (h : client.Orderly) (action : Action) :
    client.Keeps (client.perform action) := by
  have performed := client.performed_perform action
  generalize client.perform action = next at performed
  cases performed with
  | sent call => exact keeps_send h.sound.valid call
  | turned free turned =>
    have posted := turned.posted
    exact .of_longer posted (by rw [turned.frame]) (by rw [turned.frame])
  | driven n found bound waited driven changed =>
    rw [changed]
    exact .of_longer (List.prefix_append _ _) List.prefix_rfl rfl
  | toldPosted position found =>
    exact .deliver (fun other h => mem_eraseIdx_of_mem found h) (fun other h => .inr h) rfl
  | toldRejected position found =>
    exact .deliver (fun other h => .inr h) (fun other h => mem_eraseIdx_of_mem found h) rfl
  | notified found => exact .of_longer List.prefix_rfl List.prefix_rfl rfl
  | changed found channel => exact .of_longer List.prefix_rfl List.prefix_rfl rfl
  | started up loop deadline => exact .of_longer List.prefix_rfl List.prefix_rfl rfl
  | abandoned up loop =>
    rw [abandonLoop_frame]
    exact .of_longer List.prefix_rfl List.prefix_rfl rfl
  | ended loop =>
    refine .of_longer (turnRelation_posted.failOutstanding { client with shuttingDown := true }) ?_ ?_
    · rw [failOutstanding_frame]
    · rw [failOutstanding_frame]
  | flagged loop => exact .of_longer List.prefix_rfl List.prefix_rfl rfl
  | aside same =>
    rw [same]
    exact .of_longer List.prefix_rfl List.prefix_rfl rfl

theorem keeps_of_run (h : client.Orderly) (run : Run client next) : client.Keeps next := by
  have both : next.Orderly ∧ client.Keeps next := by
    induction run with
    | refl => exact ⟨h, .refl client⟩
    | tail _ _ action ih => exact ⟨ih.1.perform action, ih.2.trans (keeps_perform ih.1 action)⟩
  exact both.2

/-- Telling takes no note of what else is posted or rejected. -/
theorem deliver_setNotices (client : Client) (notice : Notice) (posted rejected : List Notice) :
    deliver { client with posted := posted, rejected := rejected } notice =
      { client.deliver notice with posted := posted, rejected := rejected } := by
  unfold deliver
  cases notice.delivery with
  | callback => rfl
  | promise =>
    simp only [keep, releaseAll]
    split <;> rfl

/-- All listeners can be told, one after the other. -/
theorem run_tellAll (client : Client) : Run client client.tellAll := by
  have rejections (rejected : List Notice) : ∀ client : Client,
      Run { client with posted := [], rejected := rejected }
        ({ client with posted := [], rejected := [] }.deliverAll rejected) := by
    induction rejected with
    | nil => exact fun client => .refl
    | cons notice later ih =>
      intro client
      have step : Run { client with posted := [], rejected := notice :: later }
          (deliver { client with posted := [], rejected := later } notice) :=
        RunWhile.refl.tail trivial (.tellRejected 0)
      have rest := ih (client.deliver notice)
      rw [deliver_setNotices] at step
      rw [← deliver_setNotices client notice [] []] at rest
      exact step.trans rest
  have posts (posted rejected : List Notice) : ∀ client : Client,
      Run { client with posted := posted, rejected := rejected }
        ({ client with posted := [], rejected := [] }.deliverAll (posted ++ rejected)) := by
    induction posted with
    | nil => exact rejections rejected
    | cons notice later ih =>
      intro client
      have step : Run { client with posted := notice :: later, rejected := rejected }
          (deliver { client with posted := later, rejected := rejected } notice) :=
        RunWhile.refl.tail trivial (.tellPosted 0)
      have rest := ih (client.deliver notice)
      rw [deliver_setNotices] at step
      rw [← deliver_setNotices client notice [] []] at rest
      exact step.trans rest
  exact posts client.posted client.rejected client

/-- How often the listener of a ticket was told. -/
def toldTimes (client : Client) (ticket : Nat) : Nat := Notice.load ticket client.told

theorem toldTimes_le (client : Client) (ticket : Nat) :
    client.toldTimes ticket ≤ Notice.load ticket client.notices := by
  rw [toldTimes, notices, Notice.load_append]
  exact Nat.le_add_left _ _

/-- The listener of what is outstanding was not told. -/
theorem ReachableWhile.toldTimes_of_outstanding {P : Client → Prop} (h : client.ReachableWhile P)
    {index : Nat} {connection : Connection} (hc : client.connections[index]? = some connection)
    {request : Request} (outstanding : request ∈ connection.outstanding) :
    client.toldTimes request.ticket = 0 := by
  have one : client.load request.ticket ≤ 1 :=
    (h.load_le request.ticket).trans (by rw [issued]; split <;> omega)
  have here : 0 < Request.load request.ticket connection.outstanding :=
    List.count_pos_iff.2 (List.mem_map_of_mem outstanding)
  have all := le_sum_map (fun connection => Request.load request.ticket connection.outstanding)
    (List.mem_of_getElem? hc)
  have told := client.toldTimes_le request.ticket
  rw [load, connectionsLoad] at one
  omega

/-- Once all listeners are told, every notice has been told. -/
theorem toldTimes_tellAll (client : Client) (ticket : Nat) :
    client.tellAll.toldTimes ticket = Notice.load ticket client.notices := by
  have reversed (list : List Notice) :
      Notice.load ticket list.reverse = Notice.load ticket list := by
    rw [Notice.load, List.map_reverse, List.count_reverse]
    rfl
  unfold tellAll
  rw [deliverAll_eq]
  rw [toldTimes, Notice.load_append, reversed, notices, ← Notice.load_append]

/-- A request that is resolved stays so. -/
theorem Keeps.resolved (keeps : client.Keeps next) {ticket : Nat}
    (h : ticket ∈ client.ticketsAt .resolved) : ticket ∈ next.ticketsAt .resolved := by
  obtain ⟨notice, hnotice, rfl⟩ := List.mem_map.1 h
  apply List.mem_map_of_mem
  rw [notices, List.mem_append, List.mem_append] at hnotice ⊢
  rcases hnotice with (posted | rejected) | told
  · exact (keeps.posted notice posted).imp .inl id
  · exact (keeps.rejected notice rejected).imp .inr id
  · exact .inr (keeps.told.subset told)

/-- Over any run in which the ids of outstanding requests are distinct, every request that was
submitted is in one place, once: queued, with a driver, in flight or resolved. Its listener was told
at most once, and only if it is resolved; it was told once if no notice is left to tell, and the
notices can be told at any time. No action drops a request. -/
theorem request_in_one_place (h : client.ReachableWhile XidsDistinct) :
    (∀ ticket < client.calls, ∃ place, (client.ticketsAt place).count ticket = 1 ∧
      ∀ other, other ≠ place → ticket ∉ client.ticketsAt other) ∧
    (∀ ticket, client.calls ≤ ticket → ∀ place, ticket ∉ client.ticketsAt place) ∧
    (∀ ticket, client.toldTimes ticket ≤ if ticket ∈ client.ticketsAt .resolved then 1 else 0) ∧
    (client.posted = [] → client.rejected = [] → ∀ ticket,
      client.toldTimes ticket = if ticket ∈ client.ticketsAt .resolved then 1 else 0) ∧
    (Run client client.tellAll ∧ ∀ ticket, client.tellAll.toldTimes ticket =
      if ticket ∈ client.ticketsAt .resolved then 1 else 0) ∧
    (client.XidsDistinct → ∀ action ticket place, ticket ∈ client.ticketsAt place →
      ∃ other, ticket ∈ (client.perform action).ticketsAt other ∧
        (place = .resolved → other = .resolved)) := by
  have load (ticket : Nat) : client.load ticket = client.issued ticket := h.load_eq ticket
  have resolved (ticket : Nat) : Notice.load ticket client.notices =
      if ticket ∈ client.ticketsAt .resolved then 1 else 0 := by
    have le : Notice.load ticket client.notices ≤ 1 := by
      have all := load ticket
      rw [Client.load, issued] at all
      split_ifs at all <;> omega
    split_ifs with hmem
    · have pos := List.count_pos_iff.2 hmem
      exact Nat.le_antisymm le pos
    · exact List.count_eq_zero.2 hmem
  refine ⟨fun ticket hlt => ?_, fun ticket hle place => ?_, fun ticket => ?_,
    fun hposted hrejected ticket => ?_, ⟨run_tellAll client, fun ticket => ?_⟩,
    fun distinct action ticket place hmem => ?_⟩
  · apply exists_place
    rw [load, issued, if_pos hlt]
  · refine not_mem_of_load ?_ place
    rw [load, issued, if_neg (by omega)]
  · rw [← resolved]
    exact client.toldTimes_le ticket
  · rw [← resolved, notices, hposted, hrejected]
    rfl
  · rw [← resolved]
    exact client.toldTimes_tellAll ticket
  · have next : (client.perform action).ReachableWhile XidsDistinct := by
      obtain ⟨first, built, run⟩ := h
      exact ⟨first, built, run.tail distinct action⟩
    by_cases hplace : place = .resolved
    · rw [hplace] at hmem
      exact ⟨.resolved, (keeps_perform h.orderly action).resolved hmem, fun _ => rfl⟩
    · have hlt : ticket < client.calls := by
        by_contra hge
        refine not_mem_of_load ?_ place hmem
        rw [load, issued, if_neg hge]
      have hone : (client.perform action).load ticket = 1 := by
        obtain ⟨-, -, -, calls⟩ := balances_perform h.orderly action ticket
        rw [next.load_eq, issued, if_pos (by omega)]
      obtain ⟨other, hcount, -⟩ := exists_place hone
      refine ⟨other, List.count_pos_iff.1 (by omega), fun same => absurd same hplace⟩

end

/-- Of four calls to one destination the first is answered, the second is in flight, the third is
half written, and the last one waits. -/
def dispersed : Client :=
  calling.performAll <|
    [Action.send nullCall, .send nullCall] ++ List.replicate 9 (Action.drive 0) ++
      [Action.change 0 (.setBudget (some 10)),
        .change 0 (.feed [0x80, 0, 0, 8, 0, 0, 0, 1, 0, 0, 0, 0])] ++
      List.replicate 7 (Action.drive 0) ++ [Action.tellPosted 0, .send nullCall]

theorem reachableWhile_dispersed : dispersed.ReachableWhile XidsDistinct := by
  have called : RunWhile XidsDistinct usual calling := runWhile_performAll usual _ (by decide)
  exact ⟨usual, built_usual, called.trans (runWhile_performAll calling _ (by decide +kernel))⟩

theorem request_in_one_place_dispersed :
    dispersed.outstanding.map (fun request => request.info.xid) = [4, 2, 3] ∧
    dispersed.ticketsAt .resolved = [0] ∧ dispersed.ticketsAt (.inFlight 0) = [1] ∧
    dispersed.ticketsAt (.cursor 0) = [2] ∧ dispersed.ticketsAt (.queue 0) = [3] ∧
    (∀ ticket < 4, ∃ place, (dispersed.ticketsAt place).count ticket = 1 ∧
      ∀ other, other ≠ place → ticket ∉ dispersed.ticketsAt other) ∧
    dispersed.toldTimes 0 = 1 ∧
    ∀ action, ∃ other, 2 ∈ (dispersed.perform action).ticketsAt other := by
  have writing : dispersed.ticketsAt (.cursor 0) = [2] := by decide +kernel
  have answered : dispersed.ticketsAt .resolved = [0] := by decide +kernel
  obtain ⟨placed, -, -, told, -, stays⟩ := request_in_one_place reachableWhile_dispersed
  have calls : dispersed.calls = 4 := by decide +kernel
  rw [calls] at placed
  refine ⟨by decide +kernel, answered, by decide +kernel, writing, by decide +kernel, placed, ?_,
    fun action => ?_⟩
  · rw [told (by decide +kernel) (by decide +kernel), answered, if_pos (by decide)]
  · obtain ⟨other, mem, -⟩ := stays (by decide +kernel) action 2 (.cursor 0) (by simp [writing])
    exact ⟨other, mem⟩

end RemoteCall.Client
