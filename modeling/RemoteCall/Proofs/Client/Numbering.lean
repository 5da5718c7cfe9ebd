import RemoteCall.Proofs.Client.Ageing

/-!
# Transaction ids of outstanding requests

Every call takes the next transaction id, whatever its destination, and the ids come round again
after 2 ^ 32 calls. A request and the id that comes next are as far apart as calls were made since,
so two requests can only have the same id if a whole turn lies between them. As long as no request
stays unresolved for a turn, the outstanding requests have distinct ids, also where the ids start
over.
-/
namespace RemoteCall

namespace Client

/-- How many ids were taken after that of a ticket. -/
def takenSince (client : Client) (ticket : Nat) : Nat := client.calls - (ticket + 1)

/-- Fewer ids than a whole turn were taken after that of any request that is not resolved. -/
def WithinTurn (client : Client) : Prop :=
  ∀ ticket < client.calls, ticket ∉ client.ticketsAt .resolved →
    client.takenSince ticket < UInt32.size

instance : DecidablePred WithinTurn := fun client =>
  inferInstanceAs (Decidable (∀ ticket < client.calls, ticket ∉ client.ticketsAt .resolved →
    client.takenSince ticket < UInt32.size))

/-- The id of a request and the next one are as far apart as ids were taken meanwhile. -/
def Counted (client : Client) (request : Request) : Prop :=
  request.ticket < client.calls ∧
    request.info.xid + UInt32.ofNat (client.calls - request.ticket) = client.nextXid

/-- The ids of all requests that are somewhere were counted off. -/
def Numbered (client : Client) : Prop :=
  ∀ place, ∀ request ∈ client.requestsAt place, client.Counted request

section

variable {client : Client} {action : Action} {request : Request}

/-! ## Counting -/

theorem counters_send (valid : client.RegistryValid) (call : Call) :
    (client.send call).calls = client.calls + 1 ∧
      (client.send call).nextXid = TransactionId.next client.nextXid := by
  rcases malformed_or_placed valid call with ⟨failure, -, changed⟩ |
    ⟨header, -, index, connection, located, found, placed⟩
  · rw [changed]
    exact ⟨rfl, rfl⟩
  · rw [placed.frame, found.frame]
    exact ⟨rfl, rfl⟩

/-- A request that is somewhere was somewhere before, or it is of the call that is made now. -/
theorem exists_before (h : client.Orderly) {place : Place}
    (mem : request ∈ (client.perform action).requestsAt place) :
    (∃ other, ∃ before ∈ client.requestsAt other, before.ticket = request.ticket ∧
      before.info = request.info) ∨
    ∃ call header, client.perform action = client.send call ∧
      request = { client.requestFor call with header := header } := by
  have advances := advances_perform h action
  cases place with
  | queue index =>
    rcases client.sends_or_shortens action with ⟨call, sent⟩ | ⟨short, -, -⟩
    · obtain ⟨more, sub, recent⟩ := queues_send h.sound call index
      rw [sent] at mem
      rcases List.mem_append.1 (sub.subset mem) with old | new
      · exact .inl ⟨_, request, old, rfl, rfl⟩
      · obtain ⟨⟨header, same⟩, -⟩ := recent request new
        exact .inr ⟨call, header, sent, same⟩
    · exact .inl ⟨_, request, (short index).subset mem, rfl, rfl⟩
  | cursor n =>
    rcases advances.cursor n request mem with old | ⟨session, found, queued⟩
    · exact .inl ⟨_, request, old, rfl, rfl⟩
    · exact .inl ⟨_, request, queued, rfl, rfl⟩
  | inFlight index =>
    rcases advances.inFlight index request mem with
      old | ⟨n, session, written, now, found, own, held, rfl⟩
    · exact .inl ⟨_, request, old, rfl, rfl⟩
    · exact .inl ⟨_, written, held, (Request.ticket_markSent _ _).symm,
        (Request.info_markSent _ _).symm⟩
  | resolved => cases mem

/-- One more id is taken. -/
theorem Counted.next {next : Client} (counts : client.Counted request)
    (calls : next.calls = client.calls + 1)
    (nextXid : next.nextXid = TransactionId.next client.nextXid) : next.Counted request := by
  obtain ⟨lt, apart⟩ := counts
  have more : client.calls + 1 - request.ticket = client.calls - request.ticket + 1 := by omega
  refine ⟨by omega, ?_⟩
  rw [calls, nextXid, more, UInt32.ofNat_add, ← UInt32.add_assoc, apart]
  rfl

theorem Numbered.perform (numbered : client.Numbered) (h : client.Orderly) (action : Action) :
    (client.perform action).Numbered := by
  intro place request mem
  have old : (∃ other, ∃ before ∈ client.requestsAt other, before.ticket = request.ticket ∧
      before.info = request.info) → client.Counted request := by
    rintro ⟨other, before, there, ticket, info⟩
    have counts := numbered other before there
    rw [Counted, ticket, info] at counts
    exact counts
  rcases client.sends_or_shortens action with ⟨call, sent⟩ | ⟨-, calls, nextXid⟩
  · obtain ⟨calls, nextXid⟩ := counters_send h.sound.valid call
    rw [← sent] at calls nextXid
    rcases exists_before h mem with before | ⟨call', header, -, rfl⟩
    · exact (old before).next calls nextXid
    · have one : client.calls + 1 - client.calls = 1 := by omega
      refine ⟨?_, ?_⟩
      · rw [calls]
        exact Nat.lt_succ_self _
      · rw [calls, nextXid]
        show client.nextXid + UInt32.ofNat (client.calls + 1 - client.calls) = _
        rw [one]
        rfl
  · rcases exists_before h mem with before | ⟨call, header, sent, rfl⟩
    · have counts := old before
      rw [Counted, calls, nextXid]
      exact counts
    · obtain ⟨more, -⟩ := counters_send h.sound.valid call
      rw [← sent] at more
      omega

theorem ReachableWhile.numbered {P : Client → Prop} (h : client.ReachableWhile P) :
    client.Numbered := by
  refine h.of_orderly (fun first built => ?_) fun client action orderly numbered =>
    numbered.perform orderly action
  obtain ⟨settings, parsers, pool, firstXid, rfl⟩ := built.exists_eq
  intro place request mem
  cases place <;> cases mem

/-! ## What is outstanding -/

theorem exists_place_of_outstanding (mem : request ∈ client.outstanding) :
    ∃ place, request ∈ client.requestsAt place := by
  rcases List.mem_append.1 mem with bound | writing
  · obtain ⟨connection, there, mem⟩ := List.mem_flatMap.1 bound
    obtain ⟨index, found⟩ := List.mem_iff_getElem?.1 there
    rcases List.mem_append.1 mem with queued | sent
    · exact ⟨.queue index, mem_queue.2 ⟨connection, found, queued⟩⟩
    · exact ⟨.inFlight index, mem_inFlight.2 ⟨connection, found, sent⟩⟩
  · obtain ⟨session, there, held⟩ := List.mem_filterMap.1 writing
    obtain ⟨n, found⟩ := List.mem_iff_getElem?.1 there
    exact ⟨.cursor n, mem_cursor.2 ⟨session, found, held⟩⟩

/-- Without a hypothesis on ids, what is outstanding was asked for, is not resolved, and no two
requests have one ticket. -/
theorem ReachableWhile.tickets {P : Client → Prop} (h : client.ReachableWhile P) :
    (client.outstanding.map Request.ticket).Nodup ∧ ∀ request ∈ client.outstanding,
      request.ticket < client.calls ∧ request.ticket ∉ client.ticketsAt .resolved := by
  have once (ticket : Nat) : Request.load ticket client.outstanding +
      Notice.load ticket client.notices ≤ client.issued ticket := by
    rw [load_outstanding]
    exact h.load_le ticket
  refine ⟨List.nodup_iff_count_le_one.2 fun ticket => ?_, fun request mem => ?_⟩
  · have le := once ticket
    have most : client.issued ticket ≤ 1 := by
      unfold issued
      split <;> omega
    exact (Nat.le_add_right _ _).trans (le.trans most)
  · have some : 0 < Request.load request.ticket client.outstanding :=
      List.count_pos_iff.2 (List.mem_map_of_mem mem)
    have le := once request.ticket
    unfold issued at le
    split at le
    · rename_i lt
      refine ⟨lt, List.count_eq_zero.1 ?_⟩
      show Notice.load request.ticket client.notices = 0
      omega
    · omega

/-- Two requests that were counted off within a turn have the same id only if they are the same. -/
theorem Counted.ticket_eq {other : Request} (counts : client.Counted request)
    (counts' : client.Counted other) (within : client.takenSince request.ticket < UInt32.size)
    (within' : client.takenSince other.ticket < UInt32.size)
    (same : request.info.xid = other.info.xid) : request.ticket = other.ticket := by
  obtain ⟨lt, apart⟩ := counts
  obtain ⟨lt', apart'⟩ := counts'
  have equal : UInt32.ofNat (client.calls - request.ticket) =
      UInt32.ofNat (client.calls - other.ticket) := by
    rw [same] at apart
    exact (UInt32.add_right_inj _).1 (apart.trans apart'.symm)
  have equal := congrArg UInt32.toNat equal
  rw [UInt32.toNat_ofNat', UInt32.toNat_ofNat'] at equal
  simp only [takenSince, UInt32.size] at within within'
  omega

/-- Whatever happened before: if no request is unresolved for a turn now, all ids are distinct now. -/
theorem ReachableWhile.xidsDistinct {P : Client → Prop} (h : client.ReachableWhile P)
    (within : client.WithinTurn) : client.XidsDistinct := by
  obtain ⟨nodup, unresolved⟩ := h.tickets
  have counted {request : Request} (mem : request ∈ client.outstanding) :
      client.Counted request ∧ client.takenSince request.ticket < UInt32.size := by
    obtain ⟨place, there⟩ := exists_place_of_outstanding mem
    obtain ⟨lt, open'⟩ := unresolved request mem
    exact ⟨h.numbered place request there, within _ lt open'⟩
  refine List.pairwise_map.2 ((List.pairwise_map.1 nodup).imp_of_mem ?_)
  intro first second mem mem' different same
  obtain ⟨counts, near⟩ := counted mem
  obtain ⟨counts', near'⟩ := counted mem'
  exact different (counts.ticket_eq counts' near near' same)

theorem ReachableWhile.distinct (h : client.ReachableWhile WithinTurn) :
    client.ReachableWhile XidsDistinct := by
  obtain ⟨first, built, run⟩ := h
  refine ⟨first, built, ?_⟩
  induction run with
  | refl => exact .refl
  | tail earlier within action ih =>
    have here : ReachableWhile WithinTurn _ := ⟨first, built, earlier⟩
    exact ih.tail (here.xidsDistinct within) action

/-- With distinct ids every ticket that is not resolved has its request among those outstanding. -/
theorem ReachableWhile.mem_tickets_iff (h : client.ReachableWhile XidsDistinct) (ticket : Nat) :
    ticket ∈ client.outstanding.map Request.ticket ↔
      ticket < client.calls ∧ ticket ∉ client.ticketsAt .resolved := by
  constructor
  · intro mem
    obtain ⟨request, there, rfl⟩ := List.mem_map.1 mem
    exact h.tickets.2 request there
  · rintro ⟨lt, unresolved⟩
    have load := h.load_eq ticket
    have none : Notice.load ticket client.notices = 0 := List.count_eq_zero.2 unresolved
    rw [Client.load, ← load_outstanding, none, issued, if_pos lt] at load
    exact List.count_pos_iff.1 (Nat.lt_of_lt_of_eq Nat.one_pos load.symm)

theorem length_filter_xid_le (distinct : client.XidsDistinct) (xid : UInt32) :
    (client.outstanding.filter (·.info.xid == xid)).length ≤ 1 := by
  have count := List.nodup_iff_count_le_one.1 distinct xid
  rw [List.count, List.countP_map, List.countP_eq_length_filter] at count
  exact count

/-- As long as fewer ids than a whole turn are taken while a request is unresolved, all unresolved
requests of the client have distinct ids, wherever the count began and wherever it is. Each id is as
far from the next one as ids were taken meanwhile. Then a request that was written out never takes
the place of another one in flight, whose request stays until it ends; and a reply, on whatever
connection, can only be for one request of the whole client. -/
theorem xids_distinct_within_turn (h : client.ReachableWhile WithinTurn)
    (within : client.WithinTurn) :
    client.XidsDistinct ∧
    (∀ ticket, ticket ∈ client.outstanding.map Request.ticket ↔
      ticket < client.calls ∧ ticket ∉ client.ticketsAt .resolved) ∧
    (∀ request ∈ client.outstanding,
      request.info.xid + UInt32.ofNat (client.takenSince request.ticket + 1) = client.nextXid) ∧
    (∀ session ∈ client.sessions, ∀ connection ∈ client.connections, ∀ request now,
      session.held = some request →
        connection.markInFlight (request.markSent now) = (none, { connection with
          inFlight := connection.inFlight ++ [request.markSent now] })) ∧
    (∀ action index, ∀ request ∈ client.requestsAt (.inFlight index),
      request.ticket ∈ (client.perform action).ticketsAt .resolved ∨
        ∃ after ∈ (client.perform action).requestsAt (.inFlight index),
          after.ticket = request.ticket ∧ after.info = request.info) ∧
    ∀ xid, (client.outstanding.filter (·.info.xid == xid)).length ≤ 1 ∧
      ∀ connection ∈ client.connections, ∀ request now,
        (connection.takeInFlight xid now).1 = some request →
          client.outstanding.filter (·.info.xid == xid) = [request] := by
  have distinct := h.xidsDistinct within
  refine ⟨distinct, h.distinct.mem_tickets_iff, fun request mem => ?_,
    fun session there connection bound request now held => ?_, fun action index request mem => ?_,
    fun xid => ⟨length_filter_xid_le distinct xid, fun connection bound request now taken => ?_⟩⟩
  · obtain ⟨place, there⟩ := exists_place_of_outstanding mem
    obtain ⟨lt, apart⟩ := h.numbered place request there
    have since : client.takenSince request.ticket + 1 = client.calls - request.ticket := by
      unfold takenSince
      omega
    rw [since, apart]
  · have free := inFlight?_eq_none distinct there bound held
    rw [Connection.markInFlight, Request.info_markSent, free]
    rw [Connection.inFlight?] at free
    rw [List.eraseP_of_forall_not (List.find?_eq_none.1 free)]
  · rcases h.distinct.exists_leads distinct action mem with resolved | ⟨other, leads, after⟩
    · exact .inl resolved
    · cases leads with
      | stays => exact .inr after
  · have mem := List.mem_of_find?_eq_some taken
    have same : request.info.xid = xid := by simpa using List.find?_some taken
    have there : request ∈ client.outstanding :=
      List.mem_append_left _ (List.mem_flatMap.2 ⟨connection, bound, List.mem_append_right _ mem⟩)
    rw [← same]
    exact filter_eq_singleton there (List.nodup_iff_count_le_one.1 distinct _)

end

/-- A client whose first call had the largest id and is in flight, while a second call, to another
destination, is queued under the id zero. -/
def wrapping : Client :=
  { usual with nextXid := 0xFFFFFFFF }.performAll
    [.start, .elapse timerProbe, .turn, .send nullCall, .turn, .drive 0, .drive 0, .drive 0,
      .drive 0, .drive 0, .drive 0, .drive 0, .drive 0, .drive 0,
      .send { nullCall with target := ⟨.v4 127 0 0 2, 111⟩ }]

theorem xids_distinct_within_turn_wrapping : wrapping.ReachableWhile WithinTurn ∧
    wrapping.WithinTurn ∧ wrapping.XidsDistinct ∧
    wrapping.outstanding.map (fun request => (request.ticket, request.info.xid)) =
      [(0, 0xFFFFFFFF), (1, 0)] ∧
    ∃ connection ∈ wrapping.connections, ∃ request,
      (connection.takeInFlight 0xFFFFFFFF 0).1 = some request ∧
        wrapping.outstanding.filter (·.info.xid == 0xFFFFFFFF) = [request] := by
  have reachable : wrapping.ReachableWhile WithinTurn :=
    ⟨{ usual with nextXid := 0xFFFFFFFF }, ⟨{}, [], {}, 0xFFFFFFFF, rfl⟩,
      runWhile_performAll _ _ (by decide +kernel)⟩
  have within : wrapping.WithinTurn := by decide +kernel
  obtain ⟨distinct, -, -, -, -, replies⟩ := xids_distinct_within_turn reachable within
  have taken : ((wrapping.connections.get ⟨0, by decide +kernel⟩).takeInFlight
      0xFFFFFFFF 0).1.isSome := by
    decide +kernel
  obtain ⟨request, taken⟩ := Option.isSome_iff_exists.1 taken
  have bound := wrapping.connections.get_mem ⟨0, by decide +kernel⟩
  exact ⟨reachable, within, distinct, by decide +kernel, _, bound, request, taken,
    (replies _).2 _ bound request 0 taken⟩

end Client

end RemoteCall
