import RemoteCall.Proofs.Client.Expiry
import RemoteCall.Proofs.Settings.Validity

/-!
# Connections that are not used for too long

A client takes settings only if a request times out at least two ticks before a connection that is
not used is evicted. A connection is never used before the requests that are outstanding on it. So
as long as sweeps come every two ticks, what is left unanswered on a connection has failed with
`timeout` in one of them before another evicts the connection, and no request fails because its
connection was idle.
-/
namespace RemoteCall

namespace Client

theorem Built.timeouts {client : Client} (h : client.Built) :
    client.settings.requestTimeout + 2 * client.settings.tick <
      client.settings.connectionTimeout := by
  obtain ⟨settings, parsers, pool, firstXid, built⟩ := h
  unfold build at built
  split at built
  · rename_i valid
    cases built
    exact (Settings.valid_of_validate valid).durations
  · cases built

section

variable {client next : Client} {action : Action}

/-! ## The time of last use -/

/-- What is unresolved has a connection. -/
theorem UnresolvedOn.exists_connection (sound : client.Sound) {index : Nat} {request : Request}
    (unresolved : client.UnresolvedOn index request) :
    ∃ connection, client.connections[index]? = some connection := by
  rcases unresolved with ⟨connection, found, -⟩ | ⟨session, mem, rfl, held⟩
  · exact ⟨connection, found⟩
  · obtain ⟨n, found⟩ := List.mem_iff_getElem?.1 mem
    have connected := sound.holding n session found (by rw [held]; simp)
    have live : session.phase ≠ .closed := by
      intro closed
      rw [closed] at connected
      cases connected
    obtain ⟨connection, bound, -⟩ := sound.owner n session found live
    exact ⟨connection, bound⟩

/-- No connection was used in the future, and none is used before what is unresolved on it. -/
def UsedLast (client : Client) : Prop :=
  ∀ (index : Nat) connection, client.connections[index]? = some connection →
    connection.lastUsed ≤ client.now ∧
      ∀ request, client.UnresolvedOn index request → request.queuedAt ≤ connection.lastUsed

theorem UsedLast.perform (h : client.UsedLast) (orderly : client.Orderly) (action : Action) :
    (client.perform action).UsedLast := by
  intro index after found
  have recorded := recorded_perform orderly.sound.valid action
  have now := recorded.later.1
  refine ⟨?_, fun request unresolved => ?_⟩
  · rcases recorded.exists_before found with ⟨used, -⟩ | ⟨before, found', used | used, -⟩
    · exact used.trans_le now
    · exact used.trans_le ((h index before found').1.trans now)
    · exact used.trans_le now
  · rcases unresolved.of_perform orderly with ⟨old, there, -, queuedAt⟩ |
      ⟨-, queuedAt, other, found', used, -⟩
    · obtain ⟨connection, bound⟩ := there.exists_connection orderly.sound
      obtain ⟨past, order⟩ := h index connection bound
      rw [← queuedAt]
      rcases recorded.exists_before found with ⟨used, -⟩ | ⟨before, found', used | used, -⟩
      · exact (order old there).trans (past.trans used.ge)
      · rw [bound, Option.some.injEq] at found'
        exact (order old there).trans (found' ▸ used.ge)
      · exact (order old there).trans (past.trans used.ge)
    · rw [found, Option.some.injEq] at found'
      rw [queuedAt, found', used]

theorem ReachableWhile.usedLast {P : Client → Prop} (h : client.ReachableWhile P) :
    client.UsedLast := by
  refine h.of_orderly (fun first built => ?_) fun client action orderly used =>
    used.perform orderly action
  obtain ⟨settings, parsers, pool, firstXid, rfl⟩ := built.exists_eq
  intro index connection found
  cases found

/-- Nothing is pushed on a connection that was asked to close. -/
theorem not_unresolved_perform (orderly : client.Orderly) {index : Nat} {after : Connection}
    (found : (client.perform action).connections[index]? = some after)
    (asked : after.closeReason ≠ none) (none : ∀ request, ¬ client.UnresolvedOn index request)
    (request : Request) : ¬ (client.perform action).UnresolvedOn index request := by
  intro unresolved
  rcases unresolved.of_perform orderly with ⟨old, there, -⟩ | ⟨-, -, other, there, -, unasked⟩
  · exact none old there
  · rw [found, Option.some.injEq] at there
    exact asked (there ▸ unasked)

/-! ## Sweeps in time -/

/-- The next turn sweeps, at most two ticks after the moment `since`, while no driver of a
registered connection is writing a request. -/
structure SweepsInTime (client : Client) (since : Instant) : Prop where
  sweeps : client.Sweeps
  soon : client.now ≤ since + 2 * client.settings.tick
  unwritten : ∀ entry ∈ client.registry, ∀ request, ¬ client.Writes entry.2 request

/-- The action starts the loop, or begins the first of its turns. -/
def Starts (client : Client) (action : Action) : Prop :=
  client.loop = .stopped ∧ action = .start ∨
    ∃ deadline, client.loop = .probing deadline ∧ action = .turn

/-- An action that is no sweep, or a sweep in time, and the moment from which the next sweep counts.
That is the sweep itself, or the start of the loop, if it starts before any call is made. -/
inductive Counts (client : Client) (since : Instant) : Action → Instant → Prop where
  | began {action : Action} (uncalled : client.calls = 0) (starts : client.Starts action) :
      Counts client since action client.now
  | swept (inTime : client.SweepsInTime since) : Counts client since .turn client.now
  | other {action : Action} (still : action = .turn → ¬ client.Sweeps) :
      Counts client since action since

/-- Actions in any order lead from one client to another, and all sweeps come in time. The moment
`since` is that from which the next one counts. -/
inductive TimelyFrom (first : Client) (origin : Instant) : Client → Instant → Prop where
  | refl : TimelyFrom first origin first origin
  | tail {client : Client} {since since' : Instant} {action : Action}
      (earlier : TimelyFrom first origin client since)
      (counts : client.Counts since action since') :
      TimelyFrom first origin (client.perform action) since'

/-- A run of a client just built in which all sweeps come in time. -/
def Timely (client : Client) (since : Instant) : Prop :=
  ∃ first, Built first ∧ TimelyFrom first first.now client since

theorem Starts.still (starts : client.Starts action) : action = .turn → ¬ client.Sweeps := by
  rintro turn ⟨-, -, ⟨since, loop, -⟩, -⟩
  rcases starts with ⟨-, start⟩ | ⟨deadline, probing, -⟩
  · rw [start] at turn
    cases turn
  · rw [probing] at loop
    cases loop

theorem Counts.inTime {since since' : Instant} (h : client.Counts since action since') :
    action = .turn → client.Sweeps → client.SweepsInTime since := by
  intro turn sweeps
  cases h with
  | began uncalled starts => exact absurd sweeps (starts.still turn)
  | swept inTime => exact inTime
  | other still => exact absurd sweeps (still turn)

/-- What sweeps that come in time keep: on registered connections nothing unresolved was overdue at
the latest one, and nothing is unresolved where a driver was asked to close. -/
structure Punctual (client : Client) (since : Instant) : Prop where
  reachable : client.Reachable
  timeouts : client.settings.requestTimeout + 2 * client.settings.tick <
    client.settings.connectionTimeout
  past : since ≤ client.now
  fresh : ∀ entry ∈ client.registry, ∀ request, client.UnresolvedOn entry.2 request →
    since ≤ request.queuedAt + client.settings.requestTimeout
  obeyed : ∀ (index : Nat) connection, client.connections[index]? = some connection →
    connection.closeReason = some .idle → ∀ request, ¬ client.UnresolvedOn index request
  spared : ∀ notice ∈ client.notices, ∀ endpoint,
    notice.outcome ≠ .failure (.connectionClosed endpoint .idle)

namespace Punctual

variable {since : Instant}

theorem built (h : client.Built) : client.Punctual client.now := by
  obtain ⟨settings, parsers, pool, firstXid, rfl⟩ := h.exists_eq
  exact ⟨⟨_, h, .refl⟩, h.timeouts, Nat.le_refl _, List.forall_mem_nil _,
    fun index connection found => (by cases found), List.forall_mem_nil _⟩

/-- As long as no call was made, the count may begin anew. -/
theorem restart (h : client.Punctual since) (uncalled : client.calls = 0) :
    client.Punctual client.now :=
  { h with
    past := Nat.le_refl _
    fresh := fun entry mem request unresolved => by
      have lt := unresolved.lt_calls h.reachable
      omega }

theorem other (h : client.Punctual since) (action : Action)
    (still : action = .turn → ¬ client.Sweeps) : (client.perform action).Punctual since := by
  have orderly := h.reachable.orderly
  have recorded := recorded_perform orderly.sound.valid action
  obtain ⟨now, settings, -⟩ := recorded.later
  refine ⟨h.reachable.perform action, ?timeouts, h.past.trans now, ?fresh,
    ?obeyed, ?spared⟩
  case timeouts =>
    rw [settings]
    exact h.timeouts
  case fresh =>
    intro entry mem request unresolved
    rw [settings]
    rcases unresolved.of_perform orderly with ⟨old, there, -, queuedAt⟩ | ⟨-, queuedAt, -⟩
    · rcases recorded.registered mem with registered | beyond
      · exact queuedAt ▸ h.fresh entry registered old there
      · -- Nothing is unresolved where there was no connection.
        obtain ⟨connection, found⟩ := there.exists_connection orderly.sound
        have lt := (List.getElem?_eq_some_iff.1 found).1
        omega
    · -- What is pushed now is younger than the latest sweep.
      rw [queuedAt]
      exact h.past.trans (Nat.le_add_right _ _)
  case obeyed =>
    intro index after found idle
    refine not_unresolved_perform orderly found (by rw [idle]; simp) ?_
    rcases recorded.exists_before found with ⟨-, unasked⟩ | ⟨before, found', -, asked⟩
    · rw [idle] at unasked
      cases unasked
    · exact h.obeyed index before found' (asked still idle)
  case spared =>
    intro notice mem endpoint failed
    by_cases old : notice ∈ client.notices
    · exact h.spared notice old endpoint failed
    · rcases swept_perform orderly mem old (by rw [failed]; rfl) with ⟨turn, sweeps⟩ |
        ⟨n, session, connection, -, found, bound, asked, request, unresolved, -⟩
      · exact still turn sweeps
      · refine h.obeyed session.connection connection bound asked request ?_
        rcases List.mem_append.1 unresolved with held | outstanding
        · exact .inr ⟨session, List.mem_of_getElem? found, rfl, by simpa using held⟩
        · exact .inl ⟨connection, bound, outstanding⟩

/-- Of two sweeps that are no more than two ticks apart, the first finds a request overdue that is
older than the last use of a connection which the second finds idle. -/
theorem not_lt_since {since now queued used : Instant} {timeout tick idle : Duration}
    (soon : now ≤ since + 2 * tick) (fresh : since ≤ queued + timeout) (order : queued ≤ used)
    (timeouts : timeout + 2 * tick < idle) : ¬ idle < now.since used := by
  unfold Instant.since Instant Duration at *
  omega

/-- Nothing is unresolved on a connection that a sweep in time evicts. -/
theorem not_unresolved (h : client.Punctual since)
    (soon : client.now ≤ since + 2 * client.settings.tick)
    {entry : Address × Nat} (registered : entry ∈ client.registry)
    (unused : client.isIdle entry = true) (request : Request) :
    ¬ client.UnresolvedOn entry.2 request := by
  intro unresolved
  obtain ⟨connection, found⟩ := unresolved.exists_connection h.reachable.orderly.sound
  have queued := (h.reachable.usedLast entry.2 connection found).2 request unresolved
  have fresh := h.fresh entry registered request unresolved
  have unused : client.settings.connectionTimeout < client.now.since connection.lastUsed := by
    rw [isIdle, found] at unused
    exact of_decide_eq_true unused
  exact not_lt_since soon fresh queued h.timeouts unused

theorem swept (h : client.Punctual since) (inTime : client.SweepsInTime since) :
    (client.perform .turn).Punctual client.now := by
  have orderly := h.reachable.orderly
  have swept := inTime.sweeps.swept
  obtain ⟨now, settings, -⟩ := (recorded_perform orderly.sound.valid .turn).later
  refine ⟨h.reachable.perform .turn, ?timeouts, now, ?fresh, ?obeyed,
    ?spared⟩
  case timeouts =>
    rw [settings]
    exact h.timeouts
  case fresh =>
    intro entry mem request unresolved
    rw [settings]
    rcases inTime.sweeps.unresolved h.reachable mem unresolved with young | written
    · simpa [overdue, Request.isExpired] using young
    · rw [swept.registry] at mem
      exact absurd written (inTime.unwritten entry (List.mem_filter.1 mem).1 request)
  case obeyed =>
    intro index after found idle
    refine not_unresolved_perform orderly found (by rw [idle]; simp) ?_
    by_cases registered : ∃ entry ∈ client.registry, entry.2 = index
    · obtain ⟨entry, registered, rfl⟩ := registered
      have bound := List.getElem?_eq_getElem (orderly.sound.valid entry registered)
      cases unused : client.isIdle entry with
      | true => exact h.not_unresolved inTime.soon registered unused
      | false =>
        rw [swept.kept entry registered unused _ bound, Option.some.injEq] at found
        rw [← found] at idle
        exact h.obeyed entry.2 _ bound idle
    · rw [swept.others index fun entry mem same => registered ⟨entry, mem, same⟩] at found
      exact h.obeyed index after found idle
  case spared =>
    intro notice mem endpoint failed
    by_cases old : notice ∈ client.notices
    · exact h.spared notice old endpoint failed
    · rcases (swept.posted notice).1 ((mem_notices_turn mem).resolve_left old) with
        posted | ⟨entry, registered, unused, connection, found, request, outstanding, rfl⟩ |
        ⟨entry, -, -, connection, -, request, -, rfl⟩
      · exact old (List.mem_append_left _ (List.mem_append_left _ posted))
      · exact h.not_unresolved inTime.soon registered unused request
          (.inl ⟨connection, found, outstanding⟩)
      · cases failed

end Punctual

theorem TimelyFrom.punctual {first : Client} {origin since : Instant}
    (h : TimelyFrom first origin client since) (start : first.Punctual origin) :
    client.Punctual since := by
  induction h with
  | refl => exact start
  | tail earlier counts ih =>
    cases counts with
    | began uncalled starts => exact (ih.restart uncalled).other _ starts.still
    | swept inTime => exact ih.swept inTime
    | other still => exact ih.other _ still

theorem Timely.punctual {since : Instant} (h : client.Timely since) : client.Punctual since := by
  obtain ⟨first, built, run⟩ := h
  exact run.punctual (.built built)

/-! ## How requests end -/

/-- The action ends the request of a ticket on the connection `index`. -/
def Ends (client : Client) (action : Action) (index ticket : Nat) : Prop :=
  (∃ request, client.UnresolvedOn index request ∧ request.ticket = ticket) ∧
    ∀ request, (client.perform action).UnresolvedOn index request → request.ticket ≠ ticket

/-- What is unresolved stays so in a turn without a sweep, unless the client shuts down. -/
theorem Passes.unresolved (h : client.Passes next) : next.registry = [] ∨
    ∀ index request, client.UnresolvedOn index request → next.UnresolvedOn index request := by
  cases h with
  | waited => exact .inr fun index request unresolved => unresolved
  | began lastSweep loop => exact .inr fun index request unresolved => unresolved
  | halted lastSweep =>
    rw [halt_frame]
    exact .inl rfl
  | resumed noticed loop =>
    refine .inr fun index request unresolved => ?_
    rcases unresolved with ⟨connection, found, outstanding⟩ | written
    · rw [spawnAll_frame]
      exact .inl ⟨connection, found, outstanding⟩
    · have held := held_spawnAll { client with driversEnded := noticed }
      refine .inr (writes_iff.2 ?_)
      exact held.symm ▸ writes_iff.1 written

namespace TimelyFrom

variable {first : Client} {origin since : Instant}

/-- A connection that is registered at the end of a run, and was there at the beginning, was
registered then. -/
theorem registered (h : TimelyFrom first origin client since) {entry : Address × Nat}
    (there : entry.2 < first.connections.length) (sound : first.Orderly)
    (mem : entry ∈ client.registry) : entry ∈ first.registry := by
  suffices both : client.Orderly ∧ first.connections.length ≤ client.connections.length ∧
      (entry ∈ client.registry → entry ∈ first.registry) from both.2.2 mem
  clear mem
  induction h with
  | refl => exact ⟨sound, Nat.le_refl _, id⟩
  | @tail client _ _ action earlier counts ih =>
    obtain ⟨orderly, length, back⟩ := ih
    have recorded := recorded_perform orderly.sound.valid action
    refine ⟨orderly.perform action, length.trans recorded.length_le, fun mem => ?_⟩
    rcases recorded.registered mem with old | new
    · exact back old
    · omega

/-- What was unresolved at the beginning of a run and is not at its end was ended by an action. -/
theorem exists_ends (h : TimelyFrom first origin client since) {index : Nat} {request : Request}
    (unresolved : first.UnresolvedOn index request)
    (gone : ∀ later, client.UnresolvedOn index later → later.ticket ≠ request.ticket) :
    ∃ between latest action after, TimelyFrom first origin between latest ∧
      between.Ends action index request.ticket ∧
      TimelyFrom (between.perform action) after client since ∧
      (action = .turn → between.Sweeps → between.SweepsInTime latest) := by
  induction h with
  | refl => exact absurd rfl (gone request unresolved)
  | @tail client latest since action earlier counts ih =>
    by_cases there : ∃ old, client.UnresolvedOn index old ∧ old.ticket = request.ticket
    · exact ⟨client, latest, action, since, earlier, ⟨there, gone⟩, .refl, counts.inTime⟩
    · obtain ⟨between, latest', action', after, run, ends, rest, inTime⟩ :=
        ih fun old unresolved same => there ⟨old, unresolved, same⟩
      exact ⟨between, latest', action', after, run, ends, rest.tail counts, inTime⟩

end TimelyFrom

/-- On the way from one client to another the request of a ticket has ended. If the loop has ended
it, then in a sweep that let it fail with `timeout`. -/
def EndsBetween (first : Client) (origin : Instant) (client : Client) (since : Instant)
    (index ticket : Nat) : Prop :=
  ∃ between latest action after, TimelyFrom first origin between latest ∧
    between.Ends action index ticket ∧ TimelyFrom (between.perform action) after client since ∧
    (action = .turn → between.SweepsInTime latest ∧ ∃ request,
      between.UnresolvedOn index request ∧ request.ticket = ticket ∧
        (between.perform .turn).Resolved (request.fail .timeout))

namespace Punctual

variable {since : Instant}

/-- What is overdue at a sweep in time fails with `timeout`. -/
theorem resolved (h : client.Punctual since) (inTime : client.SweepsInTime since)
    {entry : Address × Nat} (mem : entry ∈ client.registry) {request : Request}
    (unresolved : client.UnresolvedOn entry.2 request) (old : client.overdue request = true) :
    (client.perform .turn).Resolved (request.fail .timeout) := by
  cases unused : client.isIdle entry with
  | true => exact absurd unresolved (h.not_unresolved inTime.soon mem unused request)
  | false =>
    exact inTime.sweeps.resolved h.reachable mem unused unresolved old
      (inTime.unwritten entry mem request)

/-- What a sweep in time ends on a registered connection was overdue. -/
theorem overdue_of_ends (h : client.Punctual since) (inTime : client.SweepsInTime since)
    {entry : Address × Nat} (mem : entry ∈ client.registry) {request : Request}
    (unresolved : client.UnresolvedOn entry.2 request)
    (gone : ∀ later, (client.perform .turn).UnresolvedOn entry.2 later →
      later.ticket ≠ request.ticket) : client.overdue request = true := by
  by_contra young
  have busy : client.isIdle entry = false := by
    by_contra unused
    exact h.not_unresolved inTime.soon mem (by simpa using unused) request unresolved
  rcases unresolved with ⟨connection, found, outstanding⟩ | written
  · obtain ⟨after, found', expires⟩ := inTime.sweeps.expires h.reachable mem busy found
    refine gone request (.inl ⟨after, found', ?_⟩) rfl
    rw [Connection.outstanding, expires.queue, expires.inFlight, ← List.filter_append]
    exact List.mem_filter.2 ⟨outstanding, by simpa using young⟩
  · exact inTime.unwritten entry mem request written

/-- What was unresolved on a connection that a sweep in time evicts has ended before. -/
theorem endsBetween {first : Client} {origin : Instant} (start : first.Punctual origin)
    (run : TimelyFrom first origin client since)
    (soon : client.now ≤ since + 2 * client.settings.tick) {entry : Address × Nat}
    (mem : entry ∈ client.registry) (unused : client.isIdle entry = true) {request : Request}
    (unresolved : first.UnresolvedOn entry.2 request) :
    first.EndsBetween origin client since entry.2 request.ticket := by
  have last := run.punctual start
  obtain ⟨between, latest, action, after, earlier, ends, rest, inTime⟩ :=
    run.exists_ends unresolved fun later there =>
      absurd there (last.not_unresolved soon mem unused later)
  refine ⟨between, latest, action, after, earlier, ends, rest, fun turn => ?_⟩
  subst turn
  have punctual := earlier.punctual start
  have orderly := punctual.reachable.orderly
  obtain ⟨⟨old, there, ticket⟩, gone⟩ := ends
  -- The entry was registered before the turn and is so after it.
  obtain ⟨connection, found⟩ := there.exists_connection orderly.sound
  have inside := (List.getElem?_eq_some_iff.1 found).1
  have length := (recorded_perform orderly.sound.valid .turn).length_le
  have kept : entry ∈ (between.perform .turn).registry :=
    rest.registered (inside.trans_le length) (orderly.perform .turn) mem
  have registered : entry ∈ between.registry :=
    ((recorded_perform orderly.sound.valid .turn).registered kept).resolve_right inside.ne
  rcases between.sweeps_or_passes with sweeps | passes
  · have inTime := inTime rfl sweeps
    have overdue := punctual.overdue_of_ends inTime registered there (ticket ▸ gone)
    exact ⟨inTime, old, there, ticket, punctual.resolved inTime registered there overdue⟩
  · rcases passes.unresolved with none | stays
    · rw [none] at kept
      cases kept
    · exact absurd ticket (gone old (stays _ _ there))

end Punctual

/-- The settings of a client make the eviction of idle connections harmless, provided that sweeps
come at most two ticks after one another, counting from the start of the loop, and that drivers are
not writing then: no request ever fails because its connection was idle. Where such a sweep evicts a
connection nothing is queued, in flight or being written; whatever was has ended before, and where
the loop has ended it, an earlier sweep let it fail with `timeout`, as each does with all requests
of registered connections that are overdue. -/
theorem idle_eviction_harmless {since : Instant} (h : client.Timely since) :
    (∀ notice ∈ client.notices, ∀ endpoint,
      notice.outcome ≠ .failure (.connectionClosed endpoint .idle)) ∧
    (client.SweepsInTime since →
      (∀ entry ∈ client.registry, client.isIdle entry = true →
        (∃ connection, client.connections[entry.2]? = some connection ∧
          connection.drain.1 = [] ∧
          (client.perform .turn).connections[entry.2]? = some (connection.retired .idle)) ∧
        ∀ request, ¬ client.UnresolvedOn entry.2 request) ∧
      (∀ entry ∈ client.registry, ∀ request, client.UnresolvedOn entry.2 request →
        client.overdue request = true →
          (client.perform .turn).Resolved (request.fail .timeout)) ∧
      ∀ earlier origin, earlier.Timely origin → TimelyFrom earlier origin client since →
        ∀ entry ∈ client.registry, client.isIdle entry = true → ∀ request,
          earlier.UnresolvedOn entry.2 request →
            earlier.EndsBetween origin client since entry.2 request.ticket) := by
  have punctual := h.punctual
  refine ⟨punctual.spared, fun inTime => ⟨fun entry mem unused => ?_,
    fun entry mem request unresolved old => punctual.resolved inTime mem unresolved old,
    fun earlier origin timely run entry mem unused request unresolved =>
      timely.punctual.endsBetween run inTime.soon mem unused unresolved⟩⟩
  have none := punctual.not_unresolved inTime.soon mem unused
  have found := List.getElem?_eq_getElem (punctual.reachable.orderly.sound.valid entry mem)
  refine ⟨⟨_, found, ?_, inTime.sweeps.swept.evicted entry mem unused _ found⟩, none⟩
  exact List.eq_nil_iff_forall_not_mem.2 fun request outstanding =>
    none request (.inl ⟨_, found, outstanding⟩)

end

/-- Actions that are no turns leave the moment from which the next sweep counts. -/
theorem TimelyFrom.others {first client : Client} {origin since : Instant}
    (h : TimelyFrom first origin client since) (actions : List Action)
    (still : ∀ action ∈ actions, action ≠ .turn) :
    TimelyFrom first origin (client.performAll actions) since := by
  induction actions generalizing client with
  | nil => exact h
  | cons action later ih =>
    obtain ⟨other, still⟩ := List.forall_mem_cons.1 still
    exact ih (h.tail (.other fun turn => absurd turn other)) still

/-- A client with short timeouts. -/
def brief : Client where
  settings := { requestTimeoutMs := 100, connectionTimeoutMs := 300, tickMs := 50 }
  parsers := []
  pool := {}
  nextXid := 1

/-- As long as two sweeps may be apart. -/
def twoTicks : Duration := Duration.ofMillis 100

/-- Its loop was started. -/
def started : Client := (brief.perform .start).performAll [.elapse timerProbe]

/-- The loop has begun, a call was made, and the first sweep is near. -/
def waiting : Client := (started.perform .turn).performAll [.send nullCall, .elapse twoTicks]

/-- At the second sweep the request is overdue. -/
def waitingLonger : Client := (waiting.perform .turn).performAll [.elapse twoTicks]

/-- At the third one the connection has not been used for as long as it may. -/
def tired : Client := (waitingLonger.perform .turn).performAll [.tellPosted 0, .elapse twoTicks]

/-- At the fourth one it has not been used for longer. -/
def resting : Client := (tired.perform .turn).performAll [.elapse twoTicks]

theorem timely_resting : ∃ since, resting.Timely since ∧ resting.SweepsInTime since := by
  have inTime {client : Client} {since : Instant} (sweeps : client.Sweeps)
      (soon : client.now ≤ since + 2 * client.settings.tick)
      (free : client.sessions.all (fun session => session.held.isNone) = true) :
      client.SweepsInTime since := by
    refine ⟨sweeps, soon, fun entry _ request ⟨session, mem, _, held⟩ => ?_⟩
    have none := List.all_eq_true.1 free session mem
    rw [held] at none
    cases none
  have starts : TimelyFrom brief brief.now started brief.now :=
    (TimelyFrom.refl.tail (.began rfl (.inl ⟨rfl, rfl⟩))).others _ (by simp)
  have waits : TimelyFrom brief brief.now waiting started.now :=
    (starts.tail (.began rfl (.inr ⟨_, rfl, rfl⟩))).others _ (by simp)
  have waitsLonger : TimelyFrom brief brief.now waitingLonger waiting.now :=
    (waits.tail (.swept (inTime (by decide +kernel) (by decide +kernel)
      (by decide +kernel)))).others _ (by simp)
  have tires : TimelyFrom brief brief.now tired waitingLonger.now :=
    (waitsLonger.tail (.swept (inTime (by decide +kernel) (by decide +kernel)
      (by decide +kernel)))).others _ (by simp)
  have rests : TimelyFrom brief brief.now resting tired.now :=
    (tires.tail (.swept (inTime (by decide +kernel) (by decide +kernel)
      (by decide +kernel)))).others _ (by simp)
  exact ⟨tired.now, ⟨brief, ⟨brief.settings, [], {}, 1, rfl⟩, rests⟩,
    inTime (by decide +kernel) (by decide +kernel) (by decide +kernel)⟩

theorem idle_eviction_harmless_resting : ∃ connection,
    resting.connections[0]? = some connection ∧ connection.drain.1 = [] ∧
    (resting.perform .turn).connections[0]? = some (connection.retired .idle) ∧
    resting.notices.map Notice.outcome = [.failure .timeout] := by
  obtain ⟨since, timely, inTime⟩ := timely_resting
  obtain ⟨evicts, -, -⟩ := (idle_eviction_harmless timely).2 inTime
  obtain ⟨⟨connection, found, empty, evicted⟩, -⟩ :=
    evicts (nullCall.target, 0) (by decide +kernel) (by decide +kernel)
  exact ⟨connection, found, empty, evicted, by decide +kernel⟩

end Client

end RemoteCall
