import Mathlib.Data.List.DropRight
import RemoteCall.Proofs.Client.Shutdown

/-!
# What a sweep does

A sweep goes through the registry once. Connections that were not used for too long leave it, and
what was outstanding on them fails; from the others the requests that are too old are taken, all of
them in flight and those at the head of the queue. `Swept` says what has become of every connection
and which notices were posted. A turn of the loop sweeps where `Sweeps` holds, and nowhere else.
-/
namespace RemoteCall

/-- A connection that was removed from service for a reason. -/
def Connection.retired (connection : Connection) (reason : CloseReason) : Connection :=
  { connection.drain.2.requestClose reason with evicted := true }

theorem Connection.closeReason_retired (connection : Connection) (reason : CloseReason) :
    (connection.retired reason).closeReason ≠ none := by
  simp only [retired, requestClose, drain]
  cases connection.closeReason <;> simp

theorem Connection.retired_retired (connection : Connection) (reason : CloseReason) :
    (connection.retired reason).retired reason = connection.retired reason := by
  simp only [retired, requestClose, drain]
  cases connection.closeReason <;> rfl

/-- What is left after taking what is too old has nothing to take. -/
theorem Connection.takeExpired_takeExpired (connection : Connection) (timeout : Duration)
    (now : Instant) :
    (connection.takeExpired timeout now).2.takeExpired timeout now =
      ([], (connection.takeExpired timeout now).2) := by
  let expired := fun (request : Request) => request.isExpired timeout now
  have none : (connection.inFlight.filter (!expired ·)).filter expired = [] := by
    simp [List.filter_filter]
  have same : (connection.inFlight.filter (!expired ·)).filter (!expired ·) =
      connection.inFlight.filter (!expired ·) := by
    simp [List.filter_filter]
  have head : (connection.queue.dropWhile expired).takeWhile expired = [] :=
    List.takeWhile_eq_nil_iff.2 fun pos => List.dropWhile_get_zero_not _ connection.queue pos
  have rest : (connection.queue.dropWhile expired).dropWhile expired =
      connection.queue.dropWhile expired := List.dropWhile_idempotent expired connection.queue
  simp only [takeExpired]
  rw [none, same, head, rest, List.append_nil]

namespace Client

variable {client next : Client} {index : Nat} {connection : Connection} {request : Request}

/-! ## Taking what is too old -/

/-- Each of several connections is without the requests that are too old. -/
theorem getElem?_takeAllExpired (indices : List Nat) (client : Client) (index : Nat) :
    (client.takeAllExpired indices).2.connections[index]? =
      if index ∈ indices then
        client.connections[index]?.map fun connection =>
          (connection.takeExpired client.settings.requestTimeout client.now).2
      else client.connections[index]? := by
  induction indices generalizing client with
  | nil => rfl
  | cons first later ih =>
    have rest : (client.takeAllExpired (first :: later)).2 =
        ((client.takeExpired first).2.takeAllExpired later).2 := rfl
    rw [rest, ih (client.takeExpired first).2]
    cases hfirst : client.connections[first]? with
    | none =>
      rw [takeExpired_eq_self hfirst]
      by_cases here : index = first
      · subst here
        simp [hfirst]
      · simp [here]
    | some connection =>
      obtain ⟨lt, -⟩ := List.getElem?_eq_some_iff.1 hfirst
      rw [takeExpired_eq hfirst]
      by_cases here : index = first
      · subst here
        simp [hfirst, List.getElem?_set_self lt, Connection.takeExpired_takeExpired]
      · simp [here, List.getElem?_set_ne (Ne.symm here)]

/-- What is taken from several connections is what is too old on one of them. -/
theorem mem_takeAllExpired (indices : List Nat) (client : Client) :
    request ∈ (client.takeAllExpired indices).1 ↔
      ∃ index ∈ indices, ∃ connection, client.connections[index]? = some connection ∧
        request ∈ (connection.takeExpired client.settings.requestTimeout client.now).1 := by
  induction indices generalizing client with
  | nil => simp [takeAllExpired]
  | cons first later ih =>
    have step : (client.takeAllExpired (first :: later)).1 =
        (client.takeExpired first).1 ++ ((client.takeExpired first).2.takeAllExpired later).1 := rfl
    rw [step, List.mem_append, ih (client.takeExpired first).2]
    cases hfirst : client.connections[first]? with
    | none =>
      rw [takeExpired_eq_self hfirst]
      simp [hfirst]
    | some connection =>
      obtain ⟨lt, -⟩ := List.getElem?_eq_some_iff.1 hfirst
      rw [takeExpired_eq hfirst]
      constructor
      · rintro (taken | ⟨index, mem, other, hother, taken⟩)
        · exact ⟨first, List.mem_cons_self, connection, hfirst, taken⟩
        · rcases getElem?_set_cases hother with ⟨-, rfl⟩ | ⟨-, old⟩
          · rw [Connection.takeExpired_takeExpired] at taken
            cases taken
          · exact ⟨index, List.mem_cons_of_mem _ mem, other, old, taken⟩
      · rintro ⟨index, mem, other, hother, taken⟩
        by_cases here : index = first
        · rw [here, hfirst, Option.some.injEq] at hother
          rw [hother]
          exact .inl taken
        · refine .inr ⟨index, (List.mem_cons.1 mem).resolve_left here, other, ?_, taken⟩
          exact (List.getElem?_set_ne (Ne.symm here)).trans hother

/-! ## Removing from service -/

/-- Each of several connections is removed from service. -/
theorem getElem?_retireAll (entries : List (Address × Nat)) (reason : CloseReason)
    (client : Client) (index : Nat) :
    (entries.foldl (fun client entry => client.retireAndFail entry.2 reason)
      client).connections[index]? =
      if index ∈ entries.map Prod.snd then
        client.connections[index]?.map fun connection => connection.retired reason
      else client.connections[index]? := by
  induction entries generalizing client with
  | nil => rfl
  | cons first later ih =>
    rw [List.foldl_cons, ih (client.retireAndFail first.2 reason)]
    cases hfirst : client.connections[first.2]? with
    | none =>
      rw [retireAndFail_eq_self hfirst]
      by_cases here : index = first.2
      · subst here
        simp [hfirst]
      · simp only [List.map_cons, List.mem_cons, here, false_or]
    | some connection =>
      obtain ⟨lt, -⟩ := List.getElem?_eq_some_iff.1 hfirst
      rw [retireAndFail_eq hfirst]
      by_cases here : index = first.2
      · subst here
        have twice := connection.retired_retired reason
        simp only [Connection.retired] at twice
        simp [hfirst, List.getElem?_set_self lt, Connection.retired, twice]
      · simp only [List.map_cons, List.mem_cons, here, false_or,
          List.getElem?_set_ne (Ne.symm here)]

/-- What was outstanding on the connections that were removed from service has failed, and nothing
else. -/
theorem mem_posted_retireAll (entries : List (Address × Nat)) (reason : CloseReason)
    (client : Client) {notice : Notice} :
    notice ∈ (entries.foldl (fun client entry => client.retireAndFail entry.2 reason)
        client).posted ↔
      notice ∈ client.posted ∨ ∃ entry ∈ entries, ∃ connection,
        client.connections[entry.2]? = some connection ∧ ∃ request ∈ connection.outstanding,
          request.fail (reason.failure connection.endpoint) = notice := by
  constructor
  · intro mem
    induction entries generalizing client with
    | nil => exact .inl mem
    | cons first later ih =>
      rcases ih (client.retireAndFail first.2 reason) mem with
        before | ⟨entry, hentry, connection, hc, failed⟩
      · cases hfirst : client.connections[first.2]? with
        | none =>
          rw [retireAndFail_eq_self hfirst] at before
          exact .inl before
        | some connection =>
          rw [retireAndFail_eq hfirst] at before
          rcases List.mem_append.1 before with old | new
          · exact .inl old
          · exact .inr ⟨first, List.mem_cons_self, connection, hfirst, List.mem_map.1 new⟩
      · cases hfirst : client.connections[first.2]? with
        | none =>
          rw [retireAndFail_eq_self hfirst] at hc
          exact .inr ⟨entry, List.mem_cons_of_mem _ hentry, connection, hc, failed⟩
        | some retired =>
          rw [retireAndFail_eq hfirst] at hc
          rcases getElem?_set_cases hc with ⟨-, rfl⟩ | ⟨-, old⟩
          · obtain ⟨request, outstanding, -⟩ := failed
            cases outstanding
          · exact .inr ⟨entry, List.mem_cons_of_mem _ hentry, connection, old, failed⟩
  · rintro (before | ⟨entry, hentry, connection, hc, request, outstanding, rfl⟩)
    · exact (turnRelation_posted.retireAll entries reason client).subset before
    · exact failed_retireAll reason hc ⟨entry, hentry, rfl⟩ outstanding

/-! ## A sweep -/

/-- What a sweep has made of a client. -/
structure Swept (client next : Client) : Prop where
  registry : next.registry = client.registry.filter (!client.isIdle ·)
  kept : ∀ entry ∈ client.registry, client.isIdle entry = false → ∀ connection,
    client.connections[entry.2]? = some connection → next.connections[entry.2]? =
      some (connection.takeExpired client.settings.requestTimeout client.now).2
  evicted : ∀ entry ∈ client.registry, client.isIdle entry = true → ∀ connection,
    client.connections[entry.2]? = some connection →
      next.connections[entry.2]? = some (connection.retired .idle)
  others : ∀ index, (∀ entry ∈ client.registry, entry.2 ≠ index) →
    next.connections[index]? = client.connections[index]?
  sessions : next.sessions.map (fun session => (session.connection, session.held)) =
    client.sessions.map fun session => (session.connection, session.held)
  posted : ∀ notice, notice ∈ next.posted ↔ notice ∈ client.posted ∨
    (∃ entry ∈ client.registry, client.isIdle entry = true ∧ ∃ connection,
      client.connections[entry.2]? = some connection ∧ ∃ request ∈ connection.outstanding,
        request.fail (CloseReason.idle.failure connection.endpoint) = notice) ∨
    ∃ entry ∈ client.registry, client.isIdle entry = false ∧ ∃ connection,
      client.connections[entry.2]? = some connection ∧
        ∃ request ∈ (connection.takeExpired client.settings.requestTimeout client.now).1,
          request.fail .timeout = notice

/-- Being idle is a matter of the connection. -/
theorem isIdle_congr {first second : Address × Nat} (same : first.2 = second.2) :
    client.isIdle first = client.isIdle second := by
  unfold isIdle
  rw [same]

/-- An entry that is idle and one that is not are about different connections. -/
theorem not_mem_idle {entry : Address × Nat} (busy : client.isIdle entry = false) :
    entry.2 ∉ (client.registry.filter client.isIdle).map Prod.snd := by
  intro mem
  obtain ⟨other, hother, same⟩ := List.mem_map.1 mem
  rw [← isIdle_congr same, (List.mem_filter.1 hother).2] at busy
  cases busy

theorem not_mem_kept {entry : Address × Nat} (unused : client.isIdle entry = true) :
    entry.2 ∉ (client.registry.filter (!client.isIdle ·)).map Prod.snd := by
  intro mem
  obtain ⟨other, hother, same⟩ := List.mem_map.1 mem
  have busy := (List.mem_filter.1 hother).2
  rw [isIdle_congr same, unused] at busy
  cases busy

/-- What a sweep makes of a connection. -/
theorem getElem?_sweep (client : Client) (index : Nat) : client.sweep.connections[index]? =
    if index ∈ (client.registry.filter client.isIdle).map Prod.snd then
      client.connections[index]?.map fun connection => connection.retired .idle
    else if index ∈ (client.registry.filter (!client.isIdle ·)).map Prod.snd then
      client.connections[index]?.map fun connection =>
        (connection.takeExpired client.settings.requestTimeout client.now).2
    else client.connections[index]? := by
  let kept := client.registry.filter (!client.isIdle ·)
  have retired := getElem?_retireAll (client.registry.filter client.isIdle) .idle
    (({ client with registry := kept } : Client).takeAllExpired (kept.map Prod.snd)).2 index
  refine retired.trans ?_
  rw [getElem?_takeAllExpired]
  by_cases idle : index ∈ (client.registry.filter client.isIdle).map Prod.snd
  · obtain ⟨entry, mem, same⟩ := List.mem_map.1 idle
    have absent : index ∉ kept.map Prod.snd := same ▸ not_mem_kept (List.mem_filter.1 mem).2
    rw [if_pos idle, if_pos idle, if_neg absent]
  · rw [if_neg idle, if_neg idle]

/-- What a sweep posts. -/
theorem mem_posted_sweep (client : Client) (notice : Notice) :
    notice ∈ client.sweep.posted ↔ notice ∈ client.posted ∨
      (∃ entry ∈ client.registry, client.isIdle entry = true ∧ ∃ connection,
        client.connections[entry.2]? = some connection ∧ ∃ request ∈ connection.outstanding,
          request.fail (CloseReason.idle.failure connection.endpoint) = notice) ∨
      ∃ entry ∈ client.registry, client.isIdle entry = false ∧ ∃ connection,
        client.connections[entry.2]? = some connection ∧
          ∃ request ∈ (connection.takeExpired client.settings.requestTimeout client.now).1,
            request.fail .timeout = notice := by
  let idle := client.registry.filter client.isIdle
  let kept := client.registry.filter (!client.isIdle ·)
  let taken := ({ client with registry := kept } : Client).takeAllExpired (kept.map Prod.snd)
  have mem_idle {entry : Address × Nat} : entry ∈ idle ↔
      entry ∈ client.registry ∧ client.isIdle entry = true := List.mem_filter
  have mem_kept {entry : Address × Nat} : entry ∈ kept ↔
      entry ∈ client.registry ∧ client.isIdle entry = false := by simp [kept]
  have posted : client.sweep.posted = (idle.foldl (fun client entry =>
      client.retireAndFail entry.2 .idle) taken.2).posted ++
        taken.1.map fun request => request.fail .timeout := rfl
  have before : taken.2.posted = client.posted := by
    rw [takeAllExpired_frame]
  -- What is taken from others leaves an idle connection as it was.
  have same {entry : Address × Nat} (unused : client.isIdle entry = true) :
      taken.2.connections[entry.2]? = client.connections[entry.2]? :=
    (getElem?_takeAllExpired _ _ _).trans (if_neg (not_mem_kept unused))
  rw [posted, List.mem_append, mem_posted_retireAll, before, List.mem_map, or_assoc]
  refine or_congr Iff.rfl (or_congr ?_ ?_)
  · constructor
    · rintro ⟨entry, hentry, connection, hc, failed⟩
      obtain ⟨mem, unused⟩ := mem_idle.1 hentry
      exact ⟨entry, mem, unused, connection, same unused ▸ hc, failed⟩
    · rintro ⟨entry, mem, unused, connection, hc, failed⟩
      exact ⟨entry, mem_idle.2 ⟨mem, unused⟩, connection, (same unused).trans hc, failed⟩
  · constructor
    · rintro ⟨request, hrequest, rfl⟩
      obtain ⟨index, hindex, connection, hc, old⟩ := (mem_takeAllExpired _ _).1 hrequest
      obtain ⟨entry, hentry, rfl⟩ := List.mem_map.1 hindex
      obtain ⟨mem, busy⟩ := mem_kept.1 hentry
      exact ⟨entry, mem, busy, connection, hc, request, old, rfl⟩
    · rintro ⟨entry, mem, busy, connection, hc, request, old, rfl⟩
      refine ⟨request, (mem_takeAllExpired _ _).2 ⟨entry.2, ?_, connection, hc, old⟩, rfl⟩
      exact List.mem_map_of_mem (mem_kept.2 ⟨mem, busy⟩)

theorem swept_sweep (client : Client) : client.Swept client.sweep where
  registry := by
    unfold sweep postFailures
    simp only
    rw [retireAll_frame, takeAllExpired_frame]
  kept := by
    intro entry mem busy connection found
    have there : entry.2 ∈ (client.registry.filter (!client.isIdle ·)).map Prod.snd :=
      List.mem_map_of_mem (List.mem_filter.2 ⟨mem, by simp [busy]⟩)
    rw [getElem?_sweep, if_neg (not_mem_idle busy), if_pos there, found]
    rfl
  evicted := by
    intro entry mem unused connection found
    have there : entry.2 ∈ (client.registry.filter client.isIdle).map Prod.snd :=
      List.mem_map_of_mem (List.mem_filter.2 ⟨mem, unused⟩)
    rw [getElem?_sweep, if_pos there, found]
    rfl
  others := by
    intro index none
    have absent {list : List (Address × Nat)} (sub : list ⊆ client.registry) :
        index ∉ list.map Prod.snd := by
      intro mem
      obtain ⟨entry, hentry, same⟩ := List.mem_map.1 mem
      exact none entry (sub hentry) same
    rw [getElem?_sweep, if_neg (absent List.filter_sublist.subset),
      if_neg (absent List.filter_sublist.subset)]
  sessions := by rw [sweep_frame]
  posted := mem_posted_sweep client

/-! ## Turns with a sweep and turns without -/

/-- The next turn of the loop sweeps. -/
structure Sweeps (client : Client) : Prop where
  free : client.mayTurn = true
  up : client.shuttingDown = false
  turning : ∃ since, client.loop = .turning since ∧ client.turnEnds since = true
  due : client.settings.tick ≤ client.now.since client.lastSweep

instance : DecidablePred Sweeps := fun client =>
  decidable_of_iff (client.mayTurn = true ∧ client.shuttingDown = false ∧
      (match client.loop with
        | .turning since => client.turnEnds since
        | _ => false) = true ∧
      client.settings.tick ≤ client.now.since client.lastSweep) (by
    constructor
    · rintro ⟨free, up, turning, due⟩
      refine ⟨free, up, ?_, due⟩
      split at turning
      · exact ⟨_, ‹_›, turning⟩
      · cases turning
    · rintro ⟨free, up, ⟨since, loop, ends⟩, due⟩
      refine ⟨free, up, ?_, due⟩
      rw [loop]
      exact ends)

/-- Taking up sessions leaves what they hold as it is. -/
theorem held_spawnAll (client : Client) :
    client.spawnAll.sessions.map (fun session => (session.connection, session.held)) =
      client.sessions.map fun session => (session.connection, session.held) := by
  have spawned (list : List Nat) : ∀ client : Client,
      (list.foldl spawn client).sessions.map (fun session => (session.connection, session.held)) =
        client.sessions.map fun session => (session.connection, session.held) := by
    induction list with
    | nil => exact fun client => rfl
    | cons n later ih =>
      intro client
      apply (ih (client.spawn n)).trans
      unfold spawn
      split
      · rfl
      · rename_i session hs
        exact map_set_of_eq _ hs rfl
  exact spawned client.registrations { client with registrations := [] }

/-- The client that a sweep finds when the loop has taken up what waits for it. -/
def beforeSweep (client : Client) (noticed : Nat) : Client :=
  { ({ client with driversEnded := noticed } : Client).spawnAll with lastSweep := client.now }

/-- Something ends a turn of the loop, which then works. -/
theorem exists_turn_eq_worked {since : Instant} (loop : client.loop = .turning since)
    (up : client.shuttingDown = false) (ends : client.turnEnds since = true) :
    ∃ noticed, client.turn =
      (client.worked noticed).enter (.turning (client.worked noticed).now) := by
  unfold turn turn?
  split <;> rename_i stands <;> rw [stands] at loop <;> cases loop
  rw [if_neg (by rw [up]; exact Bool.false_ne_true), if_pos ends]
  exact ⟨_, rfl⟩

/-- A turn that works sweeps if a sweep is due. -/
theorem worked_eq (client : Client) (noticed : Nat) : client.worked noticed =
    if client.settings.tick ≤ client.now.since client.lastSweep then
      (client.beforeSweep noticed).sweep
    else ({ client with driversEnded := noticed } : Client).spawnAll := by
  have frame := spawnAll_frame { client with driversEnded := noticed }
  rw [worked, beforeSweep]
  generalize ({ client with driversEnded := noticed } : Client).spawnAll = spawned at frame
  have settings : spawned.settings = client.settings := by rw [frame]
  have now : spawned.now = client.now := by rw [frame]
  have lastSweep : spawned.lastSweep = client.lastSweep := by rw [frame]
  rw [sweepIfDue, settings, now, lastSweep]

theorem beforeSweep_frame (client : Client) (noticed : Nat) :
    client.beforeSweep noticed = { client with
      driversEnded := noticed
      lastSweep := client.now
      registrations := []
      sessions := (client.beforeSweep noticed).sessions } := by
  rw [beforeSweep, spawnAll_frame]

theorem Sweeps.exists_perform_eq (h : client.Sweeps) : ∃ noticed,
    client.perform .turn = (client.beforeSweep noticed).sweep.enter (.turning client.now) := by
  obtain ⟨free, up, ⟨since, loop, ends⟩, due⟩ := h
  obtain ⟨noticed, turned⟩ := exists_turn_eq_worked loop up ends
  have performed : client.perform .turn = client.turn := if_pos free
  have now : (client.beforeSweep noticed).sweep.now = client.now := by
    rw [sweep_frame, beforeSweep_frame]
  rw [worked_eq, if_pos due, now] at turned
  exact ⟨noticed, performed.trans turned⟩

/-- A turn that sweeps does what the sweep does. -/
theorem Sweeps.swept (h : client.Sweeps) : client.Swept (client.perform .turn) := by
  obtain ⟨noticed, changed⟩ := h.exists_perform_eq
  have held : (client.beforeSweep noticed).sessions.map
      (fun session => (session.connection, session.held)) =
        client.sessions.map fun session => (session.connection, session.held) :=
    held_spawnAll { client with driversEnded := noticed }
  have swept := swept_sweep (client.beforeSweep noticed)
  have frame := beforeSweep_frame client noticed
  generalize (client.beforeSweep noticed).sessions = sessions at held frame
  rw [changed]
  rw [frame] at swept ⊢
  exact ⟨swept.registry, swept.kept, swept.evicted, swept.others, swept.sessions.trans held,
    swept.posted⟩

/-- What a turn without a sweep makes of a client. -/
inductive Passes (client : Client) : Client → Prop where
  | waited : Passes client client
  | began (lastSweep : Instant) (loop : LoopPhase) :
      Passes client (({ client with lastSweep := lastSweep } : Client).enter loop)
  | resumed (noticed : Nat) (loop : LoopPhase) :
      Passes client ((({ client with driversEnded := noticed } : Client).spawnAll).enter loop)
  | halted (lastSweep : Instant) :
      Passes client ({ client with lastSweep := lastSweep } : Client).halt

theorem sweeps_or_passes (client : Client) :
    client.Sweeps ∨ client.Passes (client.perform .turn) := by
  have performed : client.perform .turn = if client.mayTurn then client.turn else client := rfl
  rw [performed]
  cases free : client.mayTurn with
  | false => exact .inr .waited
  | true =>
    rw [if_pos rfl]
    by_cases works : ∃ since, client.loop = .turning since ∧ client.shuttingDown = false ∧
        client.turnEnds since = true
    · obtain ⟨since, loop, up, ends⟩ := works
      obtain ⟨noticed, turned⟩ := exists_turn_eq_worked loop up ends
      rw [turned]
      by_cases due : client.settings.tick ≤ client.now.since client.lastSweep
      · exact .inl ⟨free, up, ⟨since, loop, ends⟩, due⟩
      · right
        rw [worked_eq, if_neg due]
        exact .resumed noticed _
    · right
      unfold turn turn?
      split
      · exact .waited
      · exact .waited
      · split
        · exact .waited
        · simp only
          split
          · exact .halted client.now
          · exact .began client.now _
      · rename_i since loop
        split
        · exact .halted client.lastSweep
        · rename_i up
          split
          · rename_i ends
            exact absurd ⟨since, loop, by simpa using up, ends⟩ works
          · exact .waited
      · split
        · exact .began client.lastSweep _
        · exact .waited
      · exact .waited

/-- Closing sessions that are not taken up lets requests fail with `shutDown`. -/
theorem mem_posted_discardAll (list : List Nat) (client : Client) {notice : Notice}
    (mem : notice ∈ (list.foldl discard client).posted) :
    notice ∈ client.posted ∨ ∃ request : Request, request.fail .shutDown = notice := by
  induction list generalizing client with
  | nil => exact .inl mem
  | cons n later ih =>
    rcases ih (client.discard n) mem with before | failed
    · unfold discard at before
      split at before
      · exact .inl before
      · simp only at before
        split at before
        · exact .inl before
        · rcases List.mem_append.1 before with old | new
          · exact .inl old
          · obtain ⟨request, -, failed⟩ := List.mem_map.1 new
            exact .inr ⟨request, failed⟩
    · exact .inr failed

/-- When everything registered is removed from service, requests fail with `shutDown`. -/
theorem mem_posted_failOutstanding (client : Client) {notice : Notice}
    (mem : notice ∈ client.failOutstanding.posted) :
    notice ∈ client.posted ∨ ∃ request : Request, request.fail .shutDown = notice := by
  rcases (mem_posted_retireAll client.registry .shutdown _).1 mem with
    old | ⟨_, _, _, _, request, _, failed⟩
  · exact .inl old
  · exact .inr ⟨request, failed⟩

/-- When everything registered is removed from service, what was not registered stays as it is. -/
theorem failOutstanding_cases (client : Client) {after : Connection}
    (found : client.failOutstanding.connections[index]? = some after) :
    (client.connections[index]? = some after ∧ ∀ entry ∈ client.registry, entry.2 ≠ index) ∨
      ∃ before, client.connections[index]? = some before ∧ before.retired .shutdown = after := by
  have retired := getElem?_retireAll client.registry .shutdown { client with registry := [] } index
  replace found := retired.symm.trans found
  split at found
  · exact .inr (Option.map_eq_some_iff.1 found)
  · rename_i absent
    exact .inl ⟨found, fun entry mem same => absent (same ▸ List.mem_map_of_mem mem)⟩

/-- Nobody is newly asked to close for being idle, and a connection that is not asked to close stays
registered. -/
structure Spares (client next : Client) : Prop where
  asked : ∀ (index : Nat) after, next.connections[index]? = some after →
    after.closeReason = some .idle →
      ∃ before, client.connections[index]? = some before ∧ before.closeReason = some .idle
  unasked : ∀ (index : Nat) after, next.connections[index]? = some after →
    after.closeReason = none →
      ∃ before, client.connections[index]? = some before ∧ before.closeReason = none ∧
        ∀ entry ∈ client.registry, entry.2 = index → entry ∈ next.registry

theorem Spares.of_same (registry : next.registry = client.registry)
    (closeReasons : next.connections.map Connection.closeReason =
      client.connections.map Connection.closeReason) : client.Spares next where
  asked := by
    intro index after found idle
    obtain ⟨before, found', same⟩ := exists_of_map_eq closeReasons found
    exact ⟨before, found', same.trans idle⟩
  unasked := by
    intro index after found none
    obtain ⟨before, found', same⟩ := exists_of_map_eq closeReasons found
    exact ⟨before, found', same.trans none, fun entry mem _ => registry ▸ mem⟩

theorem spares_failOutstanding (client : Client) : client.Spares client.failOutstanding where
  asked := by
    intro index after found idle
    rcases failOutstanding_cases client found with ⟨same, -⟩ | ⟨before, found', rfl⟩
    · exact ⟨after, same, idle⟩
    · refine ⟨before, found', ?_⟩
      simp only [Connection.retired, Connection.requestClose, Connection.drain] at idle
      cases reason : before.closeReason with
      | none => simp [reason] at idle
      | some asked => simpa [reason] using idle
  unasked := by
    intro index after found none
    rcases failOutstanding_cases client found with ⟨same, absent⟩ | ⟨before, -, rfl⟩
    · exact ⟨after, same, none, fun entry mem here => absurd here (absent entry mem)⟩
    · exact absurd none (before.closeReason_retired .shutdown)

/-- Without a sweep the loop lets requests fail only because the client was shut down. -/
theorem Passes.mem_posted (h : client.Passes next) {notice : Notice} (mem : notice ∈ next.posted) :
    notice ∈ client.posted ∨ ∃ request : Request, request.fail .shutDown = notice := by
  cases h with
  | waited => exact .inl mem
  | began lastSweep loop => exact .inl mem
  | resumed noticed loop =>
    rw [spawnAll_frame] at mem
    exact .inl mem
  | halted lastSweep =>
    rcases mem_posted_discardAll _ _ mem with before | failed
    · exact mem_posted_failOutstanding { client with lastSweep := lastSweep } before
    · exact .inr failed

theorem spares_halt (client : Client) : client.Spares client.halt := by
  have failed := spares_failOutstanding client
  rw [failOutstanding_frame] at failed
  rw [halt_frame]
  refine ⟨fun index after found idle => ?_, fun index after found none => ?_⟩
  · obtain ⟨middle, found', same⟩ := exists_of_map_eq (closeReasons_discardAll _ _) found
    exact failed.asked index middle found' (same.trans idle)
  · obtain ⟨middle, found', same⟩ := exists_of_map_eq (closeReasons_discardAll _ _) found
    exact failed.unasked index middle found' (same.trans none)

/-- Without a sweep the loop asks nobody to close for being idle. -/
theorem Passes.spares (h : client.Passes next) : client.Spares next := by
  cases h with
  | waited => exact .of_same rfl rfl
  | began lastSweep loop => exact .of_same rfl rfl
  | resumed noticed loop =>
    rw [spawnAll_frame]
    exact .of_same rfl rfl
  | halted lastSweep =>
    have halted := spares_halt { client with lastSweep := lastSweep }
    exact ⟨halted.asked, halted.unasked⟩

/-- Without a sweep the registry stays as it is or is emptied. -/
theorem Passes.registry (h : client.Passes next) :
    next.registry = client.registry ∨ next.registry = [] := by
  cases h with
  | waited => exact .inl rfl
  | began lastSweep loop => exact .inl rfl
  | resumed noticed loop =>
    rw [spawnAll_frame]
    exact .inl rfl
  | halted lastSweep =>
    rw [halt_frame]
    exact .inr rfl

end Client

end RemoteCall
