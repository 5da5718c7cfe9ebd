import RemoteCall.Proofs.Client.Filing

/-!
# Destinations that cannot be reached

Attempts to connect are counted by the connection of a destination, not by the destination. As long
as that connection stays registered, no channel is asked for within the back-off after the last of
as many failures as the settings allow, and calls fail at once with `unreachable`. When a sweep
evicts the connection the failures are forgotten, and the next call asks for a channel.
-/
namespace RemoteCall

namespace RetryAllowance

/-- Every failure counts, up to the largest 32-bit word. -/
theorem le_failures_recordFailure {allowance : RetryAllowance} {count : Nat} (now : Instant)
    (h : min count 4294967295 ≤ allowance.failures.toNat) :
    min (count + 1) 4294967295 ≤ (allowance.recordFailure now).failures.toNat := by
  rw [failures_recordFailure]
  omega

/-- After as many failures as are allowed, and one at least, nothing is permitted before the
back-off has passed. -/
theorem canAttempt_eq_false {allowance : RetryAllowance} {count : Nat} {last now : Instant}
    (counted : min count 4294967295 ≤ allowance.failures.toNat)
    (failure : allowance.lastFailure = some last)
    (spent : allowance.maxAttempts.toNat ≤ count) (past : last ≤ now)
    (early : now < last + allowance.backoff) : allowance.canAttempt now = false := by
  have bounded := allowance.maxAttempts.toNat_lt
  have exhausted : ¬ allowance.failures < allowance.maxAttempts := by
    rw [UInt32.lt_iff_toNat_lt]
    omega
  have waiting : ¬ allowance.backoff ≤ now.since last := by
    rw [Instant.since, Nat.not_le]
    exact Nat.sub_lt_left_of_lt_add past early
  simp [canAttempt, failure, exhausted, waiting]

end RetryAllowance

namespace Client

/-! ## Attempts -/

/-- The action ends an attempt to connect to the destination without success: a call whose channel
is refused at once, or a driver that gives up on its connection. -/
def FailsToConnect (client : Client) (target : Address) : Action → Prop
  | .send call => call.target = target ∧ (client.send call).opens ≠ client.opens ∧
      client.nextPlan.refusal? ≠ none
  | .drive n => ∃ session connection session', client.sessions[n]? = some session ∧
      client.connections[session.connection]? = some connection ∧ connection.target = target ∧
      connection.closeReason = none ∧ session.phase.connects = true ∧
      (client.perform (.drive n)).sessions[n]? = some session' ∧ session'.phase = .closed
  | _ => False

/-- A driver connects the channel to the destination. -/
def Connects (client : Client) (target : Address) : Action → Prop
  | .drive n => ∃ session connection session', client.sessions[n]? = some session ∧
      client.connections[session.connection]? = some connection ∧ connection.target = target ∧
      session.phase.connects = true ∧
      (client.perform (.drive n)).sessions[n]? = some session' ∧ session'.phase = .deciding
  | _ => False

/-- Actions in any order, with `P` for each of them, in which attempts to connect to a destination
fail `failures` times, the last time at `last`, and none succeeds. -/
inductive FailingWhile (P : Client → Action → Prop) (target : Address) (first : Client) :
    Client → Nat → Instant → Prop where
  | refl : FailingWhile P target first first 0 0
  | failed {client : Client} {failures : Nat} {last : Instant}
      (earlier : FailingWhile P target first client failures last) {action : Action}
      (holds : P client action) (fails : client.FailsToConnect target action) :
      FailingWhile P target first (client.perform action) (failures + 1) client.now
  | other {client : Client} {failures : Nat} {last : Instant}
      (earlier : FailingWhile P target first client failures last) {action : Action}
      (holds : P client action) (fails : ¬ client.FailsToConnect target action)
      (connects : ¬ client.Connects target action) :
      FailingWhile P target first (client.perform action) failures last

/-- The action leaves the connection of the destination registered. -/
def KeepsRegistered (target : Address) (client : Client) (action : Action) : Prop :=
  ∀ index, client.registered? target = some index →
    (client.perform action).registered? target = some index

section

variable {client next : Client} {action : Action} {target : Address}

/-- A call fails to connect if it asks for a channel at the connection that it finds and is refused. -/
theorem FailsToConnect.of_located {call : Call} {index : Nat} {connection : Connection}
    {located : Client} (there : client.countCall.Located call.target index connection located)
    (asked : (client.send call).opens ≠ located.opens)
    (refused : located.nextPlan.refusal? ≠ none) :
    client.FailsToConnect call.target (.send call) := by
  have frame : located.opens = client.opens ∧ located.nextPlan = client.nextPlan := by
    rw [there.frame]
    exact ⟨rfl, rfl⟩
  rw [frame.1] at asked
  rw [frame.2] at refused
  exact ⟨rfl, asked, refused⟩

/-- A call whose channel cannot be had counts as a failure of the connection that it finds. -/
theorem FailsToConnect.of_send (sound : client.Sound) {call : Call}
    (fails : client.FailsToConnect target (.send call)) : ∃ index before located after,
      client.countCall.Located target index before located ∧
        (client.send call).registry = located.registry ∧
        (client.send call).connections = located.connections.set index after ∧
        after.allowance = before.allowance.recordFailure client.now := by
  obtain ⟨rfl, asked, refused⟩ := fails
  rcases malformed_or_placed sound.valid call with ⟨failure, -, changed⟩ |
    ⟨header, -, index, connection, located, found, placed⟩
  · rw [changed] at asked
    exact absurd rfl asked
  have same : located.opens = client.opens ∧ located.nextPlan = client.nextPlan ∧
      located.now = client.now := by
    rw [found.frame]
    exact ⟨rfl, rfl, rfl⟩
  obtain ⟨opens, nextPlan, now⟩ := same
  rw [← nextPlan] at refused
  generalize client.send call = next at asked placed
  cases placed with
  | refused down => exact absurd opens asked
  | queued up link owed => exact absurd opens asked
  | blocked up link spent => exact absurd opens asked
  | opened up link permitted accepted session => exact absurd accepted refused
  | gone up link permitted accepted shut session => exact absurd accepted refused
  | failed up link permitted cause refused unused =>
    exact ⟨index, connection, located, _, found, rfl, rfl,
      congrArg connection.allowance.recordFailure now⟩

/-- A driver whose session has come to another phase has taken a step that `Tended` describes. -/
theorem exists_tended_of_moved {n : Nat} {session session' : Session} {connection : Connection}
    (found : client.sessions[n]? = some session)
    (bound : client.connections[session.connection]? = some connection)
    (found' : (client.perform (.drive n)).sessions[n]? = some session')
    (moved : session'.phase ≠ session.phase) : ∃ connection' notices,
      client.step? n = some (client.perform (.drive n)) ∧
      (client.perform (.drive n)).registry = client.registry ∧
      (client.perform (.drive n)).connections =
        client.connections.set session.connection connection' ∧
      Tended client.now session connection session' connection' notices := by
  rcases client.perform_drive_eq n with same | ⟨-, step⟩
  · rw [same, found, Option.some.injEq] at found'
    exact absurd (congrArg Session.phase found'.symm) moved
  have stepped := stepped_of_step? found bound step
  obtain ⟨_, _, _, _, _, changed⟩ := stepped.drivenFrom bound
  obtain ⟨after, connection', notices, tended, sessions, connections, -⟩ :=
    stepped.tendedFrom bound
  rw [sessions, List.getElem?_set_self (List.getElem?_eq_some_iff.1 found).1,
    Option.some.injEq] at found'
  subst found'
  exact ⟨connection', notices, step, by rw [changed], connections, tended⟩

/-- A driver that gives up connecting counts a failure of its connection. -/
theorem FailsToConnect.of_drive {n : Nat} (fails : client.FailsToConnect target (.drive n)) :
    ∃ index before after, client.connections[index]? = some before ∧ before.target = target ∧
      before.closeReason = none ∧ (client.perform (.drive n)).registry = client.registry ∧
      (client.perform (.drive n)).connections = client.connections.set index after ∧
      after.allowance = before.allowance.recordFailure client.now := by
  obtain ⟨session, connection, session', found, bound, own, unasked, before, found', closed⟩ :=
    fails
  have moved : session'.phase ≠ session.phase := by
    intro same
    rw [← same, closed] at before
    cases before
  obtain ⟨connection', notices, -, registry, connections, tended⟩ :=
    exists_tended_of_moved found bound found' moved
  cases tended with
  | retained record connects swept =>
    rcases connects before with still | ⟨-, asked⟩
    · rw [closed] at still
      cases still
    · exact absurd unasked asked
  | connected before after =>
    rw [closed] at after
    cases after
  | failed cause before after unasked =>
    exact ⟨_, connection, _, bound, own, unasked, registry, connections, rfl⟩

/-- An attempt that fails is counted by the connection of its destination, which has counted nothing
before if it is new. -/
theorem FailsToConnect.counted (h : client.Reachable)
    (fails : client.FailsToConnect target action) :
    ∃ index before after, (∀ other, client.registered? target = some other →
        other = index ∧ client.connections[index]? = some before) ∧
      (client.registered? target = none →
        before.allowance.failures = 0 ∧ before.allowance.lastFailure = none) ∧
      (client.perform action).registered? target = some index ∧
      (client.perform action).connections[index]? = some after ∧
      after.allowance = before.allowance.recordFailure client.now := by
  have filed := h.filed
  have found_set {index : Nat} {before after : Connection} {list : List Connection}
      (found : list[index]? = some before)
      (connections : (client.perform action).connections = list.set index after) :
      (client.perform action).connections[index]? = some after := by
    rw [connections]
    exact List.getElem?_set_self (List.getElem?_eq_some_iff.1 found).1
  cases action with
  | send call =>
    obtain ⟨index, before, located, after, found, registry, connections, allowance⟩ :=
      fails.of_send h.orderly.sound
    refine ⟨index, before, after, fun other registered => ?_, fun unregistered => ?_, ?_,
      found_set found.found connections, allowance⟩
    · cases found with
      | known same bound => exact ⟨Option.some.inj (registered.symm.trans same), bound⟩
      | fresh unknown number => cases registered.symm.trans unknown
    · cases found with
      | known same bound => cases unregistered.symm.trans same
      | fresh unknown number => exact ⟨rfl, rfl⟩
    · have keys := (filed.countCall.located h.orderly.sound.valid found).1.keys
      have registered : located.registered? target = some index := by
        cases found with
        | known same bound => exact same
        | fresh unknown number =>
          exact (registered?_eq_some_iff keys).2
            (List.mem_append_right _ (List.mem_singleton_self _))
      rw [← registered]
      show (client.send call).registered? target = _
      rw [registered?, registered?, registry]
  | drive n =>
    obtain ⟨index, before, after, found, rfl, unasked, registry, connections, allowance⟩ :=
      fails.of_drive
    have registered : client.registered? before.target = some index :=
      (registered?_eq_some_iff filed.keys).2 (filed.filed index before found unasked)
    refine ⟨index, before, after, fun other there => ?_, fun unregistered => ?_, ?_,
      found_set found connections, allowance⟩
    · exact ⟨Option.some.inj (there.symm.trans registered), found⟩
    · cases unregistered.symm.trans registered
    · rw [← registered, registered?, registered?, registry]
  | _ => exact fails.elim

/-- A call changes an allowance only if a channel is asked for and refused. -/
theorem Placed.allowance {index : Nat} {connection : Connection} {request : Request}
    (h : client.Placed index connection request next)
    (found : client.connections[index]? = some connection) :
    ∃ after, next.connections[index]? = some after ∧ (after.allowance = connection.allowance ∨
      next.opens ≠ client.opens ∧ client.nextPlan.refusal? ≠ none) := by
  have inside := (List.getElem?_eq_some_iff.1 found).1
  cases h with
  | refused down => exact ⟨connection, found, .inl rfl⟩
  | queued up link owed => exact ⟨_, List.getElem?_set_self inside, .inl rfl⟩
  | blocked up link spent => exact ⟨_, List.getElem?_set_self inside, .inl rfl⟩
  | opened up link permitted accepted session => exact ⟨_, List.getElem?_set_self inside, .inl rfl⟩
  | gone up link permitted accepted shut session => exact ⟨_, List.getElem?_set_self inside, .inl rfl⟩
  | failed up link permitted cause refused unused =>
    exact ⟨_, List.getElem?_set_self inside, .inr ⟨List.cons_ne_self _ _, by rw [refused]; simp⟩⟩

/-- What a call finds does not change the connections that are there. -/
theorem Located.getElem? {index here : Nat} {connection record : Connection}
    (h : client.Located target here record next)
    (found : client.connections[index]? = some connection) :
    next.connections[index]? = some connection := by
  cases h with
  | known registered bound => exact found
  | fresh unknown number =>
    have inside := (List.getElem?_eq_some_iff.1 found).1
    exact (List.getElem?_append_left inside).trans found

/-- Without an attempt that ends the allowance of the destination's connection stays as it is. -/
theorem allowance_perform (h : client.Reachable) {index : Nat} {before : Connection}
    (registered : client.registered? target = some index)
    (found : client.connections[index]? = some before)
    (fails : ¬ client.FailsToConnect target action) (connects : ¬ client.Connects target action) :
    ∃ after, (client.perform action).connections[index]? = some after ∧
      after.allowance = before.allowance := by
  have sound := h.orderly.sound
  have recorded := recorded_perform sound.valid action
  have own : before.target = target :=
    h.filed.target _ ((registered?_eq_some_iff h.filed.keys).1 registered) before found
  generalize performed : client.perform action = next at recorded
  have kept (records : next.records = client.records) :
      ∃ after, next.connections[index]? = some after ∧ after.allowance = before.allowance := by
    obtain ⟨after, found', same⟩ := exists_of_map_eq records.symm found
    exact ⟨after, found', congrArg (·.2.1) same⟩
  cases recorded with
  | malformed call encoded => exact ⟨before, found, rfl⟩
  | placed call encoded there placed =>
    rename_i located header here connection
    have found' := there.getElem? found
    by_cases same : here = index
    · subst same
      have bound := there.found
      rw [found', Option.some.injEq] at bound
      subst bound
      obtain ⟨after, found'', kept | ⟨asked, refused⟩⟩ := placed.allowance found'
      · exact ⟨after, found'', kept⟩
      · -- The call has failed to connect.
        have target' := (h.filed.countCall.located sound.valid there).2
        rw [← performed] at asked
        have failed := FailsToConnect.of_located there asked refused
        rw [← target', own] at failed
        exact absurd failed fails
    · obtain ⟨after, connections, -⟩ := placed.exists_set there.found
      exact ⟨before, by rw [connections, List.getElem?_set_ne same, found'], rfl⟩
  | tended n there bound tended frame =>
    rename_i session connection
    obtain ⟨session', connection', notices, tended, sessions, connections, -⟩ := tended
    by_cases same : session.connection = index
    · subst same
      rw [found, Option.some.injEq] at bound
      subst bound
      have there' : (client.perform (.drive n)).sessions[n]? = some session' := by
        rw [performed, sessions]
        exact List.getElem?_set_self (List.getElem?_eq_some_iff.1 there).1
      refine ⟨connection', ?_, ?_⟩
      · rw [connections]
        exact List.getElem?_set_self (List.getElem?_eq_some_iff.1 found).1
      cases tended with
      | retained record connects swept => exact record.allowance
      | connected before after =>
        exact absurd ⟨session, _, session', there, found, own, before, there', after⟩ connects
      | failed cause before after unasked =>
        exact absurd ⟨session, _, session', there, found, own, unasked, before, there', after⟩ fails
    · exact ⟨before, by rw [connections, List.getElem?_set_ne same, found], rfl⟩
  | swept sweeps swept passing records => exact kept records
  | aside aside => exact kept aside.records

/-! ## Blocked destinations -/

/-- The channels that were asked for to a destination, the latest first. -/
def opensTo (client : Client) (target : Address) : List OpenCall :=
  client.opens.filter (·.target == target)

/-- The connection of the destination is disconnected, and its allowance permits no attempt. -/
structure Blocks (client : Client) (target : Address) (index : Nat) (connection : Connection) :
    Prop where
  registered : client.registered? target = some index
  found : client.connections[index]? = some connection
  own : connection.target = target
  down : connection.link = .disconnected
  empty : connection.queue = []
  denied : connection.allowance.canAttempt client.now = false

namespace Blocks

variable {index : Nat} {connection : Connection}

/-- A request to a blocked destination is refused at once, and nothing else happens. -/
theorem placed (h : client.Blocks target index connection) {request : Request} {here : Nat}
    {record : Connection} {located : Client}
    (found : client.countCall.Located target here record located)
    (placed : located.Placed here record request next) : next = { client.countCall with
      connections := next.connections
      rejected := client.rejected ++ [request.fail
        (if client.shuttingDown then .shutDown else .unreachable target.endpoint)] } := by
  cases found with
  | fresh unknown number => cases h.registered.symm.trans unknown
  | known registered bound =>
    have same : index = here := Option.some.inj (h.registered.symm.trans registered)
    subst same
    have record_eq : connection = record := Option.some.inj (h.found.symm.trans bound)
    subst record_eq
    have own : connection.endpoint = target.endpoint := congrArg Address.endpoint h.own
    have denied {now : Instant} (same : now = client.now)
        (permitted : connection.allowance.canAttempt now = true) : False := by
      rw [same, h.denied] at permitted
      cases permitted
    cases placed with
    | refused down =>
      rw [show client.shuttingDown = true from down]
      rfl
    | queued up link owed => exact absurd h.down link
    | blocked up link spent =>
      rw [show client.shuttingDown = false from up, h.empty, own]
      rfl
    | opened up link permitted accepted session => exact (denied rfl permitted).elim
    | failed up link permitted cause refused unused => exact (denied rfl permitted).elim
    | gone up link permitted accepted shut session => exact (denied rfl permitted).elim

/-- No action asks for a channel to a blocked destination. -/
theorem opensTo_perform (h : client.Blocks target index connection) (reachable : client.Reachable)
    (action : Action) : (client.perform action).opensTo target = client.opensTo target := by
  have sound := reachable.orderly.sound
  have recorded := recorded_perform sound.valid action
  generalize client.perform action = next at recorded
  have of_same (opens : next.opens = client.opens) :
      next.opensTo target = client.opensTo target := by
    rw [opensTo, opensTo, opens]
  cases recorded with
  | malformed call encoded => rfl
  | tended n found bound tended frame => exact of_same (by rw [frame])
  | swept sweeps swept passing records => exact of_same passing.opens
  | aside aside => exact of_same aside.opens
  | placed call encoded found placed =>
    rename_i located header here record
    by_cases same : call.target = target
    · rw [same] at found
      refine of_same ?_
      rw [h.placed found placed]
      rfl
    · -- A channel that is asked for is one to the destination of the call.
      have own := (reachable.filed.countCall.located sound.valid found).2
      have other : (located.asked record :: located.opens).filter (·.target == target) =
          located.opens.filter (·.target == target) := by
        refine List.filter_cons_of_neg ?_
        rw [beq_iff_eq]
        exact fun there => same (own.symm.trans there)
      have opens : located.opens = client.opens := by
        rw [found.frame]
        rfl
      rw [opensTo, opensTo, ← opens]
      cases placed with
      | refused down => rfl
      | queued up link owed => rfl
      | blocked up link spent => rfl
      | opened up link permitted accepted session => exact other
      | failed up link permitted cause refused unused => exact other
      | gone up link permitted accepted shut session => exact other

/-- A call to a blocked destination fails at once. -/
theorem send (h : client.Blocks target index connection) (sound : client.Sound) {call : Call}
    (own : call.target = target) {header : Bytes}
    (encoded : (client.headerFor call).encode call.credentials = .ok header) :
    client.send call = { client.countCall with
      connections := (client.send call).connections
      rejected := client.rejected ++ [(client.requestFor call).fail
        (if client.shuttingDown then .shutDown else .unreachable target.endpoint)] } := by
  rcases malformed_or_placed sound.valid call with ⟨failure, malformed, -⟩ |
    ⟨_, -, here, record, located, found, placed⟩
  · rw [malformed] at encoded
    cases encoded
  · rw [own] at found
    have refused := h.placed found placed
    exact refused

end Blocks

/-! ## Runs of failures -/

/-- What a run of failures leaves in the allowance of the destination's connection. -/
structure Tallies (client : Client) (target : Address) (failures : Nat) (last : Instant) :
    Prop where
  reachable : client.Reachable
  counted : 0 < failures → last ≤ client.now ∧ ∃ index connection,
    client.registered? target = some index ∧ client.connections[index]? = some connection ∧
      min failures 4294967295 ≤ connection.allowance.failures.toNat ∧
      connection.allowance.lastFailure = some last

namespace Tallies

variable {failures : Nat} {last : Instant}

theorem failed (h : client.Tallies target failures last)
    (fails : client.FailsToConnect target action) :
    (client.perform action).Tallies target (failures + 1) client.now := by
  have sound := h.reachable.orderly.sound
  refine ⟨h.reachable.perform action, fun _ =>
    ⟨(recorded_perform sound.valid action).later.1, ?_⟩⟩
  obtain ⟨index, before, after, known, -, registered, found, allowance⟩ := fails.counted h.reachable
  refine ⟨index, after, registered, found, ?_, by rw [allowance]; rfl⟩
  rw [allowance]
  refine RetryAllowance.le_failures_recordFailure client.now ?_
  rcases Nat.eq_zero_or_pos failures with none | some
  · rw [none]
    exact Nat.zero_le _
  · obtain ⟨-, other, connection, there, bound, counted, -⟩ := h.counted some
    obtain ⟨rfl, same⟩ := known other there
    rw [bound, Option.some.injEq] at same
    exact same ▸ counted

theorem other (h : client.Tallies target failures last)
    (keeps : KeepsRegistered target client action) (fails : ¬ client.FailsToConnect target action)
    (connects : ¬ client.Connects target action) :
    (client.perform action).Tallies target failures last := by
  have sound := h.reachable.orderly.sound
  refine ⟨h.reachable.perform action, fun some => ?_⟩
  obtain ⟨past, index, before, registered, found, counted, failure⟩ := h.counted some
  obtain ⟨after, found', allowance⟩ :=
    allowance_perform h.reachable registered found fails connects
  refine ⟨past.trans (recorded_perform sound.valid action).later.1, index, after,
    keeps index registered, found', ?_⟩
  rw [allowance]
  exact ⟨counted, failure⟩

/-- Within the back-off the connection of the destination permits nothing. -/
theorem exists_blocks (h : client.Tallies target failures last)
    (spent : max 1 client.settings.maxReconnectAttempts.toNat ≤ failures)
    (early : client.now < last + client.settings.reconnectBackoff) :
    ∃ index connection, client.Blocks target index connection := by
  have orderly := h.reachable.orderly
  have filed := h.reachable.filed
  obtain ⟨past, index, connection, registered, found, counted, failure⟩ := h.counted (by omega)
  obtain ⟨maxAttempts, backoff⟩ := filed.limits index connection found
  have denied : connection.allowance.canAttempt client.now = false := by
    refine RetryAllowance.canAttempt_eq_false counted failure ?_ past ?_
    · rw [maxAttempts]
      omega
    · rw [backoff]
      exact early
  have down : connection.link = .disconnected := by
    by_contra linked
    have permitted := filed.permitted index connection found linked
    rw [denied] at permitted
    cases permitted
  exact ⟨index, connection, registered, found,
    filed.target _ ((registered?_eq_some_iff filed.keys).1 registered) connection found, down,
    (List.append_eq_nil_iff.1 (orderly.outstanding_of_disconnected found down).1).1, denied⟩

end Tallies

theorem FailingWhile.tallies {first : Client} {failures : Nat} {last : Instant}
    (run : FailingWhile (KeepsRegistered target) target first client failures last)
    (start : first.Reachable) : client.Tallies target failures last := by
  induction run with
  | refl => exact ⟨start, fun some => absurd some (Nat.lt_irrefl 0)⟩
  | failed earlier holds fails ih => exact ih.failed fails
  | other earlier holds fails connects ih => exact ih.other holds fails connects

/-- As long as the connection of a destination stays registered, as many failures as are allowed,
and one at least, block the destination until the back-off has passed since the last one: no action
asks for a channel to it, and every call to it fails at once with `unreachable`, leaving everything
else alone but the record of its connection. -/
theorem blocked_until_backoff {first : Client} {failures : Nat} {last : Instant}
    (start : first.Reachable)
    (run : FailingWhile (KeepsRegistered target) target first client failures last)
    (spent : max 1 client.settings.maxReconnectAttempts.toNat ≤ failures)
    (early : client.now < last + client.settings.reconnectBackoff) :
    (∀ action, (client.perform action).opensTo target = client.opensTo target) ∧
    ∀ call, call.target = target → ∀ header,
      (client.headerFor call).encode call.credentials = .ok header →
        client.shuttingDown = false →
          client.send call = { client.countCall with
            connections := (client.send call).connections
            rejected := client.rejected ++
              [(client.requestFor call).fail (.unreachable target.endpoint)] } ∧
          (client.send call).Resolved
            ((client.requestFor call).fail (.unreachable target.endpoint)) := by
  have tallies := run.tallies start
  have reachable := tallies.reachable
  obtain ⟨index, connection, blocks⟩ := tallies.exists_blocks spent early
  refine ⟨blocks.opensTo_perform reachable, fun call own header encoded up => ?_⟩
  have sent := blocks.send reachable.orderly.sound own encoded
  rw [up, if_neg Bool.false_ne_true] at sent
  have after : (client.perform (.send call)).Reachable :=
    reachable.perform (.send call)
  refine ⟨sent, resolved_of_mem_notices after ?_⟩
  show _ ∈ (client.send call).notices
  rw [sent]
  exact List.mem_append_left _
    (List.mem_append_right _ (List.mem_append_right _ (List.mem_singleton_self _)))

end

/-- A client with one attempt and a long back-off, whose next channel is refused. -/
def unlucky : Client :=
  ({ settings := { requestTimeoutMs := 100, connectionTimeoutMs := 400, tickMs := 50,
                   maxReconnectAttempts := 1, reconnectBackoffMs := 10000 }
     parsers := []
     pool := {}
     nextXid := 1 } : Client).performAll
    [.plan { connectFailure := some ⟨"refused"⟩ }, .start, .elapse timerProbe, .turn]

theorem reachable_unlucky : unlucky.Reachable :=
  ⟨_, ⟨unlucky.settings, [], {}, 1, rfl⟩, run_performAll _ _⟩

/-- Its first call was refused, and some time has passed. -/
def refusedSince (duration : Duration) : Client :=
  (unlucky.perform (.send nullCall)).perform (.elapse duration)

theorem failing_refusedSince (duration : Duration) {P : Client → Action → Prop}
    (sent : P unlucky (.send nullCall))
    (elapsed : P (unlucky.perform (.send nullCall)) (.elapse duration)) :
    FailingWhile P nullCall.target unlucky (refusedSince duration) 1 unlucky.now :=
  (FailingWhile.refl.failed sent ⟨rfl, by decide +kernel, by decide +kernel⟩).other elapsed id id

theorem blocked_until_backoff_unlucky : ((refusedSince timerProbe).send nullCall).Resolved
    (((refusedSince timerProbe).requestFor nullCall).fail
      (.unreachable nullCall.target.endpoint)) := by
  have unknown : unlucky.registered? nullCall.target = none := by decide +kernel
  have sent : KeepsRegistered nullCall.target unlucky (.send nullCall) := by
    intro index registered
    rw [unknown] at registered
    cases registered
  have run := failing_refusedSince timerProbe sent fun index registered => registered
  obtain ⟨-, refuses⟩ :=
    blocked_until_backoff reachable_unlucky run (by decide +kernel) (by decide +kernel)
  exact (refuses nullCall rfl _ rfl (by decide +kernel)).2

/-- When a sweep evicts the connection of a destination its failures are forgotten: a channel is
asked for though the back-off has not passed. -/
theorem eviction_forgets_failures : ¬ ∀ (first client : Client) target failures last,
    first.Reachable → FailingWhile (fun _ _ => True) target first client failures last →
      max 1 client.settings.maxReconnectAttempts.toNat ≤ failures →
        client.now < last + client.settings.reconnectBackoff →
          ∀ action, (client.perform action).opensTo target = client.opensTo target := by
  intro all
  have run : FailingWhile (fun _ _ => True) nullCall.target unlucky
      ((refusedSince (Duration.ofMillis 500)).perform .turn) 1 unlucky.now :=
    (failing_refusedSince _ trivial trivial).other trivial id id
  have opens := all unlucky _ nullCall.target 1 unlucky.now reachable_unlucky run
    (by decide +kernel) (by decide +kernel) (.send nullCall)
  revert opens
  decide +kernel

end Client

end RemoteCall
