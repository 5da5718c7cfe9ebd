import RemoteCall.Proofs.Client.Backoff
import RemoteCall.Proofs.Client.Shutdown

/-!
# Attempts to connect, counted

The failures to connect to a destination since the last success, or since its connection was made,
are counted along a run, with the time of the last one. The allowance of the connection that stands
for the destination remembers just these, whoever has recorded them: a caller whose channel could
not be had, or a driver that gave up. So what it permits is read off the run.
-/
namespace RemoteCall

namespace RetryAllowance

/-- The allowance has counted so many failures, no further than to the largest 32-bit word, and the
last of them then. -/
structure Remembers (allowance : RetryAllowance) (failures : Nat) (last : Option Instant) :
    Prop where
  counted : allowance.failures.toNat = min failures 4294967295
  failure : allowance.lastFailure = last

variable {allowance : RetryAllowance} {failures : Nat} {last : Option Instant}

theorem remembers_none (counted : allowance.failures = 0) (failure : allowance.lastFailure = none) :
    allowance.Remembers 0 none :=
  ⟨by rw [counted]; rfl, failure⟩

theorem Remembers.recordFailure (h : allowance.Remembers failures last) (now : Instant) :
    (allowance.recordFailure now).Remembers (failures + 1) (some now) := by
  refine ⟨?_, rfl⟩
  rw [failures_recordFailure, h.counted]
  omega

/-- What is permitted is read off the number of failures and the time of the last one, though the
count may have stopped. -/
theorem Remembers.canAttempt_iff (h : allowance.Remembers failures last) {now : Instant}
    (past : ∀ moment ∈ last, moment ≤ now) :
    allowance.canAttempt now = true ↔ failures < allowance.maxAttempts.toNat ∨ last = none ∨
      ∃ moment, last = some moment ∧ moment + allowance.backoff ≤ now := by
  have bounded := allowance.maxAttempts.toNat_lt
  have fewer : allowance.failures < allowance.maxAttempts ↔
      failures < allowance.maxAttempts.toNat := by
    rw [UInt32.lt_iff_toNat_lt, h.counted]
    omega
  rw [canAttempt, Bool.or_eq_true, decide_eq_true_iff, fewer, h.failure]
  refine or_congr_right ?_
  cases last with
  | none => simp
  | some moment =>
    have passed : allowance.backoff ≤ now - moment ↔ moment + allowance.backoff ≤ now :=
      Nat.le_sub_iff_add_le' (past moment rfl)
    simp [Instant.since, passed]

end RetryAllowance

namespace Client

/-! ## The history of a destination -/

/-- Actions in any order, with the number of the attempts to connect to a destination that have
failed since the last that succeeded, or since its connection was made, and when the last of them
did. -/
inductive Attempted (target : Address) : Client → Nat → Option Instant → Prop where
  | built {client : Client} (start : client.Built) : Attempted target client 0 none
  | failed {client : Client} {failures : Nat} {last : Option Instant}
      (earlier : Attempted target client failures last) {action : Action}
      (fails : client.FailsToConnect target action) :
      Attempted target (client.perform action) (failures + 1) (some client.now)
  | connected {client : Client} {failures : Nat} {last : Option Instant}
      (earlier : Attempted target client failures last) {action : Action}
      (connects : client.Connects target action) :
      Attempted target (client.perform action) 0 none
  /-- The destination has no connection any more, so none that has counted a failure. -/
  | evicted {client : Client} {failures : Nat} {last : Option Instant}
      (earlier : Attempted target client failures last) {action : Action}
      (gone : (client.perform action).registered? target = none) :
      Attempted target (client.perform action) 0 none
  | other {client : Client} {failures : Nat} {last : Option Instant}
      (earlier : Attempted target client failures last) {action : Action}
      (fails : ¬ client.FailsToConnect target action) (connects : ¬ client.Connects target action)
      (keeps : KeepsRegistered target client action) :
      Attempted target (client.perform action) failures last

section

variable {client next : Client} {action : Action} {target : Address} {failures : Nat}
  {last : Option Instant}

theorem Attempted.reachable (h : Attempted target client failures last) : client.Reachable := by
  induction h with
  | built start => exact ⟨_, start, .refl⟩
  | failed _ _ ih | connected _ _ ih | evicted _ _ ih | other _ _ _ _ ih => exact ih.perform _

/-! ## What the allowance remembers -/

/-- A driver that connects its channel was not asked to close, and resets the allowance of its
connection. -/
theorem Connects.of_drive {n : Nat} (connects : client.Connects target (.drive n)) :
    ∃ index before after, client.connections[index]? = some before ∧ before.target = target ∧
      before.closeReason = none ∧ (client.perform (.drive n)).registry = client.registry ∧
      (client.perform (.drive n)).connections = client.connections.set index after ∧
      after.allowance = before.allowance.reset := by
  obtain ⟨session, connection, session', found, bound, own, before, found', deciding⟩ := connects
  have moved : session'.phase ≠ session.phase := by
    intro same
    rw [← same, deciding] at before
    cases before
  obtain ⟨connection', notices, step, registry, connections, tended⟩ :=
    exists_tended_of_moved found bound found' moved
  -- Had its connection been asked to close, the step would have closed the session.
  have unasked : connection.closeReason = none := by
    by_contra asked
    obtain ⟨reason, asked⟩ := Option.ne_none_iff_exists'.1 asked
    rw [step?_of_asked found bound asked (SessionPhase.listens_of_connects before),
      Option.some.injEq] at step
    have closed : session'.phase = .closed := by
      rw [← step] at found'
      have there := found'.symm.trans
        (List.getElem?_set_self (List.getElem?_eq_some_iff.1 found).1)
      rw [Option.some.inj there]
    cases deciding.symm.trans closed
  cases tended with
  | retained record connects swept =>
    rcases connects before with still | ⟨closed, -⟩
    · rw [deciding] at still
      cases still
    · cases deciding.symm.trans closed
  | failed cause before closed unasked => cases deciding.symm.trans closed
  | connected before deciding =>
    exact ⟨_, connection, _, bound, own, unasked, registry, connections, rfl⟩

/-- A driver that connects its channel resets the allowance of the destination's connection. -/
theorem Connects.counted (h : client.Reachable) (connects : client.Connects target action) :
    ∃ index after, client.registered? target = some index ∧
      (client.perform action).registered? target = some index ∧
      (client.perform action).connections[index]? = some after ∧
      after.allowance.failures = 0 ∧ after.allowance.lastFailure = none := by
  cases action with
  | drive n =>
    obtain ⟨index, before, after, found, rfl, unasked, registry, connections, allowance⟩ :=
      connects.of_drive
    have filed := h.filed
    have registered : client.registered? before.target = some index :=
      (registered?_eq_some_iff filed.keys).2 (filed.filed index before found unasked)
    refine ⟨index, after, registered, ?_, ?_, by rw [allowance]; rfl, by rw [allowance]; rfl⟩
    · rw [← registered, registered?, registered?, registry]
    · rw [connections]
      exact List.getElem?_set_self (List.getElem?_eq_some_iff.1 found).1
  | _ => exact connects.elim

/-- An action that registers a destination makes a connection for it that has counted nothing. -/
theorem unused_of_unknown (h : client.Reachable) (unknown : client.registered? target = none)
    {index : Nat} {after : Connection}
    (registered : (client.perform action).registered? target = some index)
    (found : (client.perform action).connections[index]? = some after)
    (fails : ¬ client.FailsToConnect target action) :
    after.allowance.failures = 0 ∧ after.allowance.lastFailure = none := by
  have sound := h.orderly.sound
  have recorded := recorded_perform sound.valid action
  have mem := (registered?_eq_some_iff (h.perform action).filed.keys).1 registered
  have absent : (target, index) ∉ client.registry := fun old =>
    not_mem_of_registered? unknown (List.mem_map_of_mem old)
  generalize performed : client.perform action = next at recorded mem found
  cases recorded with
  | malformed call encoded => exact absurd mem absent
  | tended n there bound tended frame =>
    rw [frame] at mem
    exact absurd mem absent
  | swept sweeps swept passing records =>
    rw [swept.registry] at mem
    exact absurd (List.mem_filter.1 mem).1 absent
  | aside aside =>
    rcases aside.registry with same | none
    · exact absurd (same ▸ mem) absent
    · rw [none] at mem
      cases mem
  | placed call encoded there placed =>
    obtain ⟨other, found', allowance⟩ := placed.allowance there.found
    rw [placed.frame] at mem
    rw [← performed] at allowance
    have asked := FailsToConnect.of_located there
    cases there with
    | known known bound => exact absurd mem absent
    | fresh _ number =>
      obtain ⟨rfl, rfl⟩ := Prod.mk.inj
        (List.mem_singleton.1 ((List.mem_append.1 mem).resolve_left absent))
      rw [found, Option.some.injEq] at found'
      subst found'
      rcases allowance with same | failed
      · rw [same]
        exact ⟨rfl, rfl⟩
      · exact absurd (asked failed.1 failed.2) fails

/-- The allowance of the destination's connection remembers its history. -/
structure Recalls (client : Client) (target : Address) (failures : Nat) (last : Option Instant) :
    Prop where
  past : ∀ moment ∈ last, moment ≤ client.now
  known : ∀ (index : Nat) connection, client.registered? target = some index →
    client.connections[index]? = some connection → connection.allowance.Remembers failures last
  unknown : client.registered? target = none → failures = 0 ∧ last = none

namespace Recalls

/-- Where no failure was counted there is little to recall. -/
theorem of_none (known : ∀ (index : Nat) connection, client.registered? target = some index →
    client.connections[index]? = some connection → connection.allowance.Remembers 0 none) :
    client.Recalls target 0 none :=
  ⟨fun moment mem => (by cases mem), known, fun _ => ⟨rfl, rfl⟩⟩

theorem failed (h : client.Recalls target failures last) (reachable : client.Reachable)
    (fails : client.FailsToConnect target action) :
    (client.perform action).Recalls target (failures + 1) (some client.now) := by
  have later := (recorded_perform reachable.orderly.sound.valid action).later.1
  obtain ⟨index, before, after, known, fresh, registered, found, allowance⟩ :=
    fails.counted reachable
  have remembers : before.allowance.Remembers failures last := by
    cases there : client.registered? target with
    | none =>
      obtain ⟨rfl, rfl⟩ := h.unknown there
      exact RetryAllowance.remembers_none (fresh there).1 (fresh there).2
    | some other =>
      obtain ⟨rfl, bound⟩ := known other there
      exact h.known other before there bound
  refine ⟨fun moment mem => ?_, fun other connection there bound => ?_, fun none => ?_⟩
  · exact Option.mem_some.1 mem ▸ later
  · cases registered.symm.trans there
    cases found.symm.trans bound
    rw [allowance]
    exact remembers.recordFailure client.now
  · cases none.symm.trans registered

theorem connected (reachable : client.Reachable) (connects : client.Connects target action) :
    (client.perform action).Recalls target 0 none := by
  obtain ⟨index, after, -, registered, found, counted, failure⟩ := connects.counted reachable
  refine .of_none fun other connection there bound => ?_
  cases registered.symm.trans there
  cases found.symm.trans bound
  exact RetryAllowance.remembers_none counted failure

theorem other (h : client.Recalls target failures last) (reachable : client.Reachable)
    (fails : ¬ client.FailsToConnect target action) (connects : ¬ client.Connects target action)
    (keeps : KeepsRegistered target client action) :
    (client.perform action).Recalls target failures last := by
  have sound := reachable.orderly.sound
  refine ⟨fun moment mem => (h.past moment mem).trans (recorded_perform sound.valid action).later.1,
    fun index connection there bound => ?_, fun none => ?_⟩
  · cases known : client.registered? target with
    | none =>
      obtain ⟨rfl, rfl⟩ := h.unknown known
      obtain ⟨counted, failure⟩ := unused_of_unknown reachable known there bound fails
      exact RetryAllowance.remembers_none counted failure
    | some same =>
      cases there.symm.trans (keeps same known)
      obtain ⟨before, found⟩ : ∃ before, client.connections[index]? = some before :=
        ⟨_, List.getElem?_eq_getElem
          (sound.valid _ ((registered?_eq_some_iff reachable.filed.keys).1 known))⟩
      obtain ⟨after, found', allowance⟩ :=
        allowance_perform reachable known found fails connects
      cases found'.symm.trans bound
      rw [allowance]
      exact h.known index before known found
  · cases known : client.registered? target with
    | none => exact h.unknown known
    | some index => cases none.symm.trans (keeps index known)

end Recalls

theorem Attempted.recalls (h : Attempted target client failures last) :
    client.Recalls target failures last := by
  induction h with
  | built start =>
    obtain ⟨settings, parsers, pool, firstXid, rfl⟩ := start.exists_eq
    exact .of_none fun index connection there => (by cases there)
  | failed earlier fails ih => exact ih.failed earlier.reachable fails
  | connected earlier connects ih => exact .connected earlier.reachable connects
  | evicted earlier gone ih =>
    exact .of_none fun index connection there => (by cases gone.symm.trans there)
  | other earlier fails connects keeps ih => exact ih.other earlier.reachable fails connects keeps

/-- Every client that is reached has a history of every destination. -/
theorem ReachableWhile.exists_attempted {P : Client → Prop} (h : client.ReachableWhile P)
    (target : Address) : ∃ failures last, Attempted target client failures last := by
  refine h.induct (fun first built => ⟨_, _, .built built⟩) fun client action _ earlier => ?_
  obtain ⟨failures, last, earlier⟩ := earlier
  have recorded := recorded_perform earlier.reachable.orderly.sound.valid action
  by_cases fails : client.FailsToConnect target action
  · exact ⟨_, _, .failed earlier fails⟩
  by_cases connects : client.Connects target action
  · exact ⟨_, _, .connected earlier connects⟩
  cases gone : (client.perform action).registered? target with
  | none => exact ⟨_, _, .evicted earlier gone⟩
  | some index =>
    -- The destination keeps its connection, since only an unknown one is given another.
    refine ⟨_, _, .other earlier fails connects fun other there => ?_⟩
    have filed := earlier.reachable.filed
    have mem := (registered?_eq_some_iff (earlier.reachable.perform action).filed.keys).1 gone
    rcases recorded.registered_or_unknown mem with old | ⟨unknown, -⟩
    · rw [gone, ← (registered?_eq_some_iff filed.keys).2 old, there]
    · cases unknown.symm.trans there

/-- A destination without a connection has no history to speak of. -/
theorem Attempted.of_unknown (h : client.Reachable) (unknown : client.registered? target = none) :
    Attempted target client 0 none := by
  obtain ⟨failures, last, history⟩ := h.exists_attempted target
  obtain ⟨rfl, rfl⟩ := history.recalls.unknown unknown
  exact history

end

end Client

end RemoteCall
