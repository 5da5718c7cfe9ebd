import RemoteCall.Proofs.Client.Idleness
import RemoteCall.Proofs.Client.Replies

/-!
# When connections were used

A connection is used when a request is pushed on it and when its driver reads a record with a reply
header, and at no other time. Its time of last use says when that was, so a sweep evicts exactly the
connections that were not used for longer than they may. Bytes that pass through the channel are no
use of their own: a connection may be evicted in the middle of a record.
-/
namespace RemoteCall.Client

/-- The action uses the connection `index`: it pushes a request there, or the driver reads a record,
which may or may not answer one. -/
inductive Uses (client : Client) (index : Nat) : Action → Prop where
  | pushes {call : Call} {header : Bytes} (up : client.shuttingDown = false)
      (encoded : (client.headerFor call).encode call.credentials = .ok header)
      (stands : (client.countCall.connectionFor call.target).1 = index) :
      Uses client index (.send call)
  | reads {n : Nat} {session : Session} {connection : Connection} {header : ReplyHeader}
      {fragments : List Buffer} {work : Fragment.Assembler.Work}
      (reads : client.Reads n session connection header fragments work)
      (own : session.connection = index) : Uses client index (.drive n)

/-- On the way to this client the connection `index` was used at a moment. -/
def UsedAt (client : Client) (index : Nat) (moment : Instant) : Prop :=
  ∃ (earlier : Client) (action : Action), earlier.Reachable ∧ earlier.Uses index action ∧
    earlier.now = moment ∧ Run (earlier.perform action) client

section

variable {client next : Client} {action : Action} {index : Nat}

/-! ## Uses are noted -/

/-- The connection that a call finds is the one that stands for its destination. -/
theorem Located.number {target : Address} {connection : Connection}
    (h : client.Located target index connection next) :
    (client.connectionFor target).1 = index := by
  unfold connectionFor
  cases h with
  | known registered found => rw [registered]
  | fresh unknown number =>
    rw [unknown]
    exact number.symm

/-- Where a request is pushed, this is a use. -/
theorem Placed.exists_used {connection : Connection} {request : Request}
    (h : client.Placed index connection request next) (up : client.shuttingDown = false)
    (found : client.connections[index]? = some connection) :
    ∃ after, next.connections[index]? = some after ∧ after.lastUsed = client.now := by
  obtain ⟨lt, -⟩ := List.getElem?_eq_some_iff.1 found
  cases h with
  | refused down =>
    rw [up] at down
    cases down
  | queued up link owed => exact ⟨_, List.getElem?_set_self lt, rfl⟩
  | blocked up link spent => exact ⟨_, List.getElem?_set_self lt, rfl⟩
  | opened up link permitted accepted session => exact ⟨_, List.getElem?_set_self lt, rfl⟩
  | failed up link permitted cause refused unused => exact ⟨_, List.getElem?_set_self lt, rfl⟩
  | gone up link permitted accepted shut session => exact ⟨_, List.getElem?_set_self lt, rfl⟩

/-- Every use is noted. -/
theorem Uses.exists_used (h : client.Uses index action) (valid : client.RegistryValid) :
    ∃ after, (client.perform action).connections[index]? = some after ∧
      after.lastUsed = client.now := by
  cases h with
  | @pushes call header up encoded stands =>
    rcases malformed_or_placed valid call with ⟨failure, broken, -⟩ |
      ⟨other, -, here, connection, located, found, placed⟩
    · rw [encoded] at broken
      cases broken
    · rw [← stands, found.number]
      have frame := found.frame
      have up' : located.shuttingDown = false := by
        rw [frame]
        exact up
      have now : located.now = client.now := by rw [frame]; rfl
      rw [← now]
      exact placed.exists_used up' found.found
  | @reads n session connection header fragments work reads own =>
    obtain ⟨lt, -⟩ := List.getElem?_eq_some_iff.1 reads.bound
    rw [← own]
    cases inFlight : connection.inFlight? header.xid with
    | none =>
      rw [reads.perform_of_none inFlight]
      exact ⟨_, List.getElem?_set_self lt, rfl⟩
    | some request =>
      obtain ⟨after, pool, -, -, used, changed⟩ := reads.exists_perform_of_some inFlight
      rw [changed]
      exact ⟨after, List.getElem?_set_self lt, used⟩

/-! ## Nothing else is a use -/

/-- A step of a driver is a use only where it reads a record that has a reply header. -/
theorem uses_or_kept_of_step? {n : Nat} (free : client.mayDrive n = true)
    (h : client.step? n = some next) {after : Connection}
    (found : next.connections[index]? = some after) : client.Uses index (.drive n) ∨
      ∃ before, client.connections[index]? = some before ∧ before.lastUsed = after.lastUsed := by
  obtain ⟨session, connection, hs, bound, stepped⟩ := exists_stepped_of_step? h
  have elsewhere {put : Connection}
      (connections : next.connections = client.connections.set session.connection put)
      (used : session.connection = index → put.lastUsed = connection.lastUsed) :
      ∃ before, client.connections[index]? = some before ∧ before.lastUsed = after.lastUsed := by
    rw [connections] at found
    rcases getElem?_set_cases found with ⟨rfl, rfl⟩ | ⟨-, old⟩
    · exact ⟨connection, bound, (used rfl).symm⟩
    · exact ⟨after, old, rfl⟩
  rcases stepped.reads_or_rests free hs bound with
    ⟨header, fragments, work, reads⟩ | ⟨-, put, connections, used⟩
  · by_cases here : session.connection = index
    · exact .inl (.reads reads here)
    · obtain ⟨_, _, _, -, connections⟩ := stepped.handledFrom bound
      exact .inr (elsewhere connections fun same => absurd same here)
  · exact .inr (elsewhere connections fun _ => used)

/-- A client that was shut down stays so. -/
theorem down_perform (valid : client.RegistryValid) (action : Action)
    (down : client.shuttingDown = true) : (client.perform action).shuttingDown = true := by
  have performed := client.performed_perform action
  generalize client.perform action = next at performed
  cases performed with
  | sent call =>
    obtain ⟨failure, fresh, entries, -, -, changed⟩ := send_of_down valid down call
    rw [changed]
    exact down
  | turned free turned =>
    rw [turned.frame]
    exact down
  | driven n found bound waited driven changed handled =>
    rw [changed]
    exact down
  | toldPosted position found | toldRejected position found =>
    rw [deliver_eq]
    exact down
  | notified found => exact down
  | changed found channel shut accepted => exact down
  | started up loop deadline => exact down
  | abandoned up loop =>
    rw [abandonLoop_frame]
    exact down
  | ended loop => rw [failOutstanding_frame]
  | flagged loop => rfl
  | aside same =>
    rw [same]
    exact down

theorem up_of_perform (valid : client.RegistryValid)
    (up : (client.perform action).shuttingDown = false) : client.shuttingDown = false := by
  by_contra down
  rw [down_perform valid action (by simpa using down)] at up
  cases up

/-- Until the client is shut down, a connection that is not used keeps its time of last use. -/
theorem uses_or_kept (valid : client.RegistryValid)
    (up : (client.perform action).shuttingDown = false) {after : Connection}
    (found : (client.perform action).connections[index]? = some after) :
    client.Uses index action ∨
      ∃ before, client.connections[index]? = some before ∧ before.lastUsed = after.lastUsed := by
  have same {next : Client} (records : next.records = client.records)
      (found : next.connections[index]? = some after) :
      ∃ before, client.connections[index]? = some before ∧ before.lastUsed = after.lastUsed := by
    obtain ⟨before, found', same⟩ := exists_of_map_eq records found
    exact ⟨before, found', congrArg (·.2.2.1) same⟩
  by_cases drive : ∃ n, action = .drive n
  · obtain ⟨n, rfl⟩ := drive
    rcases client.perform_drive_eq n with idle | ⟨free, step⟩
    · rw [idle] at found
      exact .inr ⟨after, found, rfl⟩
    · exact uses_or_kept_of_step? free step found
  have before := up_of_perform valid up
  have recorded := recorded_perform valid action
  generalize client.perform action = next at recorded found
  cases recorded with
  | malformed call encoded => exact .inr ⟨after, found, rfl⟩
  | @placed call _ located header here connection encoded found' placed =>
    by_cases stands : here = index
    · subst stands
      exact .inl (.pushes before encoded found'.number)
    · obtain ⟨put, connections, -⟩ := placed.exists_set found'.found
      rw [connections, List.getElem?_set_ne stands] at found
      cases found' with
      | known registered bound => exact .inr ⟨after, found, rfl⟩
      | fresh unknown number =>
        rcases getElem?_concat_cases found with old | ⟨last, -⟩
        · exact .inr ⟨after, old, rfl⟩
        · exact absurd (number.trans last.symm) stands
  | tended n hs bound tended frame => exact absurd ⟨n, rfl⟩ drive
  | swept sweeps swept passing records => exact .inr (same records found)
  | aside aside => exact .inr (same aside.records found)

/-! ## The time of last use -/

/-- The time of last use only gets later. -/
theorem lastUsed_perform (orderly : client.Orderly) (used : client.UsedLast) (action : Action)
    {before : Connection} (found : client.connections[index]? = some before) :
    ∃ after, (client.perform action).connections[index]? = some after ∧
      before.lastUsed ≤ after.lastUsed := by
  have recorded := recorded_perform orderly.sound.valid action
  obtain ⟨lt, -⟩ := List.getElem?_eq_some_iff.1 found
  have there := List.getElem?_eq_getElem (lt.trans_le recorded.length_le)
  refine ⟨_, there, ?_⟩
  have past := (used index before found).1
  rcases recorded.exists_before there with ⟨now, -⟩ | ⟨old, found', same | now, -⟩
  · exact past.trans now.ge
  · rw [found, Option.some.injEq] at found'
    exact found' ▸ same.ge
  · exact past.trans now.ge

/-- No use is later than the time of last use. -/
theorem UsedAt.le_lastUsed {moment : Instant} (h : client.UsedAt index moment)
    {connection : Connection} (found : client.connections[index]? = some connection) :
    moment ≤ connection.lastUsed := by
  obtain ⟨earlier, action, reachable, uses, rfl, run⟩ := h
  suffices all : client.Orderly ∧ client.UsedLast ∧ ∃ connection,
      client.connections[index]? = some connection ∧ earlier.now ≤ connection.lastUsed by
    obtain ⟨-, -, other, there, le⟩ := all
    rw [found, Option.some.injEq] at there
    exact there ▸ le
  clear found
  induction run with
  | refl =>
    obtain ⟨after, there, used⟩ := uses.exists_used reachable.orderly.sound.valid
    exact ⟨reachable.orderly.perform action,
      reachable.usedLast.perform reachable.orderly action, after, there, used.ge⟩
  | tail _ _ action ih =>
    obtain ⟨orderly, used, connection, found, le⟩ := ih
    obtain ⟨after, there, later⟩ := lastUsed_perform orderly used action found
    exact ⟨orderly.perform action, used.perform orderly action, after, there, le.trans later⟩

/-- Until the client is shut down, every connection was used at its time of last use. -/
theorem ReachableWhile.usedAt_lastUsed (h : client.Reachable) (up : client.shuttingDown = false)
    {connection : Connection} (found : client.connections[index]? = some connection) :
    client.UsedAt index connection.lastUsed := by
  suffices all : client.Reachable ∧ (client.shuttingDown = false → ∀ connection,
      client.connections[index]? = some connection →
        client.UsedAt index connection.lastUsed) from all.2 up connection found
  clear up found
  refine h.induct (fun first built => ⟨⟨first, built, .refl⟩, fun _ connection found => ?_⟩)
    fun client action _ ⟨reachable, earlier⟩ =>
      ⟨reachable.perform action, fun up after found => ?_⟩
  · obtain ⟨settings, parsers, pool, firstXid, rfl⟩ := built.exists_eq
    cases found
  have valid := reachable.orderly.sound.valid
  rcases uses_or_kept valid up found with uses | ⟨before, old, same⟩
  · obtain ⟨other, there, now⟩ := uses.exists_used valid
    rw [found, Option.some.injEq] at there
    rw [there, now]
    exact ⟨client, action, reachable, uses, rfl, .refl⟩
  · obtain ⟨first, use, began, uses, moment, run⟩ :=
      earlier (up_of_perform valid up) before old
    exact ⟨first, use, began, uses, moment.trans same, run.tail trivial action⟩

/-- A sweep evicts exactly the connections that were not used for longer than they may: on which no
request was pushed and no record was read for that time. Each has been used before. -/
theorem evicted_iff_unused (h : client.Reachable) (sweeps : client.Sweeps) {entry : Address × Nat}
    (registered : entry ∈ client.registry) : (∃ moment, client.UsedAt entry.2 moment) ∧
      (entry ∉ (client.perform .turn).registry ↔ ∀ moment, client.UsedAt entry.2 moment →
        moment + client.settings.connectionTimeout < client.now) := by
  obtain ⟨connection, found⟩ : ∃ connection, client.connections[entry.2]? = some connection :=
    ⟨_, List.getElem?_eq_getElem (h.orderly.sound.valid entry registered)⟩
  have last := h.usedAt_lastUsed sweeps.up found
  have idle : entry ∉ (client.perform .turn).registry ↔
      connection.lastUsed + client.settings.connectionTimeout < client.now := by
    have rule : client.isIdle entry =
        connection.isIdle client.settings.connectionTimeout client.now := by
      rw [isIdle, found]
    rw [sweeps.swept.registry, List.mem_filter, rule, Connection.isIdle, Instant.since]
    simp only [registered, true_and, Bool.not_eq_true', decide_eq_false_iff_not, not_not]
    exact Nat.lt_sub_iff_add_lt'
  refine ⟨⟨_, last⟩, idle.trans ⟨fun unused moment used => ?_, fun unused => unused _ last⟩⟩
  exact (Nat.add_le_add_right (used.le_lastUsed found) _).trans_lt unused

end

/-! ## Bytes on the way -/

/-- In its next step the driver of the session `n`, which is of the connection `index`, has bytes
pass through its channel. -/
def Transfers (client : Client) (n index : Nat) : Prop :=
  ∃ before after, client.sessions[n]? = some before ∧ before.connection = index ∧
    (client.perform (.drive n)).sessions[n]? = some after ∧
      (after.channel.inbound.unread < before.channel.inbound.unread ∨
        before.channel.outbound.accepted.length < after.channel.outbound.accepted.length)

/-- A client that waits for a reply when the first bytes of one arrive. -/
def receiving : Client :=
  brief.performAll ([.start, .elapse timerProbe, .turn, .send nullCall, .turn] ++
    List.replicate 10 (.drive 0) ++
      [.elapse (Duration.ofMillis 290), .change 0 (.feed [0x80, 0, 0, 0x10]), .drive 0])

theorem reachable_receiving : receiving.Reachable :=
  ⟨brief, ⟨brief.settings, [], {}, 1, rfl⟩, run_performAll brief _⟩

theorem transfers_receiving : receiving.Transfers 0 0 := by
  have there : (receiving.sessions[0]?.any fun before => before.connection == 0 &&
      (receiving.perform (.drive 0)).sessions[0]?.any fun after =>
        decide (after.channel.inbound.unread < before.channel.inbound.unread)) = true := by
    decide +kernel
  simp only [Option.any_eq_true, Bool.and_eq_true, beq_iff_eq, decide_eq_true_eq] at there
  obtain ⟨before, found, own, after, found', less⟩ := there
  exact ⟨before, after, found, own, found', .inl less⟩

/-- It has read these bytes and waits for the others. -/
def interrupted : Client :=
  (receiving.perform (.drive 0)).performAll [.drive 0, .elapse (Duration.ofMillis 20)]

theorem reachable_interrupted : interrupted.Reachable :=
  ReachableWhile.run reachable_receiving
    ((RunWhile.refl.tail trivial (.drive 0)).trans (run_performAll _ _))

theorem evicted_iff_unused_interrupted : interrupted.Sweeps ∧ ∃ moment,
    interrupted.UsedAt 0 moment ∧
      moment + interrupted.settings.connectionTimeout < interrupted.now := by
  have sweeps : interrupted.Sweeps := by decide +kernel
  have registered : (nullCall.target, 0) ∈ interrupted.registry := by decide +kernel
  obtain ⟨⟨moment, used⟩, evicted⟩ := evicted_iff_unused reachable_interrupted sweeps registered
  exact ⟨sweeps, moment, used, evicted.1 (by decide +kernel) moment used⟩

/-- Bytes that pass through a channel do not keep its connection from being evicted. -/
theorem evicted_within_record : ¬ ∀ earlier client : Client, earlier.Reachable →
    ∀ n, ∀ entry ∈ client.registry, earlier.Transfers n entry.2 →
      Run (earlier.perform (.drive n)) client → client.Sweeps →
        entry ∉ (client.perform .turn).registry →
          earlier.now + client.settings.connectionTimeout < client.now := by
  intro spared
  have long := spared receiving interrupted reachable_receiving 0 (nullCall.target, 0)
    (by decide +kernel) transfers_receiving (run_performAll _ _) (by decide +kernel)
    (by decide +kernel)
  have soon : ¬ receiving.now + interrupted.settings.connectionTimeout < interrupted.now := by
    decide +kernel
  exact soon long

end RemoteCall.Client
