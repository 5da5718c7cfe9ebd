import RemoteCall.Proofs.Client.Stopping

/-!
# Shutdown

When the loop leaves its turns it fails what is bound to registered connections, asks their drivers
to close, closes the sessions that it has not taken up, and waits for the drivers. It can always run
to its end, and when it has, everything that was unresolved has failed, once and with `shutDown`.
-/
namespace RemoteCall.Client

/-! ## Leaving the turns -/

/-- A request of the connection `index` is queued, in flight, or being written. -/
def UnresolvedOn (client : Client) (index : Nat) (request : Request) : Prop :=
  (∃ connection, client.connections[index]? = some connection ∧
      request ∈ connection.outstanding) ∨
    ∃ session ∈ client.sessions, session.connection = index ∧ session.held = some request

section

variable {client next : Client} {request : Request}

/-- What was outstanding on a connection that was removed from service has failed. -/
theorem failed_retireAll {entries : List (Address × Nat)} (reason : CloseReason)
    {index : Nat} {connection : Connection} (hc : client.connections[index]? = some connection)
    (registered : ∃ entry ∈ entries, entry.2 = index)
    (outstanding : request ∈ connection.outstanding) :
    request.fail (reason.failure connection.endpoint) ∈
      (entries.foldl (fun client entry => client.retireAndFail entry.2 reason) client).posted := by
  induction entries generalizing client with
  | nil =>
    obtain ⟨entry, hentry, -⟩ := registered
    cases hentry
  | cons first later ih =>
    rw [List.foldl_cons]
    by_cases here : first.2 = index
    · apply List.IsPrefix.subset (turnRelation_posted.retireAll later reason _)
      rw [here, retireAndFail_eq hc]
      exact List.mem_append_right _ (List.mem_map_of_mem outstanding)
    · obtain ⟨entry, hentry, hindex⟩ := registered
      have later : ∃ entry ∈ later, entry.2 = index := by
        rcases List.mem_cons.1 hentry with rfl | hentry
        · exact absurd hindex here
        · exact ⟨entry, hentry, hindex⟩
      refine ih ?_ later
      cases hfirst : client.connections[first.2]? with
      | none =>
        rw [retireAndFail_eq_self hfirst]
        exact hc
      | some retired =>
        rw [retireAndFail_eq hfirst]
        exact (List.getElem?_set_ne here).trans hc

/-- A connection that was removed from service, and not asked to close before, was asked for this
reason. -/
theorem asked_retireAll {entries : List (Address × Nat)} {reason : CloseReason}
    {index : Nat} {connection : Connection} (hc : client.connections[index]? = some connection)
    (asked : connection.closeReason = some reason ∨
      connection.closeReason = none ∧ ∃ entry ∈ entries, entry.2 = index) :
    ∃ after, (entries.foldl (fun client entry => client.retireAndFail entry.2 reason)
      client).connections[index]? = some after ∧ after.closeReason = some reason := by
  induction entries generalizing client connection with
  | nil =>
    rcases asked with asked | ⟨-, entry, hentry, -⟩
    · exact ⟨connection, hc, asked⟩
    · cases hentry
  | cons first later ih =>
    rw [List.foldl_cons]
    by_cases here : first.2 = index
    · rw [here, retireAndFail_eq hc]
      obtain ⟨hlt, -⟩ := List.getElem?_eq_some_iff.1 hc
      refine ih (List.getElem?_set_self hlt) (.inl ?_)
      rcases asked with asked | ⟨asked, -⟩
      · simp [Connection.requestClose, Connection.drain, asked]
      · simp [Connection.requestClose, Connection.drain, asked]
    · have same : (client.retireAndFail first.2 reason).connections[index]? = some connection := by
        cases hfirst : client.connections[first.2]? with
        | none =>
          rw [retireAndFail_eq_self hfirst]
          exact hc
        | some retired =>
          rw [retireAndFail_eq hfirst]
          exact (List.getElem?_set_ne here).trans hc
      apply ih same
      rcases asked with asked | ⟨unasked, entry, hentry, hindex⟩
      · exact .inl asked
      · rcases List.mem_cons.1 hentry with rfl | hentry
        · exact absurd hindex here
        · exact .inr ⟨unasked, entry, hentry, hindex⟩

/-- Closing sessions that are not taken up leaves what sessions hold as it is. -/
theorem held_discardAll (list : List Nat) (client : Client) :
    (list.foldl discard client).sessions.map (fun session => (session.connection, session.held)) =
      client.sessions.map fun session => (session.connection, session.held) := by
  induction list generalizing client with
  | nil => rfl
  | cons n later ih =>
    apply (ih (client.discard n)).trans
    unfold discard
    split
    · rfl
    · rename_i session hs
      have same : (client.sessions.set n
          { session with channel := session.channel.close, phase := .closed }).map
            (fun session => (session.connection, session.held)) =
          client.sessions.map fun session => (session.connection, session.held) :=
        map_set_of_eq _ hs rfl
      simp only
      split
      · exact same
      · exact same

/-- A turn that leads to waiting for the drivers halts. -/
theorem exists_halt_of_left (before : client.loop ≠ .joining)
    (left : (client.perform .turn).loop = .joining) :
    ∃ lastSweep, client.perform .turn = ({ client with lastSweep := lastSweep } : Client).halt ∧
      client.loop ≠ .absent ∧ client.mayTurn = true ∧ client.shuttingDown = true := by
  have turned : client.perform .turn = if client.mayTurn then client.turn else client := rfl
  rw [turned] at left ⊢
  split at left
  · rename_i free
    unfold turn at left ⊢
    cases hturn : client.turn? with
    | none =>
      rw [hturn] at left
      exact absurd left before
    | some next =>
      rw [hturn, Option.getD_some] at left
      rw [if_pos free, Option.getD_some]
      cases turned_of_turn? hturn with
      | began deadline loop changed =>
        rw [changed] at left
        cases left
      | halted lastSweep running waited down changed =>
        exact ⟨lastSweep, changed, ne_absent_of_isRunning running, free, down⟩
      | worked since loop up noticed changed =>
        rw [changed] at left
        cases left
      | ended loop closed changed => exact absurd loop before
  · exact absurd left before

theorem Stopping.of_halt (orderly : client.Orderly) (there : client.loop ≠ .absent)
    (retired : client.Retired) (quiet : client.Quiet) (down : client.shuttingDown = true) :
    client.halt.Stopping := by
  have frame := halt_frame client
  refine ⟨orderly.halt there down quiet, ?_, .inl ?_, ?_, fun n session connection _ _ hc unasked => ?_,
    fun ended => ?_⟩
  · rw [frame]
    exact down
  · rw [frame]
  · rw [frame]
  · obtain ⟨entry, hentry, -⟩ := retired.halt _ connection hc unasked
    rw [frame] at hentry
    cases hentry
  · rw [frame] at ended
    cases ended

theorem loop_send (valid : client.RegistryValid) (call : Call) :
    (client.send call).loop = client.loop := by
  cases sent_send valid call with
  | malformed failure encoded changed =>
    rw [changed]
    rfl
  | submitted header encoded seat outcome =>
    rename_i index connection seated
    have same : seated.loop = client.loop := by cases seat <;> rfl
    cases outcome with
    | refused down changed => rw [changed, ← same]
    | queued up link connection' shared changed => rw [changed, ← same]
    | opened up link takesUp session own phase free connection' shared changed =>
      rw [changed, ← same]
    | failed up link failure unused closed connection' shared changed => rw [changed, ← same]

/-- Whoever is found to have left the turns of the loop stops. -/
theorem ReachableWhile.stopping {P : Client → Prop} (h : client.ReachableWhile P)
    (left : client.loop = .joining ∨ client.loop = .ended) : client.Stopping := by
  suffices all : client.Orderly ∧ client.Retired ∧
      (client.loop = .joining ∨ client.loop = .ended → client.Stopping) from all.2.2 left
  refine h.induct (fun first built => ?_) fun client action _ ⟨orderly, retired, stopping⟩ => ?_
  · have reachable : ReachableWhile (fun _ => True) first := ⟨first, built, .refl⟩
    refine ⟨reachable.orderly, reachable.retired, fun left => ?_⟩
    obtain ⟨settings, parsers, pool, firstXid, rfl⟩ := built.exists_eq
    rcases left with left | left <;> cases left
  refine ⟨orderly.perform action, retired.perform orderly action, fun left => ?_⟩
  by_cases before : client.loop = .joining ∨ client.loop = .ended
  · exact (stopping before).perform action
  have performed := client.performed_perform action
  generalize client.perform action = next at left performed
  cases performed with
  | sent call =>
    rw [loop_send orderly.sound.valid] at left
    exact absurd left before
  | turned free turned =>
    cases turned with
    | began deadline loop changed =>
      rw [changed] at left
      rcases left with left | left <;> cases left
    | halted lastSweep running waited down changed =>
      have noted : ({ client with lastSweep := lastSweep } : Client).Orderly :=
        orderly.of_same rfl rfl id id Iff.rfl
      rw [changed]
      exact .of_halt noted (ne_absent_of_isRunning running) retired (quiet_of_mayTurn free) down
    | worked since loop up noticed changed =>
      rw [changed] at left
      rcases left with left | left <;> cases left
    | ended loop closed changed => exact absurd (.inl loop) before
  | driven n found bound waited driven changed =>
    rw [changed] at left
    exact absurd left before
  | toldPosted position found =>
    rw [deliver_eq] at left
    exact absurd left before
  | toldRejected position found =>
    rw [deliver_eq] at left
    exact absurd left before
  | notified found => exact absurd left before
  | changed found channel => exact absurd left before
  | started up loop deadline => rcases left with left | left <;> cases left
  | abandoned up loop => rcases left with left | left <;> cases left
  | ended loop =>
    rw [failOutstanding_frame] at left
    exact absurd left before
  | flagged loop => exact absurd left before
  | aside same =>
    rw [same] at left
    exact absurd left before

/-- Whatever is unresolved on a registered connection fails with `shutDown` when the loop leaves its
turns, or is left to a driver that is to let it fail so. -/
theorem Doomed.of_halt (orderly : client.Orderly) {entry : Address × Nat}
    (registered : entry ∈ client.registry) (unresolved : client.UnresolvedOn entry.2 request) :
    client.halt.Doomed request := by
  let failed : Client := { client.failOutstanding with
    registrations := [], registrationsOpen := false, loop := .joining }
  have halted : client.halt = client.failOutstanding.registrations.foldl discard failed := rfl
  rcases unresolved with ⟨connection, hc, outstanding⟩ | ⟨session, hsession, own, held⟩
  · have posted : request.fail .shutDown ∈ failed.posted :=
      @failed_retireAll { client with registry := [] } request client.registry .shutdown entry.2
        connection hc ⟨entry, registered, rfl⟩ outstanding
    have kept : failed.posted <+: client.halt.posted :=
      turnRelation_posted.foldl turnRelation_posted.discarded _ failed fun _ _ => trivial
    exact .inl (kept.subset posted)
  · obtain ⟨n, hs⟩ := List.mem_iff_getElem?.1 hsession
    have hlt := orderly.sound.valid entry registered
    have hc : client.connections[entry.2]? = some client.connections[entry.2] :=
      List.getElem?_eq_getElem hlt
    have unasked := orderly.sound.unasked entry registered _ hc
    obtain ⟨asked, hasked, reason⟩ :=
      @asked_retireAll { client with registry := [] } client.registry .shutdown entry.2 _ hc
        (.inr ⟨unasked, entry, registered, rfl⟩)
    have sessions : failed.sessions = client.sessions := by
      show client.failOutstanding.sessions = client.sessions
      rw [failOutstanding_frame]
    have hs' : failed.sessions[n]? = some session := by
      rw [sessions]
      exact hs
    obtain ⟨after, hafter, same⟩ := exists_of_map_eq (held_discardAll _ failed).symm hs'
    obtain ⟨bound, hbound, reason'⟩ :=
      exists_of_map_eq (closeReasons_discardAll _ failed).symm hasked
    simp only [Prod.mk.injEq] at same
    rw [← halted] at hafter hbound
    rw [← own, ← same.1] at hbound
    exact .inr (.inr ⟨n, after, bound, hafter, same.2.trans held, hbound, reason'.trans reason⟩)

/-! ## The end of the loop -/

end

/-- How many steps the driver of a session in this phase takes at most until it closes, once it was
asked to and nothing else happens. -/
def stepsLeft : SessionPhase → Nat
  | .closed => 0
  | .deciding => 2
  | .pausing _ => 3
  | _ => 1

theorem eq_closed_of_stepsLeft {phase : SessionPhase} (h : stepsLeft phase = 0) :
    phase = .closed := by
  cases phase <;> simp_all [stepsLeft]

/-- How many steps all drivers together take at most until they have closed. -/
def workLeft (client : Client) : Nat :=
  (client.sessions.map fun session => stepsLeft session.phase).sum

section

variable {client next : Client}

/-- A driver that waits closes its session when it was asked to. -/
theorem step?_of_asked {n : Nat} {session : Session} {connection : Connection}
    {reason : CloseReason} (hs : client.sessions[n]? = some session)
    (hc : client.connections[session.connection]? = some connection)
    (asked : connection.closeReason = some reason) (listens : session.phase.listens = true) :
    client.step? n = some (client.teardown n session connection reason) := by
  cases phase : session.phase with
  | finishing polled => simp [step?, hs, hc, phase, unlessClosed, asked]
  | greeting interest => simp [step?, hs, hc, phase, unlessClosed, asked]
  | waiting armed interest => simp [step?, hs, hc, phase, unlessClosed, asked]
  | _ =>
    rw [phase] at listens
    cases listens

/-- Every step of a driver that was asked to close leaves it less to do. -/
theorem exists_stepsLeft_lt (sound : client.Sound) {n : Nat} {session : Session}
    {connection : Connection} (hs : client.sessions[n]? = some session)
    (hc : client.connections[session.connection]? = some connection)
    (asked : connection.closeReason ≠ none) (step : client.step? n = some next) :
    ∃ session', next.sessions = client.sessions.set n session' ∧
      stepsLeft session'.phase < stepsLeft session.phase := by
  obtain ⟨reason, asked⟩ := Option.ne_none_iff_exists'.1 asked
  have closing (listens : session.phase.listens = true) :
      ∃ session', next.sessions = client.sessions.set n session' ∧
        stepsLeft session'.phase < stepsLeft session.phase := by
    rw [step?_of_asked hs hc asked listens, Option.some.injEq] at step
    rw [← step]
    refine ⟨_, rfl, Nat.pos_of_ne_zero fun none => ?_⟩
    exact SessionPhase.ne_closed_of_listens listens (eq_closed_of_stepsLeft none)
  have still (busy : session.phase.exchanges) : False := by
    rw [sound.closing n session connection hs hc busy] at asked
    cases asked
  cases phase : session.phase with
  | registered => simp [step?, hs, hc, phase] at step
  | closed => simp [step?, hs, hc, phase] at step
  | finishing polled => exact phase ▸ closing (by rw [phase]; rfl)
  | greeting interest => exact phase ▸ closing (by rw [phase]; rfl)
  | waiting armed interest => exact phase ▸ closing (by rw [phase]; rfl)
  | deciding =>
    simp only [step?, hs, hc, phase, Option.bind_eq_bind, Option.bind_some,
      Option.some.injEq] at step
    rw [← step]
    exact ⟨_, rfl, Nat.one_lt_two⟩
  | pausing deadline =>
    simp only [step?, hs, hc, phase, Option.bind_eq_bind, Option.bind_some] at step
    split at step
    · cases step
      exact ⟨_, rfl, Nat.lt_succ_self 2⟩
    · cases step
  | reading thenWrite => exact (still (by rw [phase]; rfl)).elim
  | writing => exact (still (by rw [phase]; rfl)).elim

/-- A session changes to a phase with less left to do. -/
theorem workLeft_lt {n : Nat} {session session' : Session}
    (hs : client.sessions[n]? = some session)
    (sessions : next.sessions = client.sessions.set n session')
    (less : stepsLeft session'.phase < stepsLeft session.phase) :
    next.workLeft < client.workLeft := by
  have sum := sum_map_set (fun session => stepsLeft session.phase) session' hs
  rw [workLeft, workLeft, sessions]
  omega

/-- As long as a session is open, the thread is free for the driver of some open session. -/
theorem exists_mayDrive (told : client.posted = []) (working : client.allClosed = false) :
    ∃ (n : Nat) (session : Session), client.sessions[n]? = some session ∧
      session.phase ≠ .closed ∧ client.mayDrive n = true := by
  cases hholder : client.threadHolder? with
  | some n =>
    obtain ⟨hlt, holds, -⟩ := List.findIdx?_eq_some_iff_getElem.1 hholder
    refine ⟨n, _, List.getElem?_eq_getElem hlt, fun closed => ?_, ?_⟩
    · rw [closed] at holds
      cases holds
    · simp [mayDrive, told, hholder]
  | none =>
    obtain ⟨session, hsession, live⟩ := List.all_eq_false.1 working
    obtain ⟨n, hs⟩ := List.mem_iff_getElem?.1 hsession
    exact ⟨n, session, hs, by simpa using live, by simp [mayDrive, told, hholder]⟩

/-- As long as a session is open, some driver can take a step that leaves less to do. -/
theorem Stopping.exists_run (h : client.Stopping) (told : client.posted = [])
    (working : client.allClosed = false) :
    ∃ next, Run client next ∧ next.workLeft < client.workLeft := by
  obtain ⟨n, session, hs, live, free⟩ := exists_mayDrive told working
  obtain ⟨connection, hc, -⟩ := h.orderly.sound.owner n session hs live
  have asked := h.asked n session connection hs live hc
  have driven {client next : Client} (sound : client.Sound)
      (hs : client.sessions[n]? = some session)
      (hc : client.connections[session.connection]? = some connection)
      (free : client.mayDrive n = true) (step : client.step? n = some next) :
      Run client next ∧ next.workLeft < client.workLeft := by
    obtain ⟨session', sessions, less⟩ := exists_stepsLeft_lt sound hs hc asked step
    have run : Run client (client.perform (.drive n)) := RunWhile.refl.tail trivial _
    rw [client.perform_drive_of_step? free step] at run
    exact ⟨run, workLeft_lt hs sessions less⟩
  have closing (listens : session.phase.listens = true) :
      ∃ next, Run client next ∧ next.workLeft < client.workLeft := by
    obtain ⟨reason, given⟩ := Option.ne_none_iff_exists'.1 asked
    exact ⟨_, driven h.orderly.sound hs hc free (step?_of_asked hs hc given listens)⟩
  have still (busy : session.phase.exchanges) : False :=
    asked (h.orderly.sound.closing n session connection hs hc busy)
  cases phase : session.phase with
  | registered =>
    have waiting := (h.orderly.awaiting.2 n).2 ⟨session, hs, phase⟩
    rw [h.empty] at waiting
    cases waiting
  | finishing polled => exact closing (by rw [phase]; rfl)
  | greeting interest => exact closing (by rw [phase]; rfl)
  | deciding =>
    have step : client.step? n = some (client.decideStep n session connection) := by
      simp [step?, hs, hc, phase]
    exact ⟨_, driven h.orderly.sound hs hc free step⟩
  | waiting armed interest => exact closing (by rw [phase]; rfl)
  | pausing deadline =>
    have later : Run client (client.elapse deadline) :=
      RunWhile.refl.tail trivial (.elapse deadline)
    have hs' : (client.elapse deadline).sessions[n]? = some session := hs
    have hc' : (client.elapse deadline).connections[session.connection]? = some connection := hc
    have step : (client.elapse deadline).step? n =
        some ((client.elapse deadline).putSession n { session with phase := .deciding }) := by
      have due : deadline ≤ (client.elapse deadline).now := Nat.le_add_left _ _
      simp [step?, hs', hc', phase, due]
    have sound : (client.elapse deadline).Sound := h.orderly.sound.of_same rfl id id Iff.rfl
    obtain ⟨run, less⟩ := driven sound hs' hc' free step
    exact ⟨_, later.trans run, less⟩
  | reading thenWrite => exact (still (by rw [phase]; rfl)).elim
  | writing => exact (still (by rw [phase]; rfl)).elim
  | closed => exact absurd phase live

/-- Once the loop has left its turns it can run to its end. -/
theorem Stopping.exists_ended (h : client.Stopping) :
    ∃ last, Run client last ∧ last.loop = .ended := by
  induction hwork : client.workLeft using Nat.strong_induction_on generalizing client with
  | _ work ih =>
    subst hwork
    have told := run_tellAll client
    have stopping := h.run told
    have posted : client.tellAll.posted = [] := by
      unfold tellAll
      rw [deliverAll_eq]
    have same : client.tellAll.workLeft = client.workLeft := by
      unfold tellAll
      rw [deliverAll_eq]
      rfl
    cases working : client.tellAll.allClosed with
    | false =>
      obtain ⟨next, run, less⟩ := stopping.exists_run posted working
      rw [same] at less
      obtain ⟨last, rest, ended⟩ := ih next.workLeft less (stopping.run run) rfl
      exact ⟨last, told.trans (run.trans rest), ended⟩
    | true =>
      rcases stopping.left with joining | ended
      · have run : Run client.tellAll (client.tellAll.perform .turn) := RunWhile.refl.tail trivial _
        refine ⟨_, told.trans run, ?_⟩
        have idle : client.tellAll.threadHolder? = none := by
          refine List.findIdx?_eq_none_iff.2 fun session hsession => ?_
          have phase : session.phase = .closed := by
            simpa using List.all_eq_true.1 working session hsession
          rw [phase]
          rfl
        have free : client.tellAll.mayTurn = true := by simp [mayTurn, posted, idle]
        show (if client.tellAll.mayTurn then client.tellAll.turn else client.tellAll).loop = .ended
        simp [free, turn, turn?, joining, working, enter]
      · exact ⟨client.tellAll, told, ended⟩

/-! ## The only notice of a request -/

/-- The request of a notice has ended: whatever comes, it is not outstanding, the notice is the only
one of its ticket, and when all listeners are told, theirs has been told once. -/
def Resolved (client : Client) (notice : Notice) : Prop :=
  ∀ later, Run client later →
    (∀ request ∈ later.outstanding, request.ticket ≠ notice.ticket) ∧
    later.notices.filter (·.ticket == notice.ticket) = [notice] ∧
    later.tellAll.told.filter (·.ticket == notice.ticket) = [notice]

theorem load_notices_le (h : client.Reachable) (ticket : Nat) :
    Notice.load ticket client.notices ≤ 1 := by
  have all := h.load_le ticket
  rw [load, issued] at all
  split_ifs at all <;> omega

theorem told_only (h : client.Reachable) {notice : Notice} (mem : notice ∈ client.told) :
    client.told.filter (·.ticket == notice.ticket) = [notice] :=
  filter_eq_singleton mem ((client.toldTimes_le _).trans (load_notices_le h _))

/-- What is outstanding has a load. -/
theorem load_pos_of_mem_outstanding (h : request ∈ client.outstanding) :
    0 < client.connectionsLoad request.ticket + client.sessionsLoad request.ticket := by
  rw [← load_outstanding]
  exact List.count_pos_iff.2 (List.mem_map_of_mem h)

/-- A request with a notice has ended. -/
theorem resolved_of_mem_notices (h : client.Reachable) {notice : Notice}
    (mem : notice ∈ client.notices) : client.Resolved notice := by
  intro later run
  have reachable := h.run run
  have keeps := keeps_of_run h.orderly run
  have there : notice ∈ later.notices := by
    rw [notices, List.mem_append, List.mem_append] at mem ⊢
    rcases mem with (posted | rejected) | told
    · exact (keeps.posted notice posted).imp .inl id
    · exact (keeps.rejected notice rejected).imp .inr id
    · exact .inr (keeps.told.subset told)
  refine ⟨fun request outstanding same => ?_,
    filter_eq_singleton there (load_notices_le reachable _), ?_⟩
  · have one : 0 < Notice.load notice.ticket later.notices :=
      List.count_pos_iff.2 (List.mem_map_of_mem there)
    have bound := load_pos_of_mem_outstanding outstanding
    have all := reachable.load_le notice.ticket
    rw [same] at bound
    rw [load, issued] at all
    split_ifs at all <;> omega
  · apply told_only (reachable.run (run_tellAll later))
    unfold tellAll
    rw [deliverAll_eq]
    rw [notices, List.mem_append] at there
    exact List.mem_append.2 (there.imp_left List.mem_reverse.2)

/-- A call made after the shutdown flag was raised opens nothing and puts nothing in a queue. Its
request has ended with `shutDown`. -/
theorem resolved_send (h : client.Reachable) (down : client.shuttingDown = true) {call : Call}
    (size : ∀ message, call.credentials = some message → message.size < UInt32.size) :
    (client.perform (.send call)).sessions = client.sessions ∧
      (client.perform (.send call)).opens = client.opens ∧
      (client.perform (.send call)).outstanding = client.outstanding ∧
      (client.perform (.send call)).Resolved ((client.requestFor call).fail .shutDown) := by
  have reachable : (client.perform (.send call)).Reachable :=
    h.perform (.send call)
  obtain ⟨failure, fresh, entries, empty, same, changed⟩ :=
    send_of_down h.orderly.sound.valid down call
  obtain ⟨header, encoded⟩ := exists_encode (client.headerFor call) size
  rw [same header encoded] at changed
  have performed : client.perform (.send call) = client.send call := rfl
  rw [performed, changed] at reachable ⊢
  refine ⟨rfl, rfl, ?_, resolved_of_mem_notices reachable ?_⟩
  · have none : fresh.flatMap Connection.outstanding = [] := List.flatMap_eq_nil_iff.2 empty
    simp only [outstanding, List.flatMap_append, none, List.append_nil, countCall]
  · exact List.mem_append_left _ (List.mem_append_right _ List.mem_concat_self)

/-- Wherever the loop leaves its turns it can run to its end, and there nothing is outstanding and
every request that was unresolved on a registered connection has failed with `shutDown`, once. A
call made after the shutdown flag was raised fails with `shutDown` too, and is not queued. -/
theorem shutdown_resolves_everything :
    (∀ client : Client, client.Reachable → client.loop ≠ .joining →
      (client.perform .turn).loop = .joining →
      (∀ next, Run (client.perform .turn) next → ∃ last, Run next last ∧ last.loop = .ended) ∧
      ∀ last, Run (client.perform .turn) last → last.loop = .ended →
        (∀ entry ∈ client.registry, ∀ request, client.UnresolvedOn entry.2 request →
          last.told.filter (·.ticket == request.ticket) = [request.fail .shutDown]) ∧
        last.outstanding = [] ∧ last.posted = []) ∧
    ∀ client : Client, client.Reachable → client.shuttingDown = true → ∀ call : Call,
      (∀ message, call.credentials = some message → message.size < UInt32.size) →
      (client.perform (.send call)).sessions = client.sessions ∧
      (client.perform (.send call)).opens = client.opens ∧
      (client.perform (.send call)).outstanding = client.outstanding ∧
      (client.perform (.send call)).Resolved ((client.requestFor call).fail .shutDown) := by
  refine ⟨fun client h before left => ?_, fun client h down call size => resolved_send h down size⟩
  have reachable : (client.perform .turn).Reachable := h.perform .turn
  obtain ⟨lastSweep, halted, there, free, down⟩ := exists_halt_of_left before left
  let noted : Client := { client with lastSweep := lastSweep }
  have orderly : noted.Orderly := h.orderly.of_same rfl rfl id id Iff.rfl
  have retired : noted.Retired := h.retired
  have stopping : noted.halt.Stopping :=
    .of_halt orderly there retired (quiet_of_mayTurn free) down
  rw [halted] at reachable ⊢
  refine ⟨fun next run => (stopping.run run).exists_ended, fun last run ended => ?_⟩
  have stopped := stopping.run run
  refine ⟨fun entry registered request unresolved => ?_, stopped.outstanding_eq_nil ended,
    (stopped.ended ended).1⟩
  have doomed : noted.halt.Doomed request := .of_halt orderly registered unresolved
  exact told_only (reachable.run run) ((doomed.run stopping run).told stopped ended)

end

/-- A client that was shut down while a call was waiting for its channel to be taken up. -/
def leaving : Client :=
  usual.performAll [.start, .elapse timerProbe, .turn, .send nullCall, .shutdown]

theorem reachable_leaving : leaving.Reachable := ⟨usual, built_usual, run_performAll usual _⟩

theorem shutdown_resolves_everything_leaving :
    (∃ request, leaving.UnresolvedOn 0 request ∧
      ∃ last, Run (leaving.perform .turn) last ∧ last.loop = .ended ∧
        last.told.filter (·.ticket == request.ticket) = [request.fail .shutDown]) ∧
    (leaving.perform (.send nullCall)).Resolved ((leaving.requestFor nullCall).fail .shutDown) := by
  obtain ⟨leave, refuse⟩ := shutdown_resolves_everything
  obtain ⟨ends, resolves⟩ := leave leaving reachable_leaving (by decide) (by decide)
  obtain ⟨last, run, ended⟩ := ends _ .refl
  have unresolved : ∃ request, leaving.UnresolvedOn 0 request :=
    ⟨_, .inl ⟨_, rfl, List.mem_cons_self⟩⟩
  obtain ⟨request, hrequest⟩ := unresolved
  refine ⟨⟨request, hrequest, last, run, ended, ?_⟩, ?_⟩
  · exact (resolves last run ended).1 (nullCall.target, 0) (by decide) request hrequest
  · exact (refuse leaving reachable_leaving rfl nullCall (by simp [nullCall])).2.2.2

end RemoteCall.Client
