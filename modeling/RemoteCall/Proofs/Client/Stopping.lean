import RemoteCall.Proofs.Client.Accounting
import RemoteCall.Proofs.Client.Closing

/-!
# A client that stops

Once the loop has left its turns a client is `Stopping`: nothing is queued, no session is opened any
more, and every driver was asked to close. `Wound` lists what can still happen. A request that a
driver holds is `Doomed`, and fails for the reason that the driver was given.
-/
namespace RemoteCall

/-- What the rest of a client sees of a session. -/
def Session.outline (session : Session) : Nat × Option Request × SessionPhase :=
  (session.connection, session.held, session.phase)

namespace Client

/-! ## Calls after the shutdown -/

/-- A call made after the shutdown fails at once. Otherwise it does no more than count, and make the
connection of its destination. -/
theorem send_of_down {client : Client} (valid : client.RegistryValid)
    (down : client.shuttingDown = true) (call : Call) :
    ∃ failure fresh entries, (∀ connection ∈ fresh, connection.outstanding = []) ∧
      (∀ header, (client.headerFor call).encode call.credentials = .ok header →
        failure = .shutDown) ∧
      client.send call = { client.countCall with
        connections := client.connections ++ fresh
        registry := client.registry ++ entries
        rejected := client.rejected ++ [(client.requestFor call).fail failure] } := by
  cases sent_send valid call with
  | malformed failure encoded changed =>
    refine ⟨failure, [], [], List.forall_mem_nil _, fun header ok => ?_, ?_⟩
    · rw [encoded] at ok
      cases ok
    · rw [changed, List.append_nil, List.append_nil]
      rfl
  | submitted header encoded seat outcome =>
    rename_i index connection seated
    have stays : seated.shuttingDown = true := by
      cases seat with
      | known _ _ => exact down
      | fresh _ _ _ _ => exact down
    have changed : client.send call = { seated with
        rejected := seated.rejected ++ [(client.requestFor call).fail .shutDown] } := by
      cases outcome with
      | refused _ changed => exact changed
      | queued up _ _ _ _ =>
        rw [stays] at up
        cases up
      | opened up _ _ _ _ _ _ _ _ _ =>
        rw [stays] at up
        cases up
      | failed up _ _ _ _ _ _ _ =>
        rw [stays] at up
        cases up
    rw [changed]
    cases seat with
    | known _ _ =>
      refine ⟨.shutDown, [], [], List.forall_mem_nil _, fun _ _ => rfl, ?_⟩
      rw [List.append_nil, List.append_nil]
      rfl
    | fresh number link empty unasked =>
      exact ⟨.shutDown, [connection], [(call.target, index)],
        List.forall_mem_singleton.2 empty, fun _ _ => rfl, rfl⟩

/-- A header is encoded if the credentials are below the limit of their length. -/
theorem exists_encode (header : CallHeader) {credentials : Option Message}
    (size : ∀ message, credentials = some message → message.size < UInt32.size) :
    ∃ bytes, header.encode credentials = .ok bytes := by
  unfold CallHeader.encode CallHeader.encodeCredentials
  cases credentials with
  | none => exact ⟨_, rfl⟩
  | some message =>
    simp only [if_neg (Nat.not_le.2 (size message rfl))]
    exact ⟨_, rfl⟩

/-! ## What happens to a client that stops -/

/-- Nobody drives: sessions keep their phases and what they hold, orders to close stay, and notices
of the loop and the drivers are only taken away. -/
structure Calm (client next : Client) : Prop where
  sessions : next.sessions.map Session.outline = client.sessions.map Session.outline
  closeReasons : client.connections.map Connection.closeReason <+:
    next.connections.map Connection.closeReason
  registrations : next.registrations = client.registrations
  takesUp : next.registrationsOpen = client.registrationsOpen
  loop : next.loop = client.loop
  down : next.shuttingDown = client.shuttingDown
  posted : next.posted ⊆ client.posted

namespace Calm

variable {client next : Client}

theorem of_estate (estate : next.estate = client.estate)
    (registrations : next.registrations = client.registrations) (loop : next.loop = client.loop)
    (down : next.shuttingDown = client.shuttingDown) (posted : next.posted ⊆ client.posted) :
    client.Calm next := by
  simp only [Client.estate, Prod.mk.injEq] at estate
  obtain ⟨connections, sessions, -, takesUp⟩ := estate
  exact ⟨by rw [sessions], by rw [connections], registrations, takesUp, loop, down, posted⟩

/-- A session was there before, and looked the same. -/
theorem session (h : client.Calm next) {n : Nat} {session : Session}
    (hs : next.sessions[n]? = some session) :
    ∃ before, client.sessions[n]? = some before ∧ before.connection = session.connection ∧
      before.held = session.held ∧ before.phase = session.phase := by
  obtain ⟨before, hbefore, same⟩ := exists_of_map_eq h.sessions hs
  simp only [Session.outline, Prod.mk.injEq] at same
  exact ⟨before, hbefore, same⟩

/-- A session is still there. -/
theorem session' (h : client.Calm next) {n : Nat} {session : Session}
    (hs : client.sessions[n]? = some session) :
    ∃ after, next.sessions[n]? = some after ∧ after.connection = session.connection ∧
      after.held = session.held ∧ after.phase = session.phase := by
  obtain ⟨after, hafter, same⟩ := exists_of_map_eq h.sessions.symm hs
  simp only [Session.outline, Prod.mk.injEq] at same
  exact ⟨after, hafter, same⟩

/-- A connection is still there, with the same order to close. -/
theorem connection (h : client.Calm next) {index : Nat} {connection : Connection}
    (hc : client.connections[index]? = some connection) :
    ∃ after, next.connections[index]? = some after ∧
      after.closeReason = connection.closeReason :=
  exists_of_prefix_map h.closeReasons hc

theorem allClosed (h : client.Calm next) (closed : client.allClosed = true) :
    next.allClosed = true := by
  refine List.all_eq_true.2 fun session hsession => ?_
  obtain ⟨n, hs⟩ := List.mem_iff_getElem?.1 hsession
  obtain ⟨before, hbefore, -, -, phase⟩ := h.session hs
  rw [← phase]
  exact List.all_eq_true.1 closed before (List.mem_of_getElem? hbefore)

end Calm

/-- The loop has left its turns, nothing is taken up any more, and all drivers were asked to
close. -/
structure Stopping (client : Client) : Prop where
  orderly : client.Orderly
  down : client.shuttingDown = true
  left : client.loop = .joining ∨ client.loop = .ended
  empty : client.registrations = []
  asked : ∀ (n : Nat) session connection, client.sessions[n]? = some session →
    session.phase ≠ .closed → client.connections[session.connection]? = some connection →
    connection.closeReason ≠ none
  ended : client.loop = .ended → client.posted = [] ∧ client.allClosed = true

/-- What an action does to a client that stops. -/
inductive Wound (client next : Client) : Prop where
  | calm (calm : client.Calm next)
  | ended (loop : client.loop = .joining) (told : client.posted = [])
      (closed : client.allClosed = true) (changed : next = client.enter .ended)
  | driven (n : Nat) {session session' : Session} {connection connection' : Connection}
      {notices : List Notice} {displaced : Option Request}
      (found : client.sessions[n]? = some session)
      (bound : client.connections[session.connection]? = some connection)
      (driven : Driven session connection session' connection' notices displaced)
      (changed : next = { client with
        sessions := client.sessions.set n session'
        connections := client.connections.set session.connection connection'
        posted := client.posted ++ notices
        pool := next.pool
        driversEnded := next.driversEnded
        events := next.events
        mailbox := next.mailbox })

section

variable {client next : Client}

theorem wound_turned (h : client.Stopping) (free : client.mayTurn = true)
    (turned : client.Turned next) : client.Wound next := by
  have told : client.posted = [] := by
    simp only [mayTurn, Bool.and_eq_true, List.isEmpty_iff] at free
    exact free.1
  cases turned with
  | began deadline loop changed =>
    rcases h.left with left | left <;> rw [loop] at left <;> cases left
  | halted lastSweep running waited down changed =>
    rcases h.left with left | left
    · exact absurd left waited
    · simp [isRunning, left] at running
  | worked since loop up noticed changed =>
    rcases h.left with left | left <;> rw [loop] at left <;> cases left
  | ended loop closed changed => exact .ended loop told closed changed

/-- Every action on a client that stops is of one of the kinds of `Wound`. -/
theorem wound_perform (h : client.Stopping) (action : Action) :
    client.Wound (client.perform action) := by
  have performed := client.performed_perform action
  generalize client.perform action = next at performed
  have started : client.loop ≠ .stopped := by
    rcases h.left with left | left <;> rw [left] <;> simp
  cases performed with
  | sent call =>
    obtain ⟨failure, fresh, entries, -, -, changed⟩ :=
      send_of_down h.orderly.sound.valid h.down call
    rw [changed]
    refine .calm ⟨rfl, ?_, rfl, rfl, rfl, rfl, List.Subset.refl _⟩
    rw [List.map_append]
    exact List.prefix_append _ _
  | turned free turned => exact wound_turned h free turned
  | driven n found bound waited driven changed => exact .driven n found bound driven changed
  | toldPosted position found =>
    rw [deliver_eq]
    exact .calm (.of_estate rfl rfl rfl rfl (List.eraseIdx_sublist _ _).subset)
  | toldRejected position found =>
    rw [deliver_eq]
    exact .calm (.of_estate rfl rfl rfl rfl (List.Subset.refl _))
  | notified found =>
    rename_i index connection
    have same : (client.connections.set index connection.notify).map Connection.closeReason =
        client.connections.map Connection.closeReason := map_set_of_eq _ found rfl
    exact .calm ⟨rfl, by rw [same], rfl, rfl, rfl, rfl, List.Subset.refl _⟩
  | changed found channel =>
    refine .calm ⟨?_, List.prefix_rfl, rfl, rfl, rfl, rfl, List.Subset.refl _⟩
    exact map_set_of_eq Session.outline found (by exact rfl)
  | started up loop deadline => exact absurd loop started
  | abandoned up loop => exact absurd loop started
  | ended loop => exact absurd loop started
  | flagged loop => exact .calm (.of_estate rfl rfl rfl h.down.symm (List.Subset.refl _))
  | aside same =>
    rw [same]
    exact .calm (.of_estate rfl rfl rfl rfl (List.Subset.refl _))

/-- A session is open only while the loop waits for it. -/
theorem Stopping.joining (h : client.Stopping) {n : Nat} {session : Session}
    (hs : client.sessions[n]? = some session) (live : session.phase ≠ .closed) :
    client.loop = .joining := by
  refine h.left.resolve_right fun ended => live ?_
  simpa using List.all_eq_true.1 (h.ended ended).2 session (List.mem_of_getElem? hs)

theorem Stopping.perform (h : client.Stopping) (action : Action) :
    (client.perform action).Stopping := by
  have orderly := h.orderly.perform action
  have wound := wound_perform h action
  generalize client.perform action = next at orderly wound
  cases wound with
  | calm calm =>
    refine ⟨orderly, calm.down.trans h.down, ?_, calm.registrations.trans h.empty,
      fun n session connection hs live hc => ?_, fun ended => ?_⟩
    · rw [calm.loop]
      exact h.left
    · obtain ⟨before, hbefore, own, -, phase⟩ := calm.session hs
      rw [← phase] at live
      obtain ⟨known, hknown, -⟩ := h.orderly.sound.owner n before hbefore live
      obtain ⟨same, hsame, reason⟩ := calm.connection hknown
      rw [own, hc] at hsame
      cases hsame
      rw [reason]
      exact h.asked n before known hbefore live hknown
    · rw [calm.loop] at ended
      obtain ⟨told, closed⟩ := h.ended ended
      have posted := calm.posted
      rw [told] at posted
      exact ⟨List.subset_nil.1 posted, calm.allClosed closed⟩
  | ended loop told closed changed =>
    rw [changed] at orderly ⊢
    exact ⟨orderly, h.down, .inr rfl, h.empty, h.asked, fun _ => ⟨told, closed⟩⟩
  | driven n found bound driven changed =>
    rename_i session session' connection connection' notices displaced
    have joining := h.joining found driven.live
    have reasons : (client.connections.set session.connection connection').map
        Connection.closeReason = client.connections.map Connection.closeReason :=
      map_set_of_eq _ bound driven.closeReason
    rw [changed] at orderly ⊢
    refine ⟨orderly, h.down, .inl joining, h.empty, fun m other owner hs live hc => ?_,
      fun ended => ?_⟩
    · obtain ⟨known, hknown, reason⟩ := exists_of_map_eq reasons hc
      rw [← reason]
      rcases getElem?_set_cases hs with ⟨-, rfl⟩ | ⟨-, hs⟩
      · rw [driven.own, bound] at hknown
        cases hknown
        exact h.asked n session connection found driven.live bound
      · exact h.asked m other known hs live hknown
    · have ended : client.loop = .ended := ended
      rw [joining] at ended
      cases ended

theorem Stopping.run (h : client.Stopping) (run : Run client next) : next.Stopping := by
  induction run with
  | refl => exact h
  | tail _ _ action ih => exact ih.perform action

end

/-! ## Requests of a client that stops -/

/-- A request has failed with `shutDown`, or a driver holds it that was asked to let it fail so. -/
def Doomed (client : Client) (request : Request) : Prop :=
  request.fail .shutDown ∈ client.posted ∨ request.fail .shutDown ∈ client.told ∨
    ∃ (n : Nat) (session : Session) (connection : Connection),
      client.sessions[n]? = some session ∧ session.held = some request ∧
      client.connections[session.connection]? = some connection ∧
      connection.closeReason = some .shutdown

section

variable {client next : Client} {request : Request}

theorem Doomed.keep (keeps : client.Keeps next)
    (h : request.fail .shutDown ∈ client.posted ∨ request.fail .shutDown ∈ client.told) :
    next.Doomed request := by
  rcases h with posted | told
  · rcases keeps.posted _ posted with posted | told
    · exact .inl posted
    · exact .inr (.inl told)
  · exact .inr (.inl (keeps.told.subset told))

theorem Doomed.perform (h : client.Doomed request) (stopping : client.Stopping)
    (action : Action) : (client.perform action).Doomed request := by
  have keeps := keeps_perform stopping.orderly action
  have wound := wound_perform stopping action
  generalize client.perform action = next at keeps wound
  rcases h with posted | told | ⟨n, session, connection, hs, held, hc, asked⟩
  · exact .keep keeps (.inl posted)
  · exact .keep keeps (.inr told)
  · cases wound with
    | calm calm =>
      obtain ⟨after, hafter, own, same, -⟩ := calm.session' hs
      obtain ⟨bound, hbound, reason⟩ := calm.connection hc
      rw [← own] at hbound
      exact .inr (.inr ⟨n, after, bound, hafter, same.trans held, hbound, reason.trans asked⟩)
    | ended loop told closed changed =>
      rw [changed]
      exact .inr (.inr ⟨n, session, connection, hs, held, hc, asked⟩)
    | driven m found bound driven changed =>
      rename_i driver driver' served served' notices displaced
      have reasons : (client.connections.set driver.connection served').map
          Connection.closeReason = client.connections.map Connection.closeReason :=
        map_set_of_eq _ bound driven.closeReason
      obtain ⟨after, hafter, reason⟩ := exists_of_map_eq reasons.symm hc
      rw [changed]
      by_cases same : m = n
      · subst same
        cases hs.symm.trans found
        cases hc.symm.trans bound
        rcases driven.held_or_failed (stopping.orderly.sound.closing m session connection hs hc)
          held asked with holds | fails
        · obtain ⟨hlt, -⟩ := List.getElem?_eq_some_iff.1 hs
          refine .inr (.inr ⟨m, driver', after, List.getElem?_set_self hlt, holds, ?_,
            reason.trans asked⟩)
          rw [driven.own]
          exact hafter
        · exact .inl (List.mem_append_right _ fails)
      · refine .inr (.inr ⟨n, session, after, ?_, held, hafter, reason.trans asked⟩)
        exact (List.getElem?_set_ne same).trans hs

theorem Doomed.run (h : client.Doomed request) (stopping : client.Stopping)
    (run : Run client next) : next.Doomed request := by
  have both : next.Stopping ∧ next.Doomed request := by
    induction run with
    | refl => exact ⟨stopping, h⟩
    | tail _ _ action ih => exact ⟨ih.1.perform action, ih.2.perform ih.1 action⟩
  exact both.2

/-- When the loop has ended, a request that was to fail has failed and its listener was told. -/
theorem Doomed.told (h : client.Doomed request) (stopping : client.Stopping)
    (ended : client.loop = .ended) : request.fail .shutDown ∈ client.told := by
  obtain ⟨told, closed⟩ := stopping.ended ended
  rcases h with posted | told | ⟨n, session, connection, hs, held, -, -⟩
  · rw [told] at posted
    cases posted
  · exact told
  · have phase : session.phase = .closed := by
      simpa using List.all_eq_true.1 closed session (List.mem_of_getElem? hs)
    have link := stopping.orderly.sound.holding n session hs (by rw [held]; simp)
    rw [phase] at link
    cases link

/-- When the loop has ended nothing is outstanding. -/
theorem Stopping.outstanding_eq_nil (h : client.Stopping) (ended : client.loop = .ended) :
    client.outstanding = [] := by
  obtain ⟨-, closed⟩ := h.ended ended
  have phase (session : Session) (hsession : session ∈ client.sessions) :
      session.phase = .closed := by
    simpa using List.all_eq_true.1 closed session hsession
  rw [outstanding, List.append_eq_nil_iff, List.flatMap_eq_nil_iff, List.filterMap_eq_nil_iff]
  refine ⟨fun connection hconnection => ?_, fun session hsession => ?_⟩
  · obtain ⟨index, hc⟩ := List.mem_iff_getElem?.1 hconnection
    have unserved := h.orderly.sound.idle index connection hc fun n session hs _ =>
      phase session (List.mem_of_getElem? hs)
    exact unserved.empty (.inr (by simp [ended]))
  · obtain ⟨n, hs⟩ := List.mem_iff_getElem?.1 hsession
    by_contra held
    have link := h.orderly.sound.holding n session hs held
    rw [phase session hsession] at link
    cases link

end

end Client

end RemoteCall
