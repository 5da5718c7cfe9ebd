import RemoteCall.Client.Action
import RemoteCall.Proofs.Client.Handling
import RemoteCall.Proofs.Client.Sending
import RemoteCall.Proofs.Client.Turning

/-!
# What an action does

Every action is a call, a turn, a step of a driver, the telling of a listener or one of a few small
changes. `Performed` lists them with what they change, so that whatever is to be shown of all
actions is shown by cases on it. Where it matters which action it was, `Minor` lists those that are
neither a call nor a turn nor a step of a driver.
-/
namespace RemoteCall.Client

/-- The kinds of actions, by what they make of a client. -/
inductive Performed (client : Client) : Client → Prop where
  | sent (call : Call) : Performed client (client.send call)
  | turned {next : Client} (free : client.mayTurn = true) (turned : client.Turned next) :
      Performed client next
  | driven {next : Client} (n : Nat) {session session' : Session}
      {connection connection' : Connection} {notices : List Notice} {displaced : Option Request}
      (found : client.sessions[n]? = some session)
      (bound : client.connections[session.connection]? = some connection)
      (waited : session.phase ≠ .registered)
      (driven : Driven session connection session' connection' notices displaced)
      (changed : next = { client with
        sessions := client.sessions.set n session'
        connections := client.connections.set session.connection connection'
        posted := client.posted ++ notices
        pool := next.pool
        driversEnded := next.driversEnded
        events := next.events
        mailbox := next.mailbox })
      (handled : Handled session connection session' connection') : Performed client next
  | toldPosted {notice : Notice} (position : Nat)
      (found : client.posted[position]? = some notice) :
      Performed client
        (deliver { client with posted := client.posted.eraseIdx position } notice)
  | toldRejected {notice : Notice} (position : Nat)
      (found : client.rejected[position]? = some notice) :
      Performed client
        (deliver { client with rejected := client.rejected.eraseIdx position } notice)
  | notified {index : Nat} {connection : Connection}
      (found : client.connections[index]? = some connection) :
      Performed client { client with
        connections := client.connections.set index connection.notify
        owed := client.owed.erase index }
  | changed {n : Nat} {session : Session} (found : client.sessions[n]? = some session)
      (channel : Channel) (shut : channel.closed = session.channel.closed)
      (accepted : channel.outbound.accepted = session.channel.outbound.accepted) :
      Performed client { client with
        sessions := client.sessions.set n { session with channel := channel } }
  | started (up : client.shuttingDown = false) (loop : client.loop = .stopped)
      (deadline : Instant) : Performed client (client.enter (.probing deadline))
  | abandoned (up : client.shuttingDown = false) (loop : client.loop = .stopped) :
      Performed client client.abandonLoop
  | ended (loop : client.loop = .stopped) :
      Performed client ({ client with shuttingDown := true } : Client).failOutstanding
  | flagged (loop : client.loop ≠ .stopped) : Performed client { client with shuttingDown := true }
  /-- Nothing changes that requests or their owners depend on. -/
  | aside {next : Client} (same : next = { client with
      now := next.now
      plans := next.plans
      pool := next.pool
      mailbox := next.mailbox
      forgotten := next.forgotten }) : Performed client next

/-- The kinds of actions that are neither a call nor a turn nor a step of a driver. -/
inductive Minor (client : Client) : Action → Client → Prop where
  | toldPosted {position : Nat} {notice : Notice}
      (found : client.posted[position]? = some notice) :
      Minor client (.tellPosted position)
        (deliver { client with posted := client.posted.eraseIdx position } notice)
  | toldRejected {position : Nat} {notice : Notice}
      (found : client.rejected[position]? = some notice) :
      Minor client (.tellRejected position)
        (deliver { client with rejected := client.rejected.eraseIdx position } notice)
  | notified {index : Nat} {connection : Connection}
      (found : client.connections[index]? = some connection) :
      Minor client (.notify index) { client with
        connections := client.connections.set index connection.notify
        owed := client.owed.erase index }
  | changed {n : Nat} {session : Session} {what : ChannelChange}
      (found : client.sessions[n]? = some session) :
      Minor client (.change n what) { client with
        sessions := client.sessions.set n { session with channel := session.channel.change what } }
  | started (up : client.shuttingDown = false) (loop : client.loop = .stopped)
      (deadline : Instant) : Minor client .start (client.enter (.probing deadline))
  | abandoned (up : client.shuttingDown = false) (loop : client.loop = .stopped)
      {setup : LoopSetup} (fails : setup ≠ .ready) : Minor client (.start setup) client.abandonLoop
  | ended (loop : client.loop = .stopped) :
      Minor client .shutdown ({ client with shuttingDown := true } : Client).failOutstanding
  | flagged (loop : client.loop ≠ .stopped) :
      Minor client .shutdown { client with shuttingDown := true }
  /-- Nothing changes that requests or their owners depend on. -/
  | aside {action : Action} {next : Client} (other : action ≠ .shutdown)
      (later : client.now ≤ next.now)
      (same : next = { client with
        now := next.now
        plans := next.plans
        pool := next.pool
        mailbox := next.mailbox
        forgotten := next.forgotten }) : Minor client action next

section

variable (client : Client)

/-- The loop takes a turn, or nothing happens. -/
theorem perform_turn_eq : client.perform .turn = client ∨
    client.mayTurn = true ∧ client.Turned (client.perform .turn) := by
  have turned : client.perform .turn = if client.mayTurn then client.turn else client := rfl
  rw [turned]
  split
  · rename_i free
    unfold turn
    cases turned : client.turn? with
    | none => exact .inl rfl
    | some next => exact .inr ⟨free, turned_of_turn? turned⟩
  · exact .inl rfl

/-- The driver of a session takes the step that it can. -/
theorem perform_drive_of_step? {n : Nat} {next : Client} (free : client.mayDrive n = true)
    (step : client.step? n = some next) : client.perform (.drive n) = next := by
  show (if client.mayDrive n then client.drive n else client) = next
  rw [if_pos free, drive, step, Option.getD_some]

/-- The driver of a session takes a step, or nothing happens. -/
theorem perform_drive_eq (n : Nat) : client.perform (.drive n) = client ∨
    client.mayDrive n = true ∧ client.step? n = some (client.perform (.drive n)) := by
  show (if client.mayDrive n then client.drive n else client) = client ∨ _ ∧ _ = some
    (if client.mayDrive n then client.drive n else client)
  cases free : client.mayDrive n with
  | false => exact .inl rfl
  | true =>
    rw [if_pos rfl, drive]
    cases step : client.step? n with
    | none => exact .inl rfl
    | some next => exact .inr ⟨rfl, rfl⟩

theorem performed_drive (n : Nat) : client.Performed (client.drive n) := by
  unfold drive
  cases hstep : client.step? n with
  | none => exact .aside rfl
  | some next =>
    obtain ⟨session, connection, hs, hc, session', connection', notices, displaced, driven,
      handled, changed⟩ := exists_driven_handled hstep
    refine .driven n hs hc (fun phase => ?_) driven changed handled
    simp [step?, hs, hc, phase] at hstep

theorem minor_tellPosted (position : Nat) :
    client.Minor (.tellPosted position) (client.tellPosted position) := by
  unfold tellPosted
  split
  · exact .aside (by simp) le_rfl rfl
  · rename_i notice found
    exact .toldPosted found

theorem minor_tellRejected (position : Nat) :
    client.Minor (.tellRejected position) (client.tellRejected position) := by
  unfold tellRejected
  split
  · exact .aside (by simp) le_rfl rfl
  · rename_i notice found
    exact .toldRejected found

theorem minor_notify (index : Nat) : client.Minor (.notify index) (client.notify index) := by
  unfold notify
  split
  · split
    · exact .aside (by simp) le_rfl rfl
    · rename_i connection found
      exact .notified found
  · exact .aside (by simp) le_rfl rfl

theorem minor_changeChannel (n : Nat) (what : ChannelChange) :
    client.Minor (.change n what) (client.changeChannel n what) := by
  unfold changeChannel
  split
  · exact .aside (by simp) le_rfl rfl
  · rename_i session found
    exact .changed found

theorem minor_start (setup : LoopSetup) :
    client.Minor (.start setup) (client.start setup).2 := by
  unfold start
  split
  · exact .aside (by simp) le_rfl rfl
  · rename_i down
    have up : client.shuttingDown = false := by simpa using down
    split
    · exact .aside (by simp) le_rfl rfl
    · rename_i running
      have loop : client.loop = .stopped := by simpa using running
      cases setup with
      | ready => exact .started up loop _
      | failed cause => exact .abandoned up loop (by simp)
      | exited => exact .abandoned up loop (by simp)

theorem minor_shutdown : client.Minor .shutdown client.shutdown := by
  unfold shutdown
  simp only
  split
  · rename_i loop
    exact .ended loop
  · rename_i loop
    exact .flagged loop

/-- Every action that is neither a call nor a turn nor a step of a driver is of one of the kinds of
`Minor`. -/
theorem minor_perform {action : Action} (call : ∀ call, action ≠ .send call)
    (turn : action ≠ .turn) (drive : ∀ n, action ≠ .drive n) :
    client.Minor action (client.perform action) := by
  cases action with
  | send sent => exact absurd rfl (call sent)
  | notify index => exact client.minor_notify index
  | start setup => exact client.minor_start setup
  | shutdown => exact client.minor_shutdown
  | turn => exact absurd rfl turn
  | drive n => exact absurd rfl (drive n)
  | tellPosted position => exact client.minor_tellPosted position
  | tellRejected position => exact client.minor_tellRejected position
  | elapse duration => exact .aside (by simp) (Nat.le_add_right _ _) rfl
  | change n what => exact client.minor_changeChannel n what
  | plan plan => exact .aside (by simp) le_rfl rfl
  | collect ticket =>
    show client.Minor _ (client.collect ticket).2
    rw [collect_eq]
    exact .aside (by simp) le_rfl rfl
  | forget ticket =>
    show client.Minor _ (client.forget ticket)
    rw [forget_eq]
    exact .aside (by simp) le_rfl rfl

theorem Minor.performed {client next : Client} {action : Action} (h : client.Minor action next) :
    client.Performed next := by
  cases h with
  | toldPosted found => exact .toldPosted _ found
  | toldRejected found => exact .toldRejected _ found
  | notified found => exact .notified found
  | @changed n session what found =>
    exact .changed found _ (by cases what <;> rfl) (by cases what <;> rfl)
  | started up loop deadline => exact .started up loop deadline
  | abandoned up loop fails => exact .abandoned up loop
  | ended loop => exact .ended loop
  | flagged loop => exact .flagged loop
  | aside _ _ same => exact .aside same

/-- Every action is of one of the kinds of `Performed`. -/
theorem performed_perform (action : Action) : client.Performed (client.perform action) := by
  cases action with
  | send call => exact .sent call
  | turn =>
    rcases client.perform_turn_eq with same | ⟨free, turned⟩
    · rw [same]
      exact .aside rfl
    · exact .turned free turned
  | drive n =>
    show client.Performed (if client.mayDrive n then client.drive n else client)
    split
    · exact client.performed_drive n
    · exact .aside rfl
  | _ => exact (client.minor_perform (by simp) (by simp) (by simp)).performed

end

end RemoteCall.Client
