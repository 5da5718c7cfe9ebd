import RemoteCall.Proofs.Client.Accounting
import RemoteCall.Proofs.Client.Records

/-!
# Requests without an owner

Until the client is shut down, the link of a connection tells which channel is responsible for its
requests, and there is always one. Only a start that fails breaks this. The loop had been given the
registration queue, so the channels in it are lost, but the connections that they were opened for
remain connecting, with their requests. No later action gives those an owner or an outcome: calls to
the same destinations join the queue, and a shutdown has no loop left that could fail them.
-/
namespace RemoteCall

/-- Two states of a connection that nobody sees to: it waits where it did, and at most more requests
wait with it. -/
structure Connection.Stalls (a b : Connection) : Prop where
  link : b.link = a.link
  queue : a.queue <+: b.queue
  inFlight : b.inFlight = a.inFlight

namespace Connection.Stalls

variable {a b c : Connection}

theorem refl (connection : Connection) : connection.Stalls connection :=
  ⟨rfl, List.prefix_rfl, rfl⟩

theorem trans (first : a.Stalls b) (second : b.Stalls c) : a.Stalls c :=
  ⟨second.link.trans first.link, first.queue.trans second.queue,
    second.inFlight.trans first.inFlight⟩

theorem of_alike (alike : b.Alike c) (stalls : a.Stalls b) : a.Stalls c :=
  ⟨alike.link.trans stalls.link, by rw [alike.queue]; exact stalls.queue,
    alike.inFlight.trans stalls.inFlight⟩

end Connection.Stalls

namespace Client

/-- Nobody is responsible for a connection. Its channel is lost, in which case it has sent nothing,
or it has none and nothing waits on it. -/
structure Deserted (client : Client) (index : Nat) (connection : Connection) : Prop where
  ownerless : ∀ n, ¬ client.IsOwner index n
  unlinked : connection.link ≠ .connected
  unsent : connection.inFlight = []
  empty : connection.link = .disconnected → connection.queue = []

section

variable {client next : Client} {index : Nat} {connection : Connection}

theorem Minor.exists_failed_start {action : Action} (h : client.Minor action next)
    (there : client.loop ≠ .absent) (gone : next.loop = .absent) :
    ∃ setup, setup ≠ .ready ∧ action = .start setup := by
  cases h with
  | toldPosted found | toldRejected found =>
    rw [deliver_eq] at gone
    exact absurd gone there
  | notified found | changed found => exact absurd gone there
  | started up loop deadline => cases gone
  | abandoned up loop fails => exact ⟨_, fails, rfl⟩
  | ended loop =>
    rw [failOutstanding_frame] at gone
    exact absurd gone there
  | flagged loop => exact absurd gone there
  | aside other later same =>
    rw [same] at gone
    exact absurd gone there

/-- Only a start that fails leaves a client without a loop. -/
theorem exists_failed_start_perform (valid : client.RegistryValid) {action : Action}
    (there : client.loop ≠ .absent) (gone : (client.perform action).loop = .absent) :
    ∃ setup, setup ≠ .ready ∧ action = .start setup := by
  cases action with
  | send call =>
    obtain ⟨-, -, same, -⟩ := send_frame valid call
    exact absurd (same.symm.trans gone) there
  | turn =>
    rcases client.perform_turn_eq with same | ⟨-, turned⟩
    · rw [same] at gone
      exact absurd gone there
    · cases turned with
      | began deadline loop changed | worked since loop up noticed changed
      | ended loop closed changed =>
        rw [changed] at gone
        cases gone
      | halted lastSweep running waited down changed =>
        rw [changed, halt_frame] at gone
        cases gone
  | drive n =>
    rcases client.perform_drive_eq n with same | ⟨-, step⟩
    · rw [same] at gone
      exact absurd gone there
    · obtain ⟨session, connection, -, -, _, _, _, _, -, -, changed⟩ := exists_driven_handled step
      rw [changed] at gone
      exact absurd gone there
  | _ => exact (client.minor_perform (by simp) (by simp) (by simp)).exists_failed_start there gone

/-- A run that leads to a client without a loop has a start that fails. -/
theorem exists_failed_start (h : client.Orderly) (there : client.loop ≠ .absent)
    {actions : List Action} (gone : (client.performAll actions).loop = .absent) :
    ∃ setup, setup ≠ .ready ∧ Action.start setup ∈ actions := by
  induction actions generalizing client with
  | nil => exact absurd gone there
  | cons action later ih =>
    by_cases still : (client.perform action).loop = .absent
    · obtain ⟨setup, fails, rfl⟩ := exists_failed_start_perform h.sound.valid there still
      exact ⟨setup, fails, List.mem_cons_self⟩
    · obtain ⟨setup, fails, mem⟩ := ih (h.perform action) still gone
      exact ⟨setup, fails, List.mem_cons_of_mem _ mem⟩

/-- Without a loop every connection is deserted. -/
theorem Orderly.deserted (h : client.Orderly) (gone : client.loop = .absent)
    (hc : client.connections[index]? = some connection) : client.Deserted index connection := by
  have ownerless (n : Nat) : ¬ client.IsOwner index n := by
    intro owner
    obtain ⟨session, found, -, live⟩ := h.isOwner_iff.1 owner
    exact live ((h.sound.deserted gone).2 n session found)
  have unserved := h.unserved_of_not_isOwner hc ownerless
  exact
    { ownerless
      unlinked := unserved.unlinked
      unsent := h.sound.unsent index connection hc unserved.unlinked
      empty := fun down => (List.append_eq_nil_iff.1 (unserved.empty (.inl down))).1 }

/-- What becomes of a request at a connection moves none of those that wait. -/
theorem Submitted.stalls {request : Request} (h : client.Submitted index connection request next)
    (hc : client.connections[index]? = some connection) (shut : client.registrationsOpen = false)
    (empty : connection.link = .disconnected → connection.queue = []) :
    next.loop = client.loop ∧
      Evolves Connection.Stalls client.connections next.connections := by
  cases h with
  | refused down changed =>
    rw [changed]
    exact ⟨rfl, .of_eq Connection.Stalls.refl rfl⟩
  | queued up link connection' shared changed =>
    have longer : connection.Stalls (connection.enqueue request) :=
      ⟨rfl, List.prefix_append _ _, rfl⟩
    rw [changed]
    exact ⟨rfl, .set Connection.Stalls.refl hc (.of_alike shared longer)⟩
  | opened up link takesUp =>
    rw [shut] at takesUp
    cases takesUp
  | failed up link failure unused closed connection' shared changed =>
    have none : connection.Stalls { connection with queue := [] } :=
      ⟨rfl, by rw [empty link], rfl⟩
    rw [changed]
    exact ⟨rfl, .set Connection.Stalls.refl hc (.of_alike shared none)⟩

/-- Without a loop no action moves a request that waits, and there will be no loop. -/
theorem stalls_perform (h : client.Orderly) (gone : client.loop = .absent) (action : Action) :
    (client.perform action).loop = .absent ∧
      Evolves Connection.Stalls client.connections (client.perform action).connections := by
  obtain ⟨shut, closed⟩ := h.sound.deserted gone
  have performed := client.performed_perform action
  generalize client.perform action = next at performed
  have same (connections : next.connections = client.connections) :
      Evolves Connection.Stalls client.connections next.connections :=
    .of_eq Connection.Stalls.refl connections
  cases performed with
  | sent call =>
    cases sent_send h.sound.valid call with
    | malformed failure encoded changed =>
      rw [changed]
      exact ⟨gone, .of_eq Connection.Stalls.refl rfl⟩
    | submitted header encoded seat outcome =>
      rename_i index connection seated
      cases seat with
      | known entry found =>
        obtain ⟨loop, stalls⟩ := outcome.stalls found shut (h.deserted gone found).empty
        exact ⟨loop.trans gone, stalls⟩
      | fresh number link empty unasked =>
        have none : connection.queue = [] := (List.append_eq_nil_iff.1 empty).1
        obtain ⟨loop, stalls⟩ :=
          outcome.stalls (by rw [number]; exact List.getElem?_concat_length) shut fun _ => none
        exact ⟨loop.trans gone, .trans Connection.Stalls.trans
          (.append Connection.Stalls.refl _ _) stalls⟩
  | turned free turned =>
    cases turned with
    | began deadline loop | worked since loop | ended loop => simp [gone] at loop
    | halted lastSweep running => exact absurd gone (ne_absent_of_isRunning running)
  | driven n found bound waited driven => exact absurd (closed n _ found) driven.live
  | toldPosted position found | toldRejected position found =>
    rw [deliver_eq]
    exact ⟨gone, .of_eq Connection.Stalls.refl rfl⟩
  | notified found => exact ⟨gone, .set Connection.Stalls.refl found ⟨rfl, List.prefix_rfl, rfl⟩⟩
  | changed found channel => exact ⟨gone, same rfl⟩
  | started up loop | abandoned up loop | ended loop => simp [gone] at loop
  | flagged loop => exact ⟨gone, same rfl⟩
  | aside unchanged =>
    rw [unchanged]
    exact ⟨gone, .of_eq Connection.Stalls.refl rfl⟩

/-- Without a loop no run moves a request that waits. -/
theorem stalls_of_run (h : client.Orderly) (gone : client.loop = .absent) (run : Run client next) :
    next.loop = .absent ∧ Evolves Connection.Stalls client.connections next.connections := by
  suffices all : next.Orderly ∧ next.loop = .absent ∧
      Evolves Connection.Stalls client.connections next.connections from all.2
  induction run with
  | refl => exact ⟨h, gone, .of_eq Connection.Stalls.refl rfl⟩
  | tail _ _ action ih =>
    obtain ⟨orderly, still, stalls⟩ := ih
    obtain ⟨still', stalls'⟩ := stalls_perform orderly still action
    exact ⟨orderly.perform action, still', stalls.trans Connection.Stalls.trans stalls'⟩

/-- Until the client is shut down no connection has two owners. As long as there is or may be a loop,
the link of a connection tells the truth about its requests and its channels, and one with anything
outstanding has an owner. There is no loop only if a start has failed. Then every connection is
deserted, for good: whatever happens, the shutdown included, a request that waits goes on waiting,
and its listener is never told. -/
theorem stranded_only_by_failed_start (h : client.Reachable) (up : client.shuttingDown = false)
    (hc : client.connections[index]? = some connection) :
    (∀ m n, client.IsOwner index m → client.IsOwner index n → m = n) ∧
    (client.loop ≠ .absent → client.LinkTells index connection ∧
      (connection.outstanding ≠ [] → ∃! n, client.IsOwner index n)) ∧
    (client.loop = .absent → (∀ (first : Client) actions, first.Built →
        first.performAll actions = client → ∃ setup, setup ≠ .ready ∧ .start setup ∈ actions) ∧
      client.Deserted index connection ∧
      ∀ next, Run client next → ∃ after, next.connections[index]? = some after ∧
        connection.Stalls after ∧ next.Deserted index after ∧
          ∀ request ∈ connection.queue, next.toldTimes request.ticket = 0) := by
  have orderly := h.orderly
  refine ⟨fun m n => orderly.owner_unique, fun there => ⟨?_, orderly.existsUnique_owner there hc⟩,
    fun gone => ⟨fun first actions built leads => ?_, orderly.deserted gone hc,
      fun next run => ?_⟩⟩
  · refine orderly.linkTells ?_ hc
    by_contra shut
    rcases orderly.sound.shut (by simpa using shut) with down | gone
    · rw [up] at down
      cases down
    · exact there gone
  · have there : first.loop ≠ .absent := by
      obtain ⟨settings, parsers, pool, firstXid, rfl⟩ := built.exists_eq
      simp
    exact exists_failed_start (.built built) there (by rw [leads]; exact gone)
  · obtain ⟨still, stalls⟩ := stalls_of_run orderly gone run
    obtain ⟨after, found, stalls⟩ := stalls index connection hc
    refine ⟨after, found, stalls, (h.run run).orderly.deserted still found, fun request mem => ?_⟩
    exact (h.run run).toldTimes_of_outstanding found
      (List.mem_append_left _ (stalls.queue.subset mem))

end

/-- A client that makes a call, and then cannot be started. -/
def stranded : Client :=
  usual.performAll
    [.send nullCall, .start (.failed ⟨"Resource temporarily unavailable (os error 11)"⟩)]

theorem reachable_stranded : stranded.Reachable := ⟨usual, built_usual, run_performAll usual _⟩

theorem stranded_only_by_failed_start_stranded :
    (∃ connection, calling.connections[0]? = some connection ∧ connection.link = .connected ∧
      connection.outstanding ≠ [] ∧ calling.LinkTells 0 connection ∧ ∃! n, calling.IsOwner 0 n) ∧
    ∃ connection, stranded.connections[0]? = some connection ∧
      connection.queue.map Request.ticket = [0] ∧ stranded.Deserted 0 connection ∧
        ∀ next, Run stranded next → next.toldTimes 0 = 0 := by
  constructor
  · obtain ⟨connection, found⟩ : ∃ served, calling.connections[0]? = some served := ⟨_, rfl⟩
    obtain ⟨-, served, -⟩ := stranded_only_by_failed_start reachable_calling rfl found
    obtain ⟨tells, owned⟩ := served (by decide +kernel)
    cases found
    exact ⟨_, rfl, rfl, by decide, tells, owned (by decide)⟩
  · obtain ⟨connection, found⟩ : ∃ waiting, stranded.connections[0]? = some waiting := ⟨_, rfl⟩
    obtain ⟨-, -, lost⟩ := stranded_only_by_failed_start reachable_stranded rfl found
    obtain ⟨-, deserted, stays⟩ := lost (by decide +kernel)
    cases found
    refine ⟨_, rfl, rfl, deserted, fun next run => ?_⟩
    obtain ⟨after, -, -, -, untold⟩ := stays next run
    exact untold _ List.mem_cons_self

/-- A start that fails leaves a request behind that no channel is responsible for. -/
theorem failed_start_strands_request : stranded.Reachable ∧ stranded.shuttingDown = false ∧
    ∃ connection, stranded.connections[0]? = some connection ∧ connection.outstanding ≠ [] ∧
      ¬ stranded.LinkTells 0 connection ∧ ∀ n, ¬ stranded.IsOwner 0 n := by
  have orderly := reachable_stranded.orderly
  have ownerless (n : Nat) : ¬ stranded.IsOwner 0 n := by
    intro owner
    obtain ⟨session, found, -, live⟩ := orderly.isOwner_iff.1 owner
    have closed : (stranded.sessions.all fun session => session.phase == .closed) = true := by
      decide +kernel
    exact live (by simpa using List.all_eq_true.1 closed session (List.mem_of_getElem? found))
  refine ⟨reachable_stranded, rfl, _, rfl, by decide, fun tells => ?_, ownerless⟩
  obtain ⟨-, n, ⟨owner, -⟩, -⟩ := tells
  exact ownerless n owner

end Client

end RemoteCall
