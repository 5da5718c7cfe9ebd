import RemoteCall.Client.Send
import RemoteCall.Proofs.Client.Driving

/-!
# What a call does

A call is seated at the connection of its destination, which may be a new one, and there its request
is refused, queued, queued with a new channel, or failed with everything else in the queue. A call
whose header cannot be encoded does not get that far.
-/
namespace RemoteCall

/-- Nothing was read or written by the session, and no handshake was begun. -/
structure Session.Untouched (session : Session) : Prop where
  wanted : session.wanted = none
  unread : session.assembler.received = 0
  unwritten : session.transmitter = {}

namespace Client

/-- Every entry of the registry names a connection. -/
def RegistryValid (client : Client) : Prop :=
  ∀ entry ∈ client.registry, entry.2 < client.connections.length

/-- The connection `index` stands for a destination: it was registered before, or it is new. -/
inductive Seated (client : Client) (target : Address) (index : Nat) (connection : Connection) :
    Client → Prop where
  | known (entry : (target, index) ∈ client.registry)
      (found : client.connections[index]? = some connection) :
      Seated client target index connection client
  | fresh (number : index = client.connections.length) (link : connection.link = .disconnected)
      (empty : connection.outstanding = []) (unasked : connection.closeReason = none) :
      Seated client target index connection
        { client with
          connections := client.connections ++ [connection]
          registry := client.registry ++ [(target, index)] }

/-- The connection that stands for a destination is there. -/
theorem Seated.found {client seated : Client} {target : Address} {index : Nat}
    {connection : Connection} (seat : client.Seated target index connection seated) :
    seated.connections[index]? = some connection := by
  cases seat with
  | known _ found => exact found
  | fresh number _ _ _ =>
    rw [number]
    exact List.getElem?_concat_length

/-- What becomes of a request at its connection. -/
inductive Submitted (client : Client) (index : Nat) (connection : Connection) (request : Request)
    (next : Client) : Prop where
  | refused (down : client.shuttingDown = true)
      (changed : next = { client with
        rejected := client.rejected ++ [request.fail .shutDown] })
  | queued (up : client.shuttingDown = false) (link : connection.link ≠ .disconnected)
      (connection' : Connection) (shared : (connection.enqueue request).Alike connection')
      (changed : next = { client with
        connections := client.connections.set index connection'
        owed := next.owed })
      (owes : connection.link = .connected → index ∈ next.owed) (owed : client.owed ⊆ next.owed)
  | opened (up : client.shuttingDown = false) (link : connection.link = .disconnected)
      (takesUp : client.registrationsOpen = true) (session : Session)
      (own : session.connection = index) (phase : session.phase = .registered)
      (free : session.held = none) (connection' : Connection)
      (shared : ({ connection.enqueue request with link := .connecting } : Connection).Alike
        connection')
      (changed : next = { client with
        connections := client.connections.set index connection'
        sessions := client.sessions ++ [session]
        registrations := client.registrations ++ [client.sessions.length]
        plans := next.plans
        opens := next.opens })
      (unshut : session.channel.closed = false) (untouched : session.Untouched)
  | failed (up : client.shuttingDown = false) (link : connection.link = .disconnected)
      (failure : Failure) (unused : List Session)
      (closed : ∀ session ∈ unused, session.phase = .closed ∧ session.held = none)
      (connection' : Connection)
      (shared : ({ connection with queue := [] } : Connection).Alike connection')
      (changed : next = { client with
        connections := client.connections.set index connection'
        sessions := client.sessions ++ unused
        rejected := client.rejected ++
          (connection.queue ++ [request]).map fun request => request.fail failure
        plans := next.plans
        opens := next.opens })
      (shut : ∀ session ∈ unused, session.channel.closed = true)
      (untouched : ∀ session ∈ unused, session.Untouched)

/-- What becomes of a call. -/
inductive Sent (client : Client) (call : Call) (next : Client) : Prop where
  | malformed (failure : Failure)
      (encoded : (client.headerFor call).encode call.credentials = .error failure)
      (changed : next = client.countCall.reject [client.requestFor call] failure)
  | submitted (header : Bytes)
      (encoded : (client.headerFor call).encode call.credentials = .ok header)
      {index : Nat} {connection : Connection} {seated : Client}
      (seat : client.countCall.Seated call.target index connection seated)
      (outcome : seated.Submitted index connection
        { client.requestFor call with header := header } next)

/-- The connection found for a destination is there. -/
theorem exists_seated (client : Client) (valid : client.RegistryValid) (target : Address) :
    ∃ connection, (client.connectionFor target).2.connections[(client.connectionFor target).1]? =
        some connection ∧
      client.Seated target (client.connectionFor target).1 connection
        (client.connectionFor target).2 := by
  unfold connectionFor
  split
  · rename_i index hfound
    simp only [registered?, Option.map_eq_some_iff] at hfound
    obtain ⟨entry, hentry, rfl⟩ := hfound
    have hmem : entry ∈ client.registry := List.mem_of_find?_eq_some hentry
    have htarget : entry.1 = target := by simpa using List.find?_some hentry
    have hlt : entry.2 < client.connections.length := valid entry hmem
    refine ⟨client.connections[entry.2], List.getElem?_eq_getElem hlt, ?_⟩
    refine .known ?_ (List.getElem?_eq_getElem hlt)
    rw [← htarget]
    exact hmem
  · refine ⟨_, List.getElem?_concat_length, ?_⟩
    exact .fresh rfl rfl rfl rfl

section

variable {client : Client} {index : Nat} {connection : Connection} {request : Request}

/-- Failing the queue of a disconnected connection, after channels that came to nothing. -/
theorem submitted_failQueue (up : client.shuttingDown = false)
    (link : connection.link = .disconnected) (failure : Failure) {unused : List Session}
    (closed : ∀ session ∈ unused, session.phase = .closed ∧ session.held = none)
    (shut : ∀ session ∈ unused, session.channel.closed = true)
    (untouched : ∀ session ∈ unused, session.Untouched)
    {connection' : Connection} (shared : (connection.enqueue request).Alike connection')
    {asked : Client}
    (same : asked = { client with
      sessions := client.sessions ++ unused
      plans := asked.plans
      opens := asked.opens }) :
    client.Submitted index connection request (asked.failQueue index connection' failure) := by
  have empty : ({ connection with queue := [] } : Connection).Alike connection'.drainQueue.2 :=
    ⟨shared.target, shared.link, rfl, shared.inFlight, shared.closeReason, shared.evicted⟩
  have hqueue : connection'.drainQueue.1 = connection.queue ++ [request] := shared.queue
  refine .failed up link failure unused closed connection'.drainQueue.2 empty ?_ shut untouched
  simp only [failQueue, reject, hqueue]
  rw [same]
  rfl

theorem submitted_tryChannel (up : client.shuttingDown = false)
    (link : connection.link = .disconnected) {connection' : Connection}
    (shared : (connection.enqueue request).Alike connection') (plan : ChannelPlan) {asked : Client}
    (same : asked = { client with plans := asked.plans, opens := asked.opens }) :
    client.Submitted index connection request (asked.tryChannel index connection' plan) := by
  have recorded : (connection.enqueue request).Alike
      { connection' with allowance := connection'.allowance.recordFailure asked.now } :=
    ⟨shared.target, shared.link, shared.queue, shared.inFlight, shared.closeReason, shared.evicted⟩
  have onlySessions (unused : List Session) :
      ({ asked with sessions := asked.sessions ++ unused } : Client) = { client with
        sessions := client.sessions ++ unused
        plans := asked.plans
        opens := asked.opens } := by
    rw [same]
  unfold tryChannel
  split
  · apply submitted_failQueue up link _ (List.forall_mem_nil _) (List.forall_mem_nil _)
      (List.forall_mem_nil _) recorded
    rw [List.append_nil]
    exact same
  · simp only
    split
    · exact submitted_failQueue up link _ (List.forall_mem_singleton.2 ⟨rfl, rfl⟩)
        (List.forall_mem_singleton.2 rfl) (List.forall_mem_singleton.2 ⟨rfl, rfl, rfl⟩) recorded
        (onlySessions _)
    · split
      · rename_i takesUp
        rw [same] at takesUp ⊢
        exact .opened up link takesUp (client.newSession index connection'.target plan) rfl rfl rfl
          { connection' with link := .connecting }
          ⟨shared.target, rfl, shared.queue, shared.inFlight, shared.closeReason,
            shared.evicted⟩ rfl rfl ⟨rfl, rfl, rfl⟩
      · exact submitted_failQueue up link _ (List.forall_mem_singleton.2 ⟨rfl, rfl⟩)
          (List.forall_mem_singleton.2 rfl) (List.forall_mem_singleton.2 ⟨rfl, rfl, rfl⟩) shared
          (onlySessions _)

theorem takePlan_eq (client : Client) :
    client.takePlan.2 = { client with
      plans := client.takePlan.2.plans
      opens := client.takePlan.2.opens } := by
  unfold takePlan
  split <;> rfl

theorem submitted_establish (up : client.shuttingDown = false)
    (link : connection.link = .disconnected) {connection' : Connection}
    (shared : (connection.enqueue request).Alike connection') :
    client.Submitted index connection request (client.establish index connection') := by
  unfold establish
  split
  · apply submitted_failQueue up link _ (List.forall_mem_nil _) (List.forall_mem_nil _)
      (List.forall_mem_nil _) shared
    rw [List.append_nil]
  · exact submitted_tryChannel up link shared _ (takePlan_eq _)

/-- A request is seated at the connection of its destination, which decides what becomes of it. -/
theorem exists_submitted (valid : client.RegistryValid) (request : Request) :
    ∃ index connection seated, client.Seated request.info.target index connection seated ∧
      seated.Submitted index connection request (client.submit request) := by
  obtain ⟨connection, hfound, seat⟩ := exists_seated client valid request.info.target
  refine ⟨_, connection, _, seat, ?_⟩
  unfold submit
  simp only [hfound]
  split
  · rename_i down
    exact .refused down rfl
  · rename_i hup
    have up : (client.connectionFor request.info.target).2.shuttingDown = false := by
      simpa using hup
    generalize hqueued : ({ connection.enqueue request with
      lastUsed := (client.connectionFor request.info.target).2.now } : Connection) = queued
    have shared : (connection.enqueue request).Alike queued := by
      subst hqueued
      exact ⟨rfl, rfl, rfl, rfl, rfl, rfl⟩
    split
    · rename_i link
      have link : connection.link = .connected := link
      exact .queued up (by simp [link]) queued shared rfl
        (fun _ => List.mem_append_right _ List.mem_cons_self) (List.subset_append_left _ _)
    · rename_i link
      have link : connection.link = .connecting := link
      exact .queued up (by simp [link]) queued shared rfl
        (fun connected => by rw [link] at connected; cases connected) (List.Subset.refl _)
    · rename_i link
      have link : connection.link = .disconnected := link
      exact submitted_establish up link shared

/-- Every call is malformed or submitted. -/
theorem sent_send (valid : client.RegistryValid) (call : Call) :
    client.Sent call (client.send call) := by
  unfold send
  cases encoded : (client.headerFor call).encode call.credentials with
  | error failure => exact .malformed failure encoded rfl
  | ok header =>
    have counted : client.countCall.RegistryValid := valid
    obtain ⟨index, connection, seated, seat, outcome⟩ :=
      exists_submitted counted { client.requestFor call with header := header }
    exact .submitted header encoded seat outcome

end

end Client

end RemoteCall
