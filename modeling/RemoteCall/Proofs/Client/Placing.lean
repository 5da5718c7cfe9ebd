import RemoteCall.Proofs.Client.Sweeping

/-!
# What a call makes of its connection

`Located` says which connection a call finds for its destination, and what a new one is like.
`Placed` says what becomes of the request there: the time of last use is noted, the allowance
decides whether a channel is asked for, and a failure to connect at once is charged to it.
-/
namespace RemoteCall

/-- The error with which a channel made after a plan is refused at once. -/
def ChannelPlan.refusal? (plan : ChannelPlan) : Option IoError :=
  plan.openFailure.or plan.connectFailure

namespace Client

/-- The plan after which the next channel is made. -/
def nextPlan (client : Client) : ChannelPlan := client.plans.head?.getD {}

theorem takePlan_eq_nextPlan (client : Client) :
    client.takePlan = (client.nextPlan, { client with plans := client.plans.tail }) := by
  unfold takePlan nextPlan
  split
  · rename_i none
    rw [none]
    exact Prod.ext rfl (by rw [List.tail_nil, ← none])
  · rename_i plan later some
    rw [some]
    rfl

/-- The connection `index` stands for a destination: it was registered before, or it is made now. -/
inductive Located (client : Client) (target : Address) (index : Nat) :
    Connection → Client → Prop where
  | known {connection : Connection} (registered : client.registered? target = some index)
      (found : client.connections[index]? = some connection) :
      Located client target index connection client
  | fresh (unknown : client.registered? target = none)
      (number : index = client.connections.length) :
      Located client target index
        { target := target
          allowance :=
            { maxAttempts := client.settings.maxReconnectAttempts
              backoff := client.settings.reconnectBackoff }
          lastUsed := client.now }
        { client with
          connections := client.connections ++
            [{ target := target
               allowance :=
                 { maxAttempts := client.settings.maxReconnectAttempts
                   backoff := client.settings.reconnectBackoff }
               lastUsed := client.now }]
          registry := client.registry ++ [(target, index)] }

/-- A connection to which a request was pushed now. -/
def pushed (client : Client) (connection : Connection) (request : Request) : Connection :=
  { connection.enqueue request with lastUsed := client.now }

/-- How a channel is asked for on a connection. -/
def asked (client : Client) (connection : Connection) : OpenCall :=
  ⟨connection.target, client.settings.tcpNodelay, client.settings.recvBufferSize⟩

/-- The client has asked for a channel for a connection. -/
def asking (client : Client) (connection : Connection) : Client :=
  { client with
    opens := client.asked connection :: client.opens
    plans := client.plans.tail }

/-- What becomes of a request at its connection, and of the record of the connection. -/
inductive Placed (client : Client) (index : Nat) (connection : Connection) (request : Request) :
    Client → Prop where
  | refused (down : client.shuttingDown = true) :
      Placed client index connection request (client.reject [request] .shutDown)
  | queued (up : client.shuttingDown = false) (link : connection.link ≠ .disconnected)
      (owed : List Nat) :
      Placed client index connection request { client with
        connections := client.connections.set index (client.pushed connection request)
        owed := owed }
  | blocked (up : client.shuttingDown = false) (link : connection.link = .disconnected)
      (spent : connection.allowance.canAttempt client.now = false) :
      Placed client index connection request { client with
        connections := client.connections.set index
          { client.pushed connection request with queue := [] }
        rejected := client.rejected ++ (connection.queue ++ [request]).map fun request =>
          request.fail (.unreachable connection.endpoint) }
  | opened (up : client.shuttingDown = false) (link : connection.link = .disconnected)
      (permitted : connection.allowance.canAttempt client.now = true)
      (accepted : client.nextPlan.refusal? = none) (session : Session) :
      Placed client index connection request { client with
        connections := client.connections.set index
          { client.pushed connection request with link := .connecting }
        sessions := client.sessions ++ [session]
        registrations := client.registrations ++ [client.sessions.length]
        opens := client.asked connection :: client.opens
        plans := client.plans.tail }
  | failed (up : client.shuttingDown = false) (link : connection.link = .disconnected)
      (permitted : connection.allowance.canAttempt client.now = true) (cause : IoError)
      (refused : client.nextPlan.refusal? = some cause) (unused : List Session) :
      Placed client index connection request { client with
        connections := client.connections.set index
          { client.pushed connection request with
            allowance := connection.allowance.recordFailure client.now
            queue := [] }
        sessions := client.sessions ++ unused
        rejected := client.rejected ++ (connection.queue ++ [request]).map fun request =>
          request.fail (.connectFailed connection.endpoint cause)
        opens := client.asked connection :: client.opens
        plans := client.plans.tail }
  /-- There is no loop any more that takes sessions up. -/
  | gone (up : client.shuttingDown = false) (link : connection.link = .disconnected)
      (permitted : connection.allowance.canAttempt client.now = true)
      (accepted : client.nextPlan.refusal? = none) (shut : client.registrationsOpen = false)
      (session : Session) :
      Placed client index connection request { client with
        connections := client.connections.set index
          { client.pushed connection request with queue := [] }
        sessions := client.sessions ++ [session]
        rejected := client.rejected ++ (connection.queue ++ [request]).map fun request =>
          request.fail .shutDown
        opens := client.asked connection :: client.opens
        plans := client.plans.tail }

section

variable {client : Client} {index : Nat} {connection : Connection} {request : Request}

theorem Located.found {target : Address} {located : Client}
    (h : client.Located target index connection located) :
    located.connections[index]? = some connection := by
  cases h with
  | known _ found => exact found
  | fresh _ number =>
    rw [number]
    exact List.getElem?_concat_length

/-- The connection found for a destination is there. -/
theorem exists_located (valid : client.RegistryValid) (target : Address) : ∃ connection,
    client.Located target (client.connectionFor target).1 connection
      (client.connectionFor target).2 := by
  unfold connectionFor
  split
  · rename_i index registered
    have mem : ∃ entry ∈ client.registry, entry.2 = index := by
      simp only [registered?, Option.map_eq_some_iff] at registered
      obtain ⟨entry, found, same⟩ := registered
      exact ⟨entry, List.mem_of_find?_eq_some found, same⟩
    obtain ⟨entry, mem, rfl⟩ := mem
    exact ⟨_, .known registered (List.getElem?_eq_getElem (valid entry mem))⟩
  · rename_i unknown
    exact ⟨_, .fresh unknown rfl⟩

theorem placed_tryChannel (up : client.shuttingDown = false)
    (link : connection.link = .disconnected)
    (permitted : connection.allowance.canAttempt client.now = true) :
    client.Placed index connection request
      ((client.asking connection).tryChannel index (client.pushed connection request)
        client.nextPlan) := by
  unfold tryChannel
  split
  · rename_i cause opened
    have refused : client.nextPlan.refusal? = some cause := by rw [ChannelPlan.refusal?, opened]; rfl
    have failed : client.Placed index connection request _ :=
      .failed up link permitted cause refused []
    rw [List.append_nil] at failed
    exact failed
  · rename_i opened
    simp only
    split
    · rename_i cause connected
      have refused : client.nextPlan.refusal? = some cause := by
        rw [ChannelPlan.refusal?, opened, connected]
        rfl
      exact .failed up link permitted cause refused [_]
    · rename_i connected
      have accepted : client.nextPlan.refusal? = none := by
        rw [ChannelPlan.refusal?, opened, connected]
        rfl
      split
      · exact .opened up link permitted accepted _
      · rename_i shut
        exact .gone up link permitted accepted (Bool.eq_false_iff.2 shut) _

theorem placed_establish (up : client.shuttingDown = false)
    (link : connection.link = .disconnected) :
    client.Placed index connection request
      (client.establish index (client.pushed connection request)) := by
  have same : (client.pushed connection request).allowance = connection.allowance := rfl
  unfold establish
  rw [same]
  split
  · rename_i spent
    exact .blocked up link (by simpa using spent)
  · rename_i permitted
    simp only [takePlan_eq_nextPlan]
    exact placed_tryChannel up link (by simpa using permitted)

/-- What a request does at the connection that was found for it. -/
def place (client : Client) (index : Nat) (connection : Connection) (request : Request) : Client :=
  if client.shuttingDown then client.reject [request] .shutDown
  else
    match connection.link with
    | .connected =>
        { client with owed := client.owed ++ [index] }.putConnection index
          (client.pushed connection request)
    | .connecting => client.putConnection index (client.pushed connection request)
    | .disconnected => client.establish index (client.pushed connection request)

/-- A request finds the connection of its destination and is placed there. -/
theorem exists_submit_eq (valid : client.RegistryValid) (request : Request) :
    ∃ index connection located, client.Located request.info.target index connection located ∧
      client.submit request = located.place index connection request := by
  obtain ⟨connection, located⟩ := exists_located valid request.info.target
  refine ⟨_, connection, _, located, ?_⟩
  unfold submit
  simp only [located.found]
  rfl

theorem placed_place (client : Client) (index : Nat) (connection : Connection)
    (request : Request) :
    client.Placed index connection request (client.place index connection request) := by
  unfold place
  split
  · rename_i down
    exact .refused down
  · rename_i up
    have up : client.shuttingDown = false := by simpa using up
    split
    · rename_i link
      exact .queued up (by rw [link]; simp) _
    · rename_i link
      exact .queued up (by rw [link]; simp) _
    · rename_i link
      exact placed_establish up link

/-- The request of a call whose header can be encoded is placed. -/
theorem exists_send_eq (valid : client.RegistryValid) {call : Call} {header : Bytes}
    (encoded : (client.headerFor call).encode call.credentials = .ok header) :
    ∃ index connection located, client.countCall.Located call.target index connection located ∧
      client.send call =
        located.place index connection { client.requestFor call with header := header } := by
  have counted : client.countCall.RegistryValid := valid
  simp only [send, encoded]
  exact exists_submit_eq counted { client.requestFor call with header := header }

/-- Every call is malformed or placed. -/
theorem malformed_or_placed (valid : client.RegistryValid) (call : Call) :
    (∃ failure, (client.headerFor call).encode call.credentials = .error failure ∧
      client.send call = client.countCall.reject [client.requestFor call] failure) ∨
    ∃ header, (client.headerFor call).encode call.credentials = .ok header ∧
      ∃ index connection located,
        client.countCall.Located call.target index connection located ∧
          located.Placed index connection { client.requestFor call with header := header }
            (client.send call) := by
  cases encoded : (client.headerFor call).encode call.credentials with
  | error failure =>
    refine .inl ⟨failure, rfl, ?_⟩
    simp only [send, encoded]
  | ok header =>
    obtain ⟨index, connection, located, found, sent⟩ := exists_send_eq valid encoded
    refine .inr ⟨header, rfl, index, connection, located, found, ?_⟩
    rw [sent]
    exact located.placed_place index connection _

end

end Client

end RemoteCall
