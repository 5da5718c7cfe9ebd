import RemoteCall.Proofs.Client.Ageing

/-!
# Waking a driver that waits

A driver that has found its send queue empty waits for a permit. Whoever pushes a request on its
connection afterwards leaves one, but not at once: other things may happen between the push and the
notice. As long as the queue is not empty, the permit is there or somebody still owes it, so no
request waits for other traffic to wake its driver.
-/
namespace RemoteCall

/-- The driver of a session waits, and a permit that says that a request was queued ends the wait. -/
def Session.Listens (session : Session) : Prop := ∃ interest, session.phase = .waiting true interest

theorem Session.Listens.link {session : Session} (h : session.Listens) :
    session.phase.link = .connected := by
  obtain ⟨interest, phase⟩ := h
  rw [phase]
  rfl

theorem Session.Listens.live {session : Session} (h : session.Listens) :
    session.phase ≠ .closed := by
  obtain ⟨interest, phase⟩ := h
  simp [phase]

namespace Client

/-- No request on the connection `index` is left unheard: its queue is empty, or the permit is there,
or it is owed. -/
def Heeds (client : Client) (index : Nat) (connection : Connection) : Prop :=
  connection.queue = [] ∨ connection.permit = true ∨ index ∈ client.owed

/-- Wherever a driver listens, no request is left unheard. -/
def Heeded (client : Client) : Prop :=
  ∀ (n : Nat) session connection, client.sessions[n]? = some session →
    client.connections[session.connection]? = some connection → session.Listens →
      client.Heeds session.connection connection

namespace Heeded

variable {client next : Client}

/-- Sessions that do not listen are added. -/
theorem addSessions (h : client.Heeded) {more : List Session}
    (deaf : ∀ session ∈ more, ¬ session.Listens) (sessions : next.sessions = client.sessions ++ more)
    (connections : next.connections = client.connections) (owed : client.owed ⊆ next.owed) :
    next.Heeded := by
  intro n session connection found bound listens
  rw [sessions] at found
  rw [connections] at bound
  rcases getElem?_append_cases found with old | ⟨-, new⟩
  · exact (h n session connection old bound listens).imp_right (Or.imp_right fun mem => owed mem)
  · exact absurd listens (deaf session new)

theorem of_same (h : client.Heeded) (sessions : next.sessions = client.sessions)
    (connections : next.connections = client.connections) (owed : client.owed ⊆ next.owed) :
    next.Heeded :=
  h.addSessions (List.forall_mem_nil _) (by rw [sessions, List.append_nil]) connections owed

/-- A connection changes, and requests on it are still heard if a driver listens there. -/
theorem set (h : client.Heeded) {index : Nat} {connection connection' : Connection}
    (bound : client.connections[index]? = some connection)
    (sessions : next.sessions = client.sessions)
    (connections : next.connections = client.connections.set index connection')
    (here : ∀ (n : Nat) session, client.sessions[n]? = some session → session.connection = index →
      session.Listens → client.Heeds index connection → next.Heeds index connection')
    (elsewhere : ∀ other ∈ client.owed, other ≠ index → other ∈ next.owed) : next.Heeded := by
  intro n session after found bound' listens
  rw [sessions] at found
  rw [connections] at bound'
  rcases getElem?_set_cases bound' with ⟨rfl, rfl⟩ | ⟨other, old⟩
  · exact here n session found rfl listens (h n session connection found bound listens)
  · exact (h n session after found old listens).imp_right
      (Or.imp_right fun mem => elsewhere _ mem other)

/-- A session changes, and listens only if it did. -/
theorem putSession (h : client.Heeded) {n : Nat} {session session' : Session}
    (found : client.sessions[n]? = some session) (own : session'.connection = session.connection)
    (listened : session'.Listens → session.Listens) : (client.putSession n session').Heeded := by
  intro m after connection found' bound listens
  rcases getElem?_set_cases found' with ⟨-, rfl⟩ | ⟨-, old⟩
  · rw [own] at bound ⊢
    exact h n session connection found bound (listened listens)
  · exact h m after connection old bound listens

/-! ## Turns -/

theorem turnRelation : TurnRelation (fun client next => client.Heeded → next.Heeded)
    fun _ _ => True where
  refl _ := id
  trans first second := second ∘ first
  fresh _ before := before
  noted same h := h.of_same (by rw [same]) (by rw [same]) (by rw [same]; exact List.Subset.refl _)
  retired client index reason h := by
    cases bound : client.connections[index]? with
    | none =>
      rw [retireAndFail_eq_self bound]
      exact h
    | some connection =>
      rw [retireAndFail_eq bound]
      exact h.set bound rfl rfl (fun _ _ _ _ _ _ => .inl rfl) fun _ mem _ => mem
  expired client index h := by
    cases bound : client.connections[index]? with
    | none =>
      rw [takeExpired_eq_self bound]
      exact h
    | some connection =>
      rw [takeExpired_eq bound]
      refine h.set bound rfl rfl (fun _ _ _ _ _ heeds => heeds.imp_left fun empty => ?_)
        fun _ mem _ => mem
      simp [Connection.takeExpired, empty]
  failed _ _ h := h.of_same rfl rfl (List.Subset.refl _)
  spawned client n _ h := by
    cases found : client.sessions[n]? with
    | none =>
      unfold spawn
      rw [found]
      exact h
    | some session =>
      rw [spawn_eq found]
      refine h.putSession found rfl fun listens => ?_
      obtain ⟨interest, phase⟩ := listens
      cases phase
  discarded client n _ h := by
    unfold discard
    split
    · exact h
    · rename_i session found
      have closed : Heeded (client.putSession n
          { session with channel := session.channel.close, phase := .closed }) := by
        refine h.putSession found rfl fun listens => ?_
        obtain ⟨interest, phase⟩ := listens
        cases phase
      simp only
      split
      · exact closed
      · rename_i connection bound
        exact closed.set bound rfl rfl (fun _ _ _ _ _ _ => .inl rfl) fun _ mem _ => mem

/-! ## Calls -/

theorem seat (h : client.Heeded) {target : Address} {index : Nat} {connection : Connection}
    {seated : Client} (seat : client.Seated target index connection seated) : seated.Heeded := by
  cases seat with
  | known entry found => exact h
  | fresh number link empty unasked =>
    intro n session after found bound listens
    rcases getElem?_concat_cases bound with old | ⟨-, rfl⟩
    · exact h n session after found old listens
    · exact .inl (List.append_eq_nil_iff.1 empty).1

/-- A request that is pushed where a driver listens is owed to it. -/
theorem submit (h : client.Heeded) (sound : client.Sound) {index : Nat} {connection : Connection}
    {request : Request} (bound : client.connections[index]? = some connection)
    (submitted : client.Submitted index connection request next) : next.Heeded := by
  have connected {n : Nat} {session : Session} (found : client.sessions[n]? = some session)
      (own : session.connection = index) (listens : session.Listens) :
      connection.link = .connected := by
    obtain ⟨same, there, link⟩ := sound.owner n session found listens.live
    rw [own, bound, Option.some.injEq] at there
    rw [there, link, listens.link]
  cases submitted with
  | refused down changed =>
    rw [changed]
    exact h.of_same rfl rfl (List.Subset.refl _)
  | queued up link connection' shared changed owes owed =>
    have connections : next.connections = client.connections.set index connection' := by
      rw [changed]
    refine h.set bound (by rw [changed]) connections
      (fun n session found own listens _ => ?_) fun other mem _ => owed mem
    exact .inr (.inr (owes (connected found own listens)))
  | opened up link takesUp session own phase free connection' shared changed =>
    have deaf {n : Nat} {session : Session} (found : client.sessions[n]? = some session)
        (own : session.connection = index) (listens : session.Listens) : False := by
      have there := connected found own listens
      rw [link] at there
      cases there
    have put : Heeded { client with connections := client.connections.set index connection' } :=
      h.set bound rfl rfl (fun n session found own listens _ => (deaf found own listens).elim)
        fun _ mem _ => mem
    rw [changed]
    refine put.addSessions (List.forall_mem_singleton.2 fun ⟨_, waiting⟩ => ?_) rfl rfl
      (List.Subset.refl _)
    rw [phase] at waiting
    cases waiting
  | failed up link failure unused closed connection' shared changed =>
    have put : Heeded { client with connections := client.connections.set index connection' } :=
      h.set bound rfl rfl (fun _ _ _ _ _ _ => .inl shared.queue) fun _ mem _ => mem
    rw [changed]
    exact put.addSessions (fun session mem listens => listens.live (closed session mem).1) rfl rfl
      (List.Subset.refl _)

theorem send (h : client.Heeded) (sound : client.Sound) (call : Call) :
    (client.send call).Heeded := by
  have counted : client.countCall.Sound := sound.of_same rfl id id Iff.rfl
  cases sent_send sound.valid call with
  | malformed failure encoded changed =>
    rw [changed]
    exact h.of_same rfl rfl (List.Subset.refl _)
  | submitted header encoded seat outcome =>
    have same : client.countCall.Heeded := h
    exact (same.seat seat).submit (counted.seat seat) seat.found outcome

/-! ## All actions -/

/-- A driver that begins to listen has found its queue empty, and drivers do not share queues. -/
theorem driven (h : client.Heeded) (sound : client.Sound) {n : Nat} {session session' : Session}
    {connection connection' : Connection} {notices : List Notice} {displaced : Option Request}
    (found : client.sessions[n]? = some session)
    (driven : Driven session connection session' connection' notices displaced)
    (handled : Handled session connection session' connection')
    (sessions : next.sessions = client.sessions.set n session')
    (connections : next.connections = client.connections.set session.connection connection')
    (owed : next.owed = client.owed) : next.Heeded := by
  intro m other after found' bound' listens
  rw [sessions] at found'
  rw [connections] at bound'
  rcases getElem?_set_cases found' with ⟨-, rfl⟩ | ⟨apart, old⟩
  · rw [driven.own] at bound'
    rcases getElem?_set_cases bound' with ⟨-, rfl⟩ | ⟨away, -⟩
    · obtain ⟨interest, waiting⟩ := listens
      have empty := driven.queue
      rw [handled.armed interest waiting] at empty
      exact .inl (List.sublist_nil.1 empty)
    · exact absurd rfl away
  · rcases getElem?_set_cases bound' with ⟨same, -⟩ | ⟨-, bound'⟩
    · exact absurd (sound.unique m n other session old found listens.live driven.live same) apart
    · rw [Heeds, owed]
      exact h m other after old bound' listens

theorem perform (h : client.Heeded) (orderly : client.Orderly) (action : Action) :
    (client.perform action).Heeded := by
  have performed := client.performed_perform action
  generalize client.perform action = next at performed
  cases performed with
  | sent call => exact h.send orderly.sound call
  | turned free turned => exact turnRelation.turned turned (fun _ _ => trivial) h
  | driven n found bound waited driven changed handled =>
    exact h.driven orderly.sound found driven handled (by rw [changed]) (by rw [changed])
      (by rw [changed])
  | toldPosted position found | toldRejected position found =>
    rw [deliver_eq]
    exact h.of_same rfl rfl (List.Subset.refl _)
  | notified found =>
    exact h.set found rfl rfl (fun _ _ _ _ _ _ => .inr (.inl rfl)) fun other mem apart =>
      (List.mem_erase_of_ne apart).2 mem
  | changed found channel => exact h.putSession found rfl id
  | started up loop deadline => exact h.of_same rfl rfl (List.Subset.refl _)
  | abandoned up loop =>
    intro n session connection found bound listens
    obtain ⟨before, there, ⟨rfl, -⟩ | ⟨rfl, -⟩⟩ := exists_of_dropRegistrations found
    · rw [abandonLoop_frame] at bound ⊢
      exact h n session connection there bound listens
    · exact absurd rfl listens.live
  | ended loop =>
    have down : Heeded { client with shuttingDown := true } :=
      h.of_same rfl rfl (List.Subset.refl _)
    exact turnRelation.failOutstanding _ down
  | flagged loop => exact h.of_same rfl rfl (List.Subset.refl _)
  | aside same =>
    rw [same]
    exact h.of_same rfl rfl (List.Subset.refl _)

end Heeded

theorem ReachableWhile.heeded {P : Client → Prop} {client : Client} (h : client.ReachableWhile P) :
    client.Heeded := by
  refine h.of_orderly (fun first built => ?_) fun client action orderly heeded =>
    heeded.perform orderly action
  obtain ⟨settings, parsers, pool, firstXid, rfl⟩ := built.exists_eq
  exact fun n session connection found => (by cases found)

/-- No wake-up is lost. Where a driver waits for a permit its channel is connected, and if anything is
queued, the permit is there or whoever pushed a request there has still to leave it. -/
theorem no_wakeup_lost {client : Client} (h : client.Reachable) {n : Nat} {session : Session}
    {connection : Connection} (found : client.sessions[n]? = some session)
    (bound : client.connections[session.connection]? = some connection)
    (listens : session.Listens) : connection.link = .connected ∧
      (connection.queue ≠ [] →
        connection.permit = true ∨ session.connection ∈ client.owed) := by
  obtain ⟨same, there, link⟩ := h.orderly.sound.owner n session found listens.live
  rw [bound, Option.some.injEq] at there
  refine ⟨by rw [there, link, listens.link], fun queued => ?_⟩
  exact (h.heeded n session connection found bound listens).resolve_left queued

/-- A second call is pushed while the driver listens that has written the first one. -/
def pushing : Client := calling.performAll (List.replicate 7 (.drive 0) ++ [.send nullCall])

theorem reachable_pushing : pushing.Reachable :=
  ReachableWhile.run reachable_calling (run_performAll calling _)

theorem no_wakeup_lost_pushing : ∃ session connection, pushing.sessions[0]? = some session ∧
    pushing.connections[session.connection]? = some connection ∧ session.Listens ∧
    connection.link = .connected ∧ connection.queue ≠ [] ∧ connection.permit = false ∧
    session.connection ∈ pushing.owed := by
  have there : (pushing.sessions[0]?.any fun session =>
      session.phase == .waiting true .readOnly &&
        pushing.connections[session.connection]?.any fun connection =>
          !connection.queue.isEmpty && !connection.permit) = true := by decide +kernel
  simp only [Option.any_eq_true, Bool.and_eq_true, beq_iff_eq, Bool.not_eq_true',
    List.isEmpty_eq_false_iff] at there
  obtain ⟨session, found, waiting, connection, bound, queued, unheard⟩ := there
  have listens : session.Listens := ⟨.readOnly, waiting⟩
  obtain ⟨link, heeded⟩ := no_wakeup_lost reachable_pushing found bound listens
  refine ⟨session, connection, found, bound, listens, link, queued, unheard, ?_⟩
  refine (heeded queued).resolve_left ?_
  rw [unheard]
  exact Bool.false_ne_true

end Client

end RemoteCall
