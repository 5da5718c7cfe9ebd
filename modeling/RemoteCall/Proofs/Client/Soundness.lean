import RemoteCall.Proofs.Client.Acting

/-!
# Sessions and their connections

A connection is served by at most one open session, and its link says in which phase that session
is. Where there is none, nothing is outstanding. `Sound` says so of a client, together with what is
needed to keep it. The operations on a client keep it one by one.
-/
namespace RemoteCall.Client

/-- What ownership is about: the connections, the sessions, the registry, and whether sessions are
taken up. -/
def estate (client : Client) : List Connection × List Session × List (Address × Nat) × Bool :=
  (client.connections, client.sessions, client.registry, client.registrationsOpen)

/-- No session of the connection `index` is open. -/
def NoneOpen (client : Client) (index : Nat) : Prop :=
  ∀ (n : Nat) session, client.sessions[n]? = some session → session.connection = index →
    session.phase = .closed

/-- What is left of a connection without an open session. Its link is down as long as sessions are
taken up, and nothing is outstanding. Only if there is no loop to take up the session of a
connection, its requests stay. -/
structure Unserved (client : Client) (connection : Connection) : Prop where
  unlinked : connection.link ≠ .connected
  down : client.registrationsOpen = true → connection.link = .disconnected
  empty : connection.link = .disconnected ∨ client.loop ≠ .absent → connection.outstanding = []

namespace Unserved

variable {client next : Client} {connection connection' : Connection}

theorem of_same (h : client.Unserved connection)
    (takesUp : next.registrationsOpen = client.registrationsOpen)
    (absent : client.loop = .absent → next.loop = .absent) : next.Unserved connection where
  unlinked := h.unlinked
  down := by rw [takesUp]; exact h.down
  empty := fun whole => h.empty (whole.imp_right fun there gone => there (absent gone))

/-- The connection is put back with the link that it had. -/
theorem put (h : client.Unserved connection) (link : connection'.link = connection.link)
    (empty : connection.outstanding = [] → connection'.outstanding = []) :
    client.Unserved connection' where
  unlinked := by rw [link]; exact h.unlinked
  down := by rw [link]; exact h.down
  empty := by rw [link]; exact fun whole => empty (h.empty whole)

end Unserved

/-- Every open session owns its connection alone, and what is outstanding has an owner, if there is
or may be a loop. -/
structure Sound (client : Client) : Prop where
  valid : client.RegistryValid
  /-- A connection that was asked to close has left the registry. -/
  unasked : ∀ entry ∈ client.registry, ∀ connection,
    client.connections[entry.2]? = some connection → connection.closeReason = none
  owner : ∀ (n : Nat) session, client.sessions[n]? = some session → session.phase ≠ .closed →
    ∃ connection, client.connections[session.connection]? = some connection ∧
      connection.link = session.phase.link
  unique : ∀ (m n : Nat) a b, client.sessions[m]? = some a → client.sessions[n]? = some b →
    a.phase ≠ .closed → b.phase ≠ .closed → a.connection = b.connection → m = n
  idle : ∀ (index : Nat) connection, client.connections[index]? = some connection →
    client.NoneOpen index → client.Unserved connection
  /-- Only a connected channel has requests in flight. -/
  unsent : ∀ (index : Nat) connection, client.connections[index]? = some connection →
    connection.link ≠ .connected → connection.inFlight = []
  /-- A request is being written only to a connected channel. -/
  holding : ∀ (n : Nat) session, client.sessions[n]? = some session → session.held ≠ none →
    session.phase.link = .connected
  /-- No driver reads or writes once it was asked to close. -/
  closing : ∀ (n : Nat) session connection, client.sessions[n]? = some session →
    client.connections[session.connection]? = some connection → session.phase.exchanges →
    connection.closeReason = none
  shut : client.registrationsOpen = false → client.shuttingDown = true ∨ client.loop = .absent
  /-- Before the loop starts nothing is taken up. -/
  unstarted : client.loop = .stopped → ∀ (n : Nat) session, client.sessions[n]? = some session →
    session.phase = .registered ∨ session.phase = .closed
  /-- Without a loop nothing is taken up any more. -/
  deserted : client.loop = .absent → client.registrationsOpen = false ∧
    ∀ (n : Nat) session, client.sessions[n]? = some session → session.phase = .closed

namespace Sound

variable {client next : Client}

/-- Only the estate counts, and two flags. -/
theorem of_same (h : client.Sound) (estate : next.estate = client.estate)
    (down : client.shuttingDown = true → next.shuttingDown = true)
    (stopped : next.loop = .stopped → client.loop = .stopped)
    (absent : next.loop = .absent ↔ client.loop = .absent) : next.Sound := by
  simp only [Client.estate, Prod.mk.injEq] at estate
  obtain ⟨connections, sessions, registry, takesUp⟩ := estate
  exact
    { valid := by
        intro entry hentry
        rw [registry] at hentry
        rw [connections]
        exact h.valid entry hentry
      unasked := by rw [registry, connections]; exact h.unasked
      owner := by rw [sessions, connections]; exact h.owner
      unique := by rw [sessions]; exact h.unique
      idle := by
        intro index connection
        rw [connections]
        intro hc none
        have unserved := h.idle index connection hc
          (by unfold NoneOpen at none; rwa [sessions] at none)
        exact unserved.of_same takesUp absent.2
      unsent := by rw [connections]; exact h.unsent
      holding := by rw [sessions]; exact h.holding
      closing := by rw [sessions, connections]; exact h.closing
      shut := by rw [takesUp]; exact fun hopen => (h.shut hopen).imp down absent.2
      unstarted := by rw [sessions]; exact fun hloop => h.unstarted (stopped hloop)
      deserted := by rw [sessions, takesUp]; exact fun gone => h.deserted (absent.1 gone) }

/-- Entries may leave the registry. -/
theorem of_registry (h : client.Sound) {registry : List (Address × Nat)}
    (kept : registry ⊆ client.registry) : Sound { client with registry := registry } where
  valid := fun entry hentry => h.valid entry (kept hentry)
  unasked := fun entry hentry => h.unasked entry (kept hentry)
  owner := h.owner
  unique := h.unique
  idle := fun index connection hc none => (h.idle index connection hc none).of_same rfl id
  unsent := h.unsent
  holding := h.holding
  closing := h.closing
  shut := h.shut
  unstarted := h.unstarted
  deserted := h.deserted

/-- A session changes, but not as far as its connection can tell. -/
theorem putSession (h : client.Sound) {n : Nat} {session session' : Session}
    (hs : client.sessions[n]? = some session) (own : session.Alike session')
    (link : session'.phase.link = session.phase.link)
    (busy : session'.phase.exchanges → session.phase.exchanges)
    (stopped : client.loop = .stopped → session'.phase = session.phase) :
    (client.putSession n session').Sound where
  valid := h.valid
  unasked := h.unasked
  owner := by
    intro m a ha live
    rcases getElem?_set_cases ha with ⟨-, rfl⟩ | ⟨-, ha⟩
    · have before : session.phase ≠ .closed := fun hclosed =>
        live (SessionPhase.link_eq_disconnected_iff.1 (by rw [link, hclosed]; rfl))
      rw [own.connection, link]
      exact h.owner n session hs before
    · exact h.owner m a ha live
  unique := by
    have before {m : Nat} {a : Session} (ha : (client.sessions.set n session')[m]? = some a)
        (live : a.phase ≠ .closed) : ∃ b, client.sessions[m]? = some b ∧ b.phase ≠ .closed ∧
          b.connection = a.connection := by
      rcases getElem?_set_cases ha with ⟨rfl, rfl⟩ | ⟨-, ha⟩
      · refine ⟨session, hs, fun hclosed => live ?_, own.connection.symm⟩
        exact SessionPhase.link_eq_disconnected_iff.1 (by rw [link, hclosed]; rfl)
      · exact ⟨a, ha, live, rfl⟩
    intro k m a b ha hb livea liveb hab
    obtain ⟨a', ha', livea', hconna⟩ := before ha livea
    obtain ⟨b', hb', liveb', hconnb⟩ := before hb liveb
    exact h.unique k m a' b' ha' hb' livea' liveb' (by rw [hconna, hconnb, hab])
  idle := by
    intro index connection hc none
    refine (h.idle index connection hc fun m a ha hconn => ?_).of_same rfl id
    by_cases hm : n = m
    · subst hm
      cases hs.symm.trans ha
      obtain ⟨hlt, -⟩ := List.getElem?_eq_some_iff.1 hs
      have closed := none n session' (List.getElem?_set_self hlt) (own.connection.trans hconn)
      exact SessionPhase.link_eq_disconnected_iff.1 (by rw [← link, closed]; rfl)
    · exact none m a (by rw [Client.putSession, List.getElem?_set_ne hm]; exact ha) hconn
  unsent := h.unsent
  holding := by
    intro m a ha held
    rcases getElem?_set_cases ha with ⟨-, rfl⟩ | ⟨-, ha⟩
    · rw [link]
      exact h.holding n session hs (by rw [← own.held]; exact held)
    · exact h.holding m a ha held
  closing := by
    intro m a connection ha hc exchanging
    rcases getElem?_set_cases ha with ⟨-, rfl⟩ | ⟨-, ha⟩
    · rw [own.connection] at hc
      exact h.closing n session connection hs hc (busy exchanging)
    · exact h.closing m a connection ha hc exchanging
  shut := h.shut
  unstarted := by
    intro hloop m a ha
    rcases getElem?_set_cases ha with ⟨-, rfl⟩ | ⟨-, ha⟩
    · rw [stopped hloop]
      exact h.unstarted hloop n session hs
    · exact h.unstarted hloop m a ha
  deserted := by
    refine fun gone => ⟨(h.deserted gone).1, fun m a ha => ?_⟩
    rcases getElem?_set_cases ha with ⟨-, rfl⟩ | ⟨-, ha⟩
    · have closed := (h.deserted gone).2 n session hs
      exact SessionPhase.link_eq_disconnected_iff.1 (by rw [link, closed]; rfl)
    · exact (h.deserted gone).2 m a ha

/-- A connection changes, but not in its link. -/
theorem putConnection (h : client.Sound) {index : Nat} {connection connection' : Connection}
    (hc : client.connections[index]? = some connection) (link : connection'.link = connection.link)
    (idle : client.Unserved connection → client.Unserved connection')
    (unsent : connection.inFlight = [] → connection'.inFlight = [])
    (closing : connection'.closeReason = connection.closeReason ∨
      (∀ entry ∈ client.registry, entry.2 ≠ index) ∧
        ∀ (n : Nat) session, client.sessions[n]? = some session → ¬ session.phase.exchanges) :
    (client.putConnection index connection').Sound where
  valid := by
    intro entry hentry
    rw [Client.putConnection, List.length_set]
    exact h.valid entry hentry
  unasked := by
    intro entry hentry a ha
    rcases getElem?_set_cases ha with ⟨hindex, rfl⟩ | ⟨-, ha⟩
    · rcases closing with same | ⟨gone, -⟩
      · rw [same]
        exact h.unasked entry hentry connection (by rw [hindex]; exact hc)
      · exact absurd hindex (gone entry hentry)
    · exact h.unasked entry hentry a ha
  owner := by
    intro n session hs live
    obtain ⟨a, ha, hlink⟩ := h.owner n session hs live
    by_cases hindex : index = session.connection
    · subst hindex
      cases hc.symm.trans ha
      obtain ⟨hlt, -⟩ := List.getElem?_eq_some_iff.1 hc
      exact ⟨connection', List.getElem?_set_self hlt, link.trans hlink⟩
    · exact ⟨a, by rw [Client.putConnection, List.getElem?_set_ne hindex]; exact ha, hlink⟩
  unique := h.unique
  idle := by
    intro i a ha none
    rcases getElem?_set_cases ha with ⟨rfl, rfl⟩ | ⟨-, ha⟩
    · exact (idle (h.idle i connection hc none)).of_same rfl id
    · exact (h.idle i a ha none).of_same rfl id
  unsent := by
    intro i a ha hlink
    rcases getElem?_set_cases ha with ⟨rfl, rfl⟩ | ⟨-, ha⟩
    · exact unsent (h.unsent i connection hc (by rw [← link]; exact hlink))
    · exact h.unsent i a ha hlink
  holding := h.holding
  closing := by
    intro n session a hs ha busy
    rcases getElem?_set_cases ha with ⟨hindex, rfl⟩ | ⟨-, ha⟩
    · rcases closing with same | ⟨-, quiet⟩
      · rw [same]
        exact h.closing n session connection hs (by rw [hindex]; exact hc) busy
      · exact absurd busy (quiet n session hs)
    · exact h.closing n session a hs ha busy
  shut := h.shut
  unstarted := h.unstarted
  deserted := h.deserted

/-- An open session and its connection change together. -/
theorem put (h : client.Sound) {n : Nat} {session session' : Session}
    {connection connection' : Connection} (hs : client.sessions[n]? = some session)
    (hc : client.connections[session.connection]? = some connection)
    (live : session.phase ≠ .closed) (own : session'.connection = session.connection)
    (link : session'.phase ≠ .closed → connection'.link = session'.phase.link)
    (drained : session'.phase = .closed → client.Unserved connection')
    (unsent : connection'.link ≠ .connected → connection'.inFlight = [])
    (holding : session'.held ≠ none → session'.phase.link = .connected)
    (closeReason : connection'.closeReason = connection.closeReason)
    (closing : session'.phase.exchanges → connection'.closeReason = none)
    (unstarted : client.loop = .stopped →
      session'.phase = .registered ∨ session'.phase = .closed) :
    Sound { client with
      sessions := client.sessions.set n session'
      connections := client.connections.set session.connection connection' } where
  valid := by
    intro entry hentry
    rw [List.length_set]
    exact h.valid entry hentry
  unasked := by
    intro entry hentry a ha
    rcases getElem?_set_cases ha with ⟨hindex, rfl⟩ | ⟨-, ha⟩
    · rw [closeReason]
      exact h.unasked entry hentry connection (by rw [hindex]; exact hc)
    · exact h.unasked entry hentry a ha
  owner := by
    intro m a ha livea
    rcases getElem?_set_cases ha with ⟨-, rfl⟩ | ⟨hm, ha⟩
    · obtain ⟨hlt, -⟩ := List.getElem?_eq_some_iff.1 hc
      rw [own]
      exact ⟨connection', List.getElem?_set_self hlt, link livea⟩
    · obtain ⟨b, hb, hlink⟩ := h.owner m a ha livea
      have other : session.connection ≠ a.connection := fun same =>
        hm (h.unique m n a session ha hs livea live same.symm)
      exact ⟨b, by rw [List.getElem?_set_ne other]; exact hb, hlink⟩
  unique := by
    have before {m : Nat} {a : Session} (ha : (client.sessions.set n session')[m]? = some a)
        (livea : a.phase ≠ .closed) : ∃ b, client.sessions[m]? = some b ∧ b.phase ≠ .closed ∧
          b.connection = a.connection := by
      rcases getElem?_set_cases ha with ⟨rfl, rfl⟩ | ⟨-, ha⟩
      · exact ⟨session, hs, live, own.symm⟩
      · exact ⟨a, ha, livea, rfl⟩
    intro k m a b ha hb livea liveb hab
    obtain ⟨a', ha', livea', hconna⟩ := before ha livea
    obtain ⟨b', hb', liveb', hconnb⟩ := before hb liveb
    exact h.unique k m a' b' ha' hb' livea' liveb' (by rw [hconna, hconnb, hab])
  idle := by
    obtain ⟨hlt, -⟩ := List.getElem?_eq_some_iff.1 hs
    intro index a ha none
    rcases getElem?_set_cases ha with ⟨rfl, rfl⟩ | ⟨hindex, ha⟩
    · exact (drained (none n session' (List.getElem?_set_self hlt) own)).of_same rfl id
    · refine (h.idle index a ha fun m b hb hconn => none m b ?_ hconn).of_same rfl id
      have other : n ≠ m := by
        intro hnm
        subst hnm
        cases hs.symm.trans hb
        exact hindex hconn.symm
      rw [List.getElem?_set_ne other]
      exact hb
  unsent := by
    intro index a ha hlink
    rcases getElem?_set_cases ha with ⟨-, rfl⟩ | ⟨-, ha⟩
    · exact unsent hlink
    · exact h.unsent index a ha hlink
  holding := by
    intro m a ha held
    rcases getElem?_set_cases ha with ⟨-, rfl⟩ | ⟨-, ha⟩
    · exact holding held
    · exact h.holding m a ha held
  closing := by
    intro m a b ha hb busy
    rcases getElem?_set_cases hb with ⟨hindex, rfl⟩ | ⟨hindex, hb⟩
    · rcases getElem?_set_cases ha with ⟨-, rfl⟩ | ⟨-, ha⟩
      · exact closing busy
      · rw [closeReason]
        exact h.closing m a connection ha (by rw [hindex]; exact hc) busy
    · rcases getElem?_set_cases ha with ⟨-, rfl⟩ | ⟨-, ha⟩
      · exact absurd own hindex
      · exact h.closing m a b ha hb busy
  shut := h.shut
  unstarted := by
    intro hloop m a ha
    rcases getElem?_set_cases ha with ⟨-, rfl⟩ | ⟨-, ha⟩
    · exact unstarted hloop
    · exact h.unstarted hloop m a ha
  deserted := fun gone => absurd ((h.deserted gone).2 n session hs) live

/-- A driver keeps the owners. -/
theorem driven (h : client.Sound) {n : Nat} {session session' : Session}
    {connection connection' : Connection} {notices : List Notice} {displaced : Option Request}
    (hs : client.sessions[n]? = some session)
    (hc : client.connections[session.connection]? = some connection)
    (waited : session.phase ≠ .registered)
    (driven : Driven session connection session' connection' notices displaced) :
    Sound { client with
      sessions := client.sessions.set n session'
      connections := client.connections.set session.connection connection' } := by
  have before : connection.link = session.phase.link := by
    obtain ⟨a, ha, hlink⟩ := h.owner n session hs driven.live
    cases hc.symm.trans ha
    exact hlink
  have down (closed : session'.phase = .closed) : connection'.link = .disconnected := by
    rw [driven.link before, closed]
    rfl
  refine h.put hs hc driven.live driven.own (fun _ => driven.link before)
    (fun closed => ⟨?_, fun _ => down closed, fun _ => driven.drained closed⟩)
    (driven.unsent before (h.unsent _ _ hc)) (driven.holding (h.holding n session hs))
    driven.closeReason (driven.closing (h.closing n session connection hs hc)) fun hloop => ?_
  · rw [down closed]
    simp
  · exact absurd ((h.unstarted hloop n session hs).resolve_left waited) driven.live

/-- Sessions that are closed from the start own nothing. -/
theorem addClosed (h : client.Sound) {unused : List Session}
    (closed : ∀ session ∈ unused, session.phase = .closed ∧ session.held = none) :
    Sound { client with sessions := client.sessions ++ unused } where
  valid := h.valid
  unasked := h.unasked
  owner := by
    intro n a ha live
    rcases getElem?_append_cases ha with ha | ⟨-, ha⟩
    · exact h.owner n a ha live
    · exact absurd (closed a ha).1 live
  unique := by
    intro m n a b ha hb livea liveb hab
    rcases getElem?_append_cases ha with ha | ⟨-, ha⟩
    · rcases getElem?_append_cases hb with hb | ⟨-, hb⟩
      · exact h.unique m n a b ha hb livea liveb hab
      · exact absurd (closed b hb).1 liveb
    · exact absurd (closed a ha).1 livea
  idle := by
    intro index a ha none
    have unserved := h.idle index a ha fun n b hb =>
      none n b (getElem?_append_of_some unused hb)
    exact unserved.of_same rfl id
  unsent := h.unsent
  holding := by
    intro n a ha held
    rcases getElem?_append_cases ha with ha | ⟨-, ha⟩
    · exact h.holding n a ha held
    · exact absurd (closed a ha).2 held
  closing := by
    intro n a b ha hb busy
    rcases getElem?_append_cases ha with ha | ⟨-, ha⟩
    · exact h.closing n a b ha hb busy
    · rw [(closed a ha).1] at busy
      cases busy
  shut := h.shut
  unstarted := by
    intro hloop n a ha
    rcases getElem?_append_cases ha with ha | ⟨-, ha⟩
    · exact h.unstarted hloop n a ha
    · exact .inr (closed a ha).1
  deserted := by
    refine fun gone => ⟨(h.deserted gone).1, fun n a ha => ?_⟩
    rcases getElem?_append_cases ha with ha | ⟨-, ha⟩
    · exact (h.deserted gone).2 n a ha
    · exact (closed a ha).1

/-- A disconnected connection gets a session. -/
theorem addSession (h : client.Sound) (takesUp : client.registrationsOpen = true) {index : Nat}
    {connection connection' : Connection} (hc : client.connections[index]? = some connection)
    (link : connection.link = .disconnected)
    {session : Session} (own : session.connection = index) (phase : session.phase = .registered)
    (free : session.held = none) (link' : connection'.link = .connecting)
    (inFlight : connection'.inFlight = connection.inFlight)
    (closeReason : connection'.closeReason = connection.closeReason) :
    Sound { client with
      connections := client.connections.set index connection'
      sessions := client.sessions ++ [session] } := by
  have elsewhere {n : Nat} {a : Session} (ha : client.sessions[n]? = some a)
      (live : a.phase ≠ .closed) : index ≠ a.connection := by
    intro same
    obtain ⟨b, hb, hlink⟩ := h.owner n a ha live
    rw [← same] at hb
    cases hc.symm.trans hb
    exact live (SessionPhase.link_eq_disconnected_iff.1 (hlink.symm.trans link))
  refine ⟨?valid, ?unasked, ?owner, ?unique, ?idle, ?unsent, ?holding, ?closing, h.shut,
    ?unstarted, ?deserted⟩
  case valid =>
    intro entry hentry
    rw [List.length_set]
    exact h.valid entry hentry
  case unasked =>
    intro entry hentry a ha
    rcases getElem?_set_cases ha with ⟨hindex, rfl⟩ | ⟨-, ha⟩
    · rw [closeReason]
      exact h.unasked entry hentry connection (by rw [hindex]; exact hc)
    · exact h.unasked entry hentry a ha
  case owner =>
    intro n a ha live
    rcases getElem?_concat_cases ha with ha | ⟨-, rfl⟩
    · obtain ⟨b, hb, hlink⟩ := h.owner n a ha live
      exact ⟨b, by rw [List.getElem?_set_ne (elsewhere ha live)]; exact hb, hlink⟩
    · obtain ⟨hlt, -⟩ := List.getElem?_eq_some_iff.1 hc
      rw [own, phase]
      exact ⟨connection', List.getElem?_set_self hlt, link'⟩
  case unique =>
    intro m n a b ha hb livea liveb hab
    rcases getElem?_concat_cases ha with olda | ⟨newm, rfl⟩
    · rcases getElem?_concat_cases hb with oldb | ⟨-, rfl⟩
      · exact h.unique m n a b olda oldb livea liveb hab
      · exact absurd (own.symm.trans hab.symm) (elsewhere olda livea)
    · rcases getElem?_concat_cases hb with oldb | ⟨newn, -⟩
      · exact absurd (own.symm.trans hab) (elsewhere oldb liveb)
      · rw [newm, newn]
  case idle =>
    intro i a ha none
    have closed : session.connection ≠ i := by
      intro same
      have := none client.sessions.length session List.getElem?_concat_length same
      rw [phase] at this
      cases this
    rcases getElem?_set_cases ha with ⟨rfl, -⟩ | ⟨-, ha⟩
    · exact absurd own closed
    · have unserved := h.idle i a ha fun n b hb => none n b (getElem?_append_of_some _ hb)
      exact unserved.of_same rfl id
  case unsent =>
    intro i a ha hlink
    rcases getElem?_set_cases ha with ⟨-, rfl⟩ | ⟨-, ha⟩
    · rw [inFlight]
      exact h.unsent index connection hc (by rw [link]; simp)
    · exact h.unsent i a ha hlink
  case holding =>
    intro n a ha held
    rcases getElem?_concat_cases ha with ha | ⟨-, rfl⟩
    · exact h.holding n a ha held
    · exact absurd free held
  case closing =>
    intro n a b ha hb busy
    rcases getElem?_concat_cases ha with ha | ⟨-, rfl⟩
    · have live : a.phase ≠ .closed := fun hclosed => by rw [hclosed] at busy; cases busy
      rw [List.getElem?_set_ne (elsewhere ha live)] at hb
      exact h.closing n a b ha hb busy
    · rw [phase] at busy
      cases busy
  case unstarted =>
    intro hloop n a ha
    rcases getElem?_concat_cases ha with ha | ⟨-, rfl⟩
    · exact h.unstarted hloop n a ha
    · exact .inl phase
  case deserted =>
    intro gone
    have shut := (h.deserted gone).1
    rw [takesUp] at shut
    cases shut

/-- A new connection is registered. -/
theorem seat (h : client.Sound) {target : Address} {index : Nat} {connection : Connection}
    {seated : Client} (seat : client.Seated target index connection seated) : seated.Sound := by
  cases seat with
  | known _ _ => exact h
  | fresh number link empty unasked =>
    have old {i : Nat} {a : Connection} (ha : client.connections[i]? = some a) :
        (client.connections ++ [connection])[i]? = some a := getElem?_append_of_some _ ha
    refine ⟨?valid, ?unasked, ?owner, h.unique, ?idle, ?unsent, h.holding, ?closing, h.shut,
      h.unstarted, h.deserted⟩
    case valid =>
      intro entry hentry
      rw [List.length_append, List.length_singleton]
      rcases List.mem_append.1 hentry with hentry | hentry
      · have := h.valid entry hentry
        omega
      · rw [List.mem_singleton.1 hentry]
        simp only
        omega
    case unasked =>
      intro entry hentry a ha
      rcases List.mem_append.1 hentry with hentry | hentry
      · have hlt := h.valid entry hentry
        rw [List.getElem?_append_left hlt] at ha
        exact h.unasked entry hentry a ha
      · rw [List.mem_singleton.1 hentry, number, List.getElem?_concat_length] at ha
        cases ha
        exact unasked
    case owner =>
      intro n a ha live
      obtain ⟨b, hb, hlink⟩ := h.owner n a ha live
      exact ⟨b, old hb, hlink⟩
    case idle =>
      intro i a ha none
      rcases getElem?_concat_cases ha with ha | ⟨-, rfl⟩
      · exact (h.idle i a ha none).of_same rfl id
      · exact ⟨by rw [link]; simp, fun _ => link, fun _ => empty⟩
    case unsent =>
      intro i a ha hlink
      rcases getElem?_concat_cases ha with ha | ⟨-, rfl⟩
      · exact h.unsent i a ha hlink
      · exact (List.append_eq_nil_iff.1 empty).2
    case closing =>
      intro n a b ha hb busy
      have live : a.phase ≠ .closed := fun hclosed => by rw [hclosed] at busy; cases busy
      obtain ⟨c, hc, -⟩ := h.owner n a ha live
      cases (old hc).symm.trans hb
      exact h.closing n a b ha hc busy

/-- A submitted request keeps the owners. -/
theorem submit (h : client.Sound) {index : Nat} {connection : Connection} {request : Request}
    (hc : client.connections[index]? = some connection)
    (submitted : client.Submitted index connection request next) : next.Sound := by
  cases submitted with
  | refused down changed =>
    rw [changed]
    exact h.of_same rfl id id Iff.rfl
  | queued up link connection' shared changed =>
    -- A link that is up without a session to it is one that no loop was there for.
    have idle (unserved : client.Unserved connection) : client.Unserved connection' := by
      have shut : client.registrationsOpen = false := by
        by_contra takesUp
        exact link (unserved.down (by simpa using takesUp))
      have gone : client.loop = .absent := (h.shut shut).resolve_left (by rw [up]; simp)
      refine ⟨by rw [shared.link]; exact unserved.unlinked, fun takesUp => ?_, fun whole => ?_⟩
      · rw [shut] at takesUp
        cases takesUp
      · rw [shared.link] at whole
        exact absurd whole (not_or.2 ⟨link, not_not.2 gone⟩)
    have sound := h.putConnection hc shared.link idle
      (fun empty => by rw [shared.inFlight]; exact empty) (.inl shared.closeReason)
    rw [changed]
    exact sound.of_same rfl id id Iff.rfl
  | opened up link takesUp session own phase free connection' shared changed =>
    have sound :=
      h.addSession takesUp hc link own phase free shared.link shared.inFlight shared.closeReason
    rw [changed]
    exact sound.of_same rfl id id Iff.rfl
  | failed up link failure unused closed connection' shared changed =>
    have empty : connection.inFlight = [] := h.unsent index connection hc (by rw [link]; simp)
    have inFlight : connection'.inFlight = [] := by rw [shared.inFlight]; exact empty
    have idle : connection'.outstanding = [] := by
      rw [Connection.outstanding, shared.queue, inFlight]
      rfl
    have sound := (h.putConnection hc shared.link (fun unserved => unserved.put shared.link
      fun _ => idle) (fun _ => inFlight) (.inl shared.closeReason)).addClosed closed
    rw [changed]
    exact sound.of_same rfl id id Iff.rfl

/-- A call keeps the owners. -/
theorem send (h : client.Sound) (call : Call) : (client.send call).Sound := by
  have counted : client.countCall.Sound := h.of_same rfl id id Iff.rfl
  cases sent_send h.valid call with
  | malformed failure encoded changed =>
    rw [changed]
    exact counted.of_same rfl id id Iff.rfl
  | submitted header encoded seat outcome =>
    exact (counted.seat seat).submit seat.found outcome

/-- A connection that has left the registry is removed from service while no driver reads or
writes. -/
theorem retireAndFail (h : client.Sound) {index : Nat} (reason : CloseReason)
    (gone : ∀ entry ∈ client.registry, entry.2 ≠ index)
    (quiet : client.Quiet) :
    (client.retireAndFail index reason).Sound := by
  cases hc : client.connections[index]? with
  | none =>
    rw [retireAndFail_eq_self hc]
    exact h
  | some connection =>
    have sound : (client.putConnection index
        { connection.drain.2.requestClose reason with evicted := true }).Sound :=
      h.putConnection hc rfl (fun unserved => unserved.put rfl fun _ => rfl) (fun _ => rfl)
        (.inr ⟨gone, quiet⟩)
    rw [retireAndFail_eq hc]
    exact sound.of_same rfl id id Iff.rfl

/-- Several connections are removed from service. -/
theorem retireAll {entries : List (Address × Nat)} (reason : CloseReason) (h : client.Sound)
    (gone : ∀ entry ∈ client.registry, ∀ leaving ∈ entries, entry.2 ≠ leaving.2)
    (quiet : client.Quiet) :
    (entries.foldl (fun client entry => client.retireAndFail entry.2 reason) client).Sound := by
  induction entries generalizing client with
  | nil => exact h
  | cons leaving later ih =>
    have sessions : (client.retireAndFail leaving.2 reason).sessions = client.sessions := by
      rw [retireAndFail_frame]
    have registry : (client.retireAndFail leaving.2 reason).registry = client.registry := by
      rw [retireAndFail_frame]
    refine ih (h.retireAndFail reason (fun entry hentry => ?_) quiet) ?_
      (quiet.of_sessions sessions)
    · exact gone entry hentry leaving List.mem_cons_self
    · rw [registry]
      exact fun entry hentry other hother => gone entry hentry other (List.mem_cons_of_mem _ hother)

/-- Requests that are too old are taken from connections. -/
theorem takeAllExpired (h : client.Sound) (indices : List Nat) :
    (client.takeAllExpired indices).2.Sound := by
  induction indices generalizing client with
  | nil => exact h
  | cons index later ih =>
    have sound : (client.takeExpired index).2.Sound := by
      cases hc : client.connections[index]? with
      | none =>
        rw [takeExpired_eq_self hc]
        exact h
      | some connection =>
        rw [takeExpired_eq hc]
        have unsent (empty : connection.inFlight = []) :
            (connection.takeExpired client.settings.requestTimeout client.now).2.inFlight = [] := by
          simp [Connection.takeExpired, empty]
        have idle (none : connection.outstanding = []) :
            (connection.takeExpired client.settings.requestTimeout
              client.now).2.outstanding = [] := by
          have empty := List.append_eq_nil_iff.1 none
          simp [Connection.takeExpired, Connection.outstanding, empty.1, empty.2]
        exact h.putConnection hc rfl (fun unserved => unserved.put rfl idle) unsent (.inl rfl)
    exact ih sound

/-- A sweep keeps the owners. -/
theorem sweep (h : client.Sound)
    (quiet : client.Quiet) :
    client.sweep.Sound := by
  let kept := client.registry.filter (!client.isIdle ·)
  let swept : Client := ({ client with registry := kept }.takeAllExpired (kept.map Prod.snd)).2
  have frame : swept = { client with registry := kept, connections := swept.connections } :=
    takeAllExpired_frame _ _
  have sound : swept.Sound :=
    (h.of_registry fun entry hentry => List.mem_of_mem_filter hentry).takeAllExpired _
  have registry : swept.registry = kept := by rw [frame]
  have sessions : swept.sessions = client.sessions := by rw [frame]
  have apart : ∀ entry ∈ swept.registry, ∀ leaving ∈ client.registry.filter client.isIdle,
      entry.2 ≠ leaving.2 := by
    rw [registry]
    intro entry hentry leaving hleaving same
    have busy := (List.mem_filter.1 hentry).2
    have idle := (List.mem_filter.1 hleaving).2
    have both : client.isIdle entry = client.isIdle leaving := by
      unfold isIdle
      rw [same]
    rw [both, idle] at busy
    cases busy
  have retired := sound.retireAll .idle apart (quiet.of_sessions sessions)
  exact retired.of_same rfl id id Iff.rfl

/-- Everything registered is removed from service. -/
theorem failOutstanding (h : client.Sound)
    (quiet : client.Quiet) :
    client.failOutstanding.Sound :=
  (h.of_registry (List.nil_subset _)).retireAll .shutdown (by simp) quiet

/-- From now on no session is taken up. -/
theorem closeRegistrations (h : client.Sound) (down : client.shuttingDown = true)
    (there : client.loop ≠ .absent) :
    Sound { client with registrationsOpen := false, loop := .joining } where
  valid := h.valid
  unasked := h.unasked
  owner := h.owner
  unique := h.unique
  idle := by
    intro index connection hc none
    have unserved := h.idle index connection hc none
    exact ⟨unserved.unlinked, (by simp), fun _ => unserved.empty (.inr there)⟩
  unsent := h.unsent
  holding := h.holding
  closing := h.closing
  shut := fun _ => .inl down
  unstarted := fun hloop => by cases hloop
  deserted := fun gone => by cases gone

/-- A session that was not taken up is taken up. -/
theorem spawn (h : client.Sound) {n : Nat} {session : Session}
    (hs : client.sessions[n]? = some session) (phase : session.phase = .registered)
    (started : client.loop ≠ .stopped) : (client.spawn n).Sound := by
  rw [spawn_eq hs]
  exact h.putSession hs ⟨rfl, rfl⟩ (by rw [phase]; rfl) (by simp [SessionPhase.exchanges])
    (fun hloop => absurd hloop started)

/-- A session that was not taken up is closed. -/
theorem discard (h : client.Sound) {n : Nat} {session : Session}
    (hs : client.sessions[n]? = some session) (phase : session.phase = .registered)
    (shut : client.registrationsOpen = false) : (client.discard n).Sound := by
  obtain ⟨connection, hc, link⟩ := h.owner n session hs (by rw [phase]; simp)
  have unlinked : connection.drain.2.link ≠ .connected := by
    show connection.link ≠ .connected
    rw [link, phase]
    simp [SessionPhase.link]
  have free : session.held = none := by
    by_contra held
    have link := h.holding n session hs held
    rw [phase] at link
    cases link
  rw [discard_eq hs hc]
  have sound : Sound { client with
      sessions := client.sessions.set n
        { session with channel := session.channel.close, phase := .closed }
      connections := client.connections.set session.connection connection.drain.2 } :=
    h.put hs hc (by rw [phase]; simp) rfl (fun live => absurd rfl live)
      (fun _ => ⟨unlinked, by rw [shut]; simp, fun _ => rfl⟩) (fun _ => rfl)
      (fun held => absurd free held) rfl (fun busy => by cases busy) (fun _ => .inr rfl)
  exact sound.of_same rfl id id Iff.rfl

end Sound

end RemoteCall.Client
