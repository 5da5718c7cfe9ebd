import RemoteCall.Proofs.Client.Soundness

/-!
# Owners of requests

`Orderly` adds to `Sound` that the registration queue lists the sessions that are not taken up, and
every action keeps it. So the channel that is responsible for the requests of a connection can be
told from its link, and there is only one. Only if the loop could not be started there is none.
-/
namespace RemoteCall.Client

/-- The sessions that wait to be taken up are those in a list, each once. -/
def Awaiting (client : Client) (list : List Nat) : Prop :=
  list.Nodup ∧ ∀ n, n ∈ list ↔
    ∃ session, client.sessions[n]? = some session ∧ session.phase = .registered

namespace Awaiting

variable {client : Client} {list : List Nat}

/-- A session that was not waiting is put back, still not waiting. -/
theorem set (h : client.Awaiting list) {n : Nat} {session session' : Session}
    (hs : client.sessions[n]? = some session)
    (same : session'.phase = .registered ↔ session.phase = .registered) {next : Client}
    (sessions : next.sessions = client.sessions.set n session') : next.Awaiting list := by
  refine ⟨h.1, fun m => (h.2 m).trans ?_⟩
  rw [sessions]
  obtain ⟨hlt, -⟩ := List.getElem?_eq_some_iff.1 hs
  constructor
  · rintro ⟨a, ha, phase⟩
    by_cases hm : n = m
    · subst hm
      cases hs.symm.trans ha
      exact ⟨session', List.getElem?_set_self hlt, same.2 phase⟩
    · exact ⟨a, by rw [List.getElem?_set_ne hm]; exact ha, phase⟩
  · rintro ⟨a, ha, phase⟩
    rcases getElem?_set_cases ha with ⟨rfl, rfl⟩ | ⟨-, ha⟩
    · exact ⟨session, hs, same.1 phase⟩
    · exact ⟨a, ha, phase⟩

/-- The first that waits is no longer waiting. -/
theorem tail {n : Nat} (h : client.Awaiting (n :: list)) {session' : Session}
    (phase : session'.phase ≠ .registered) {next : Client}
    (sessions : next.sessions = client.sessions.set n session') : next.Awaiting list := by
  obtain ⟨hnotmem, hnodup⟩ := List.nodup_cons.1 h.1
  refine ⟨hnodup, fun m => ?_⟩
  rw [sessions]
  constructor
  · intro hm
    obtain ⟨a, ha, waiting⟩ := (h.2 m).1 (List.mem_cons_of_mem _ hm)
    have other : n ≠ m := fun same => hnotmem (same ▸ hm)
    exact ⟨a, by rw [List.getElem?_set_ne other]; exact ha, waiting⟩
  · rintro ⟨a, ha, waiting⟩
    rcases getElem?_set_cases ha with ⟨-, rfl⟩ | ⟨hm, ha⟩
    · exact absurd waiting phase
    · exact (List.mem_cons.1 ((h.2 m).2 ⟨a, ha, waiting⟩)).resolve_left hm

/-- Sessions that were never to be taken up do not wait. -/
theorem addClosed (h : client.Awaiting list) {unused : List Session}
    (closed : ∀ session ∈ unused, session.phase = .closed ∧ session.held = none) {next : Client}
    (sessions : next.sessions = client.sessions ++ unused) : next.Awaiting list := by
  refine ⟨h.1, fun m => (h.2 m).trans ?_⟩
  rw [sessions]
  constructor
  · rintro ⟨a, ha, phase⟩
    exact ⟨a, getElem?_append_of_some unused ha, phase⟩
  · rintro ⟨a, ha, phase⟩
    rcases getElem?_append_cases ha with ha | ⟨-, ha⟩
    · exact ⟨a, ha, phase⟩
    · rw [(closed a ha).1] at phase
      cases phase

/-- A new session waits last. -/
theorem addSession (h : client.Awaiting list) {session : Session}
    (phase : session.phase = .registered) {next : Client}
    (sessions : next.sessions = client.sessions ++ [session]) :
    next.Awaiting (list ++ [client.sessions.length]) := by
  have new : client.sessions.length ∉ list := by
    intro hmem
    obtain ⟨a, ha, -⟩ := (h.2 _).1 hmem
    obtain ⟨hlt, -⟩ := List.getElem?_eq_some_iff.1 ha
    exact absurd hlt (lt_irrefl _)
  have once : (list ++ [client.sessions.length]).Nodup := by
    rw [← List.concat_eq_append]
    exact h.1.concat new
  refine ⟨once, fun m => ?_⟩
  rw [sessions, List.mem_append, List.mem_singleton]
  constructor
  · rintro (hm | rfl)
    · obtain ⟨a, ha, waiting⟩ := (h.2 m).1 hm
      exact ⟨a, getElem?_append_of_some _ ha, waiting⟩
    · exact ⟨session, List.getElem?_concat_length, phase⟩
  · rintro ⟨a, ha, waiting⟩
    rcases getElem?_concat_cases ha with ha | ⟨hm, -⟩
    · exact .inl ((h.2 m).2 ⟨a, ha, waiting⟩)
    · exact .inr hm

end Awaiting

/-- What every run keeps: sound owners, and a list of the sessions that wait to be taken up. -/
structure Orderly (client : Client) : Prop where
  sound : client.Sound
  awaiting : client.Awaiting client.registrations

/-- No driver has the thread to itself, so none reads or writes. -/
theorem quiet_of_mayTurn {client : Client} (h : client.mayTurn = true) : client.Quiet := by
  intro n session hs busy
  simp only [mayTurn, threadHolder?, Bool.and_eq_true, Option.isNone_iff_eq_none,
    List.findIdx?_eq_none_iff] at h
  have free := h.2 session (List.mem_of_getElem? hs)
  rw [SessionPhase.holdsThread_of_exchanges busy] at free
  cases free

namespace Orderly

variable {client next : Client}

theorem of_same (h : client.Orderly) (estate : next.estate = client.estate)
    (registrations : next.registrations = client.registrations)
    (down : client.shuttingDown = true → next.shuttingDown = true)
    (stopped : next.loop = .stopped → client.loop = .stopped)
    (absent : next.loop = .absent ↔ client.loop = .absent) : next.Orderly := by
  refine ⟨h.sound.of_same estate down stopped absent, ?_⟩
  have sessions : next.sessions = client.sessions := congrArg (·.2.1) estate
  rw [registrations, Awaiting, sessions]
  exact h.awaiting

/-- The loop goes on. -/
theorem enter (h : client.Orderly) (there : client.loop ≠ .absent) {loop : LoopPhase}
    (started : loop ≠ .stopped) (stays : loop ≠ .absent) : (client.enter loop).Orderly :=
  h.of_same rfl rfl id (fun hstopped => absurd hstopped started) (iff_of_false stays there)

theorem send (h : client.Orderly) (call : Call) : (client.send call).Orderly := by
  refine ⟨h.sound.send call, ?_⟩
  cases sent_send h.sound.valid call with
  | malformed failure encoded changed =>
    rw [changed]
    exact h.awaiting
  | submitted header encoded seat outcome =>
    rename_i index connection seated
    have awaiting : seated.Awaiting seated.registrations := by
      cases seat with
      | known _ _ => exact h.awaiting
      | fresh _ _ _ _ => exact h.awaiting
    cases outcome with
    | refused down changed =>
      rw [changed]
      exact awaiting
    | queued up link connection' shared changed =>
      rw [changed]
      exact awaiting
    | opened up link takesUp session own phase free connection' shared changed =>
      rw [changed]
      exact awaiting.addSession phase rfl
    | failed up link failure unused closed connection' shared changed =>
      rw [changed]
      exact awaiting.addClosed closed rfl

theorem failOutstanding (h : client.Orderly)
    (quiet : client.Quiet) :
    client.failOutstanding.Orderly := by
  refine ⟨h.sound.failOutstanding quiet, ?_⟩
  have awaiting := h.awaiting
  unfold Client.failOutstanding
  simp only
  rw [retireAll_frame]
  exact awaiting

/-- All sessions that wait are taken up. -/
theorem spawnAll (h : client.Orderly) (started : client.loop ≠ .stopped) :
    client.spawnAll.Orderly := by
  have taken (list : List Nat) : ∀ client : Client, client.Sound → client.Awaiting list →
      client.loop ≠ .stopped →
      (list.foldl spawn client).Sound ∧ (list.foldl spawn client).Awaiting [] ∧
        (list.foldl spawn client).registrations = client.registrations := by
    induction list with
    | nil => exact fun client sound awaiting _ => ⟨sound, awaiting, rfl⟩
    | cons n later ih =>
      intro client sound awaiting started
      obtain ⟨session, hs, phase⟩ := (awaiting.2 n).1 List.mem_cons_self
      have loop : (client.spawn n).loop = client.loop := by rw [spawn_frame]
      have registrations : (client.spawn n).registrations = client.registrations := by
        rw [spawn_frame]
      have next : (client.spawn n).Awaiting later := by
        rw [spawn_eq hs]
        exact awaiting.tail (by simp) rfl
      obtain ⟨hsound, hawaiting, hsame⟩ :=
        ih (client.spawn n) (sound.spawn hs phase started) next (by rw [loop]; exact started)
      exact ⟨hsound, hawaiting, hsame.trans registrations⟩
  have sound : Sound { client with registrations := [] } :=
    h.sound.of_same rfl id id Iff.rfl
  obtain ⟨hsound, hawaiting, hsame⟩ :=
    taken client.registrations { client with registrations := [] } sound h.awaiting started
  refine ⟨hsound, ?_⟩
  unfold Client.spawnAll
  rw [hsame]
  exact hawaiting

/-- All sessions that wait are closed. -/
theorem discardAll (h : client.Orderly) (shut : client.registrationsOpen = false) :
    (client.registrations.foldl discard { client with registrations := [] }).Orderly := by
  have closed (list : List Nat) : ∀ client : Client, client.Sound → client.Awaiting list →
      client.registrationsOpen = false →
      (list.foldl discard client).Sound ∧ (list.foldl discard client).Awaiting [] ∧
        (list.foldl discard client).registrations = client.registrations := by
    induction list with
    | nil => exact fun client sound awaiting _ => ⟨sound, awaiting, rfl⟩
    | cons n later ih =>
      intro client sound awaiting shut
      obtain ⟨session, hs, phase⟩ := (awaiting.2 n).1 List.mem_cons_self
      obtain ⟨connection, hc, -⟩ := sound.owner n session hs (by rw [phase]; simp)
      have takesUp : (client.discard n).registrationsOpen = client.registrationsOpen := by
        rw [discard_frame]
      have registrations : (client.discard n).registrations = client.registrations := by
        rw [discard_frame]
      have next : (client.discard n).Awaiting later := by
        rw [discard_eq hs hc]
        exact awaiting.tail (by simp) rfl
      obtain ⟨hsound, hawaiting, hsame⟩ :=
        ih (client.discard n) (sound.discard hs phase shut) next (takesUp.trans shut)
      exact ⟨hsound, hawaiting, hsame.trans registrations⟩
  have sound : Sound { client with registrations := [] } :=
    h.sound.of_same rfl id id Iff.rfl
  obtain ⟨hsound, hawaiting, hsame⟩ :=
    closed client.registrations { client with registrations := [] } sound h.awaiting shut
  refine ⟨hsound, ?_⟩
  rw [hsame]
  exact hawaiting

theorem sweepIfDue (h : client.Orderly)
    (quiet : client.Quiet) :
    client.sweepIfDue.Orderly := by
  unfold Client.sweepIfDue
  split
  · have noted : ({ client with lastSweep := client.now } : Client).Orderly :=
      h.of_same rfl rfl id id Iff.rfl
    refine ⟨noted.sound.sweep quiet, ?_⟩
    rw [sweep_frame]
    exact h.awaiting
  · exact h

theorem halt (h : client.Orderly) (there : client.loop ≠ .absent)
    (down : client.shuttingDown = true) (quiet : client.Quiet) :
    client.halt.Orderly := by
  have failed := h.failOutstanding quiet
  have stays : client.failOutstanding.shuttingDown = true := by
    rw [failOutstanding_frame]
    exact down
  have still : client.failOutstanding.loop ≠ .absent := by
    rw [failOutstanding_frame]
    exact there
  have shut : ({ client.failOutstanding with
      registrationsOpen := false, loop := .joining } : Client).Orderly :=
    ⟨failed.sound.closeRegistrations stays still, failed.awaiting⟩
  exact shut.discardAll rfl

theorem turned (h : client.Orderly) (free : client.mayTurn = true) (turned : client.Turned next) :
    next.Orderly := by
  have quiet := quiet_of_mayTurn free
  cases turned with
  | began deadline loop changed =>
    have noted : ({ client with lastSweep := client.now } : Client).Orderly :=
      h.of_same rfl rfl id id Iff.rfl
    rw [changed]
    exact noted.enter (by simp [loop]) (by simp) (by simp)
  | halted lastSweep running waited down changed =>
    have noted : ({ client with lastSweep := lastSweep } : Client).Orderly :=
      h.of_same rfl rfl id id Iff.rfl
    rw [changed]
    exact noted.halt (ne_absent_of_isRunning running) down quiet
  | worked since loop up noticed changed =>
    have noted : ({ client with driversEnded := noticed } : Client).Orderly :=
      h.of_same rfl rfl id id Iff.rfl
    have spawned := noted.spawnAll (by rw [loop]; simp)
    have swept : (client.worked noticed).Orderly := spawned.sweepIfDue (Quiet.spawnAll quiet)
    have there : (client.worked noticed).loop ≠ .absent := by
      rw [worked_frame]
      simp [loop]
    rw [changed]
    exact swept.enter there (by simp) (by simp)
  | ended loop closed changed =>
    rw [changed]
    exact h.enter (by simp [loop]) (by simp) (by simp)

/-- The start fails, and the sessions that wait for the loop go with it. -/
theorem abandonLoop (h : client.Orderly) (up : client.shuttingDown = false)
    (loop : client.loop = .stopped) : client.abandonLoop.Orderly := by
  have takesUp : client.registrationsOpen = true := by
    by_contra shut
    rcases h.sound.shut (by simpa using shut) with down | gone
    · rw [up] at down
      cases down
    · rw [loop] at gone
      cases gone
  have closed (n : Nat) (session : Session)
      (found : client.abandonLoop.sessions[n]? = some session) :
      session.phase = .closed ∧ session.held = none := by
    obtain ⟨before, there, kind⟩ := exists_of_dropRegistrations found
    have idle := h.sound.unstarted loop n before there
    have free : before.held = none := by
      by_contra held
      have link := h.sound.holding n before there held
      rcases idle with phase | phase <;> simp [phase, SessionPhase.link] at link
    rcases kind with ⟨rfl, other⟩ | ⟨rfl, -⟩
    · exact ⟨idle.resolve_left fun phase => other ((h.awaiting.2 n).2 ⟨session, there, phase⟩),
        free⟩
    · exact ⟨rfl, free⟩
  rw [abandonLoop_frame]
  generalize client.abandonLoop.sessions = sessions at closed
  have sound : Sound { client with
      loop := .absent, registrations := [], registrationsOpen := false, sessions := sessions } :=
    { valid := h.sound.valid
      unasked := h.sound.unasked
      owner := fun n session found live => absurd (closed n session found).1 live
      unique := fun m n a b found _ live => absurd (closed m a found).1 live
      idle := by
        intro index connection hc _
        -- A connection with an open session was waiting for the loop, and waits for good now.
        by_cases none : client.NoneOpen index
        · have unserved := h.sound.idle index connection hc none
          exact ⟨unserved.unlinked, by simp, fun _ => unserved.empty (.inl (unserved.down takesUp))⟩
        · simp only [NoneOpen, not_forall] at none
          obtain ⟨n, session, there, own, live⟩ := none
          obtain ⟨bound, hbound, link⟩ := h.sound.owner n session there live
          rw [own] at hbound
          cases hc.symm.trans hbound
          rw [(h.sound.unstarted loop n session there).resolve_right live] at link
          have connecting : connection.link = .connecting := link
          exact ⟨by simp [connecting], by simp, by simp [connecting]⟩
      unsent := h.sound.unsent
      holding := fun n session found held => absurd (closed n session found).2 held
      closing := by
        intro n session connection found _ busy
        rw [(closed n session found).1] at busy
        cases busy
      shut := fun _ => .inr rfl
      unstarted := fun hloop => by cases hloop
      deserted := fun _ => ⟨rfl, fun n session found => (closed n session found).1⟩ }
  refine ⟨sound, List.nodup_nil, fun n => ⟨by simp, ?_⟩⟩
  rintro ⟨session, found, phase⟩
  rw [(closed n session found).1] at phase
  cases phase

theorem built {client : Client} (h : client.Built) : client.Orderly := by
  obtain ⟨settings, parsers, pool, firstXid, rfl⟩ := h.exists_eq
  have sound : Sound { settings, parsers, pool, nextXid := firstXid } :=
    { valid := by simp [RegistryValid]
      unasked := by simp
      owner := by simp
      unique := by simp
      idle := by simp
      unsent := by simp
      holding := by simp
      closing := by simp
      shut := by simp
      unstarted := by simp
      deserted := by simp }
  exact ⟨sound, List.nodup_nil, by simp⟩

/-- Every action keeps the order. -/
theorem perform (h : client.Orderly) (action : Action) : (client.perform action).Orderly := by
  have performed := client.performed_perform action
  generalize client.perform action = next at performed
  cases performed with
  | sent call => exact h.send call
  | turned free turned => exact h.turned free turned
  | driven n found bound waited driven changed =>
    rw [changed]
    exact ⟨(h.sound.driven found bound waited driven).of_same rfl id id Iff.rfl,
      h.awaiting.set found (iff_of_false driven.taken waited) rfl⟩
  | toldPosted position found =>
    rw [deliver_eq]
    exact h.of_same rfl rfl id id Iff.rfl
  | toldRejected position found =>
    rw [deliver_eq]
    exact h.of_same rfl rfl id id Iff.rfl
  | notified found =>
    rename_i index connection
    have sound : (client.putConnection index connection.notify).Sound :=
      h.sound.putConnection found rfl (fun unserved => unserved.put rfl id) id (.inl rfl)
    exact ⟨sound.of_same rfl id id Iff.rfl, h.awaiting⟩
  | changed found channel =>
    exact ⟨h.sound.putSession found ⟨rfl, rfl⟩ rfl id (fun _ => rfl),
      h.awaiting.set found (by exact Iff.rfl) rfl⟩
  | started up loop deadline => exact h.enter (by simp [loop]) (by simp) (by simp)
  | abandoned up loop => exact h.abandonLoop up loop
  | ended loop =>
    have down : ({ client with shuttingDown := true } : Client).Orderly :=
      h.of_same rfl rfl (fun _ => rfl) id Iff.rfl
    refine down.failOutstanding fun n session hs busy => ?_
    rcases h.sound.unstarted loop n session hs with phase | phase
    · rw [phase] at busy
      cases busy
    · rw [phase] at busy
      cases busy
  | flagged loop => exact h.of_same rfl rfl (fun _ => rfl) id Iff.rfl
  | aside same =>
    rw [same]
    exact h.of_same rfl rfl id id Iff.rfl

end Orderly

theorem ReachableWhile.orderly {P : Client → Prop} {client : Client}
    (h : client.ReachableWhile P) : client.Orderly :=
  h.induct (fun _ built => .built built) fun _ action _ orderly => orderly.perform action

/-! ## Channels and their connections -/

/-- A channel of the connection waits in the registration queue. -/
def HasRegistration (client : Client) (index n : Nat) : Prop :=
  n ∈ client.registrations ∧
    ∃ session, client.sessions[n]? = some session ∧ session.connection = index

/-- A channel of the connection has a live driver: in its connect phase if the link is
`connecting`, serving the channel if it is `connected`. -/
def HasDriver (client : Client) (index n : Nat) (link : Link) : Prop :=
  n ∉ client.registrations ∧
    ∃ session, client.sessions[n]? = some session ∧ session.connection = index ∧
      session.phase ≠ .closed ∧ session.phase.link = link

/-- The channel is responsible for what is outstanding on the connection. -/
def IsOwner (client : Client) (index n : Nat) : Prop :=
  client.HasRegistration index n ∨ ∃ link, client.HasDriver index n link

/-- What the link of a connection says of its requests and its channels. -/
def LinkTells (client : Client) (index : Nat) (connection : Connection) : Prop :=
  match connection.link with
  | .disconnected =>
      connection.queue = [] ∧ connection.inFlight = [] ∧ ∀ n, ¬ client.IsOwner index n
  | .connecting =>
      connection.inFlight = [] ∧
        ∃! n, client.IsOwner index n ∧
          (client.HasRegistration index n ∨ client.HasDriver index n .connecting)
  | .connected => ∃! n, client.IsOwner index n ∧ client.HasDriver index n .connected

section

variable {client : Client} {index : Nat} {connection : Connection}

/-- The owners of a connection are its open sessions. -/
theorem Orderly.isOwner_iff (h : client.Orderly) {n : Nat} :
    client.IsOwner index n ↔ ∃ session, client.sessions[n]? = some session ∧
      session.connection = index ∧ session.phase ≠ .closed := by
  constructor
  · rintro (⟨hmem, session, hs, own⟩ | ⟨link, -, session, hs, own, live, -⟩)
    · obtain ⟨waiting, hw, phase⟩ := (h.awaiting.2 n).1 hmem
      cases hs.symm.trans hw
      exact ⟨session, hs, own, by rw [phase]; simp⟩
    · exact ⟨session, hs, own, live⟩
  · rintro ⟨session, hs, own, live⟩
    by_cases hmem : n ∈ client.registrations
    · exact .inl ⟨hmem, session, hs, own⟩
    · exact .inr ⟨_, hmem, session, hs, own, live, rfl⟩

/-- No connection has two owners. -/
theorem Orderly.owner_unique (h : client.Orderly) {m n : Nat} (hm : client.IsOwner index m)
    (hn : client.IsOwner index n) : m = n := by
  obtain ⟨a, ha, owna, livea⟩ := h.isOwner_iff.1 hm
  obtain ⟨b, hb, ownb, liveb⟩ := h.isOwner_iff.1 hn
  exact h.sound.unique m n a b ha hb livea liveb (owna.trans ownb.symm)

/-- An owner has the phase that the link of its connection tells. -/
theorem Orderly.link_of_isOwner (h : client.Orderly)
    (hc : client.connections[index]? = some connection) {n : Nat} (owner : client.IsOwner index n) :
    connection.link ≠ .disconnected ∧
      (client.HasRegistration index n ∧ connection.link = .connecting ∨
        client.HasDriver index n connection.link) := by
  obtain ⟨session, hs, own, live⟩ := h.isOwner_iff.1 owner
  obtain ⟨same, hsame, link⟩ := h.sound.owner n session hs live
  rw [own] at hsame
  cases hc.symm.trans hsame
  refine ⟨fun hlink => live ?_, ?_⟩
  · exact SessionPhase.link_eq_disconnected_iff.1 (link.symm.trans hlink)
  · by_cases hmem : n ∈ client.registrations
    · obtain ⟨waiting, hw, phase⟩ := (h.awaiting.2 n).1 hmem
      cases hs.symm.trans hw
      refine .inl ⟨⟨hmem, session, hs, own⟩, ?_⟩
      rw [link, phase]
      rfl
    · exact .inr ⟨hmem, session, hs, own, live, link.symm⟩

/-- A connection without an owner has no open session. -/
theorem Orderly.unserved_of_not_isOwner (h : client.Orderly)
    (hc : client.connections[index]? = some connection)
    (none : ∀ n, ¬ client.IsOwner index n) : client.Unserved connection := by
  refine h.sound.idle index connection hc fun n session hs own => ?_
  by_contra live
  exact none n (h.isOwner_iff.2 ⟨session, hs, own, live⟩)

/-- Nothing is outstanding on a connection whose link is down. -/
theorem Orderly.outstanding_of_disconnected (h : client.Orderly)
    (hc : client.connections[index]? = some connection) (down : connection.link = .disconnected) :
    connection.outstanding = [] ∧ ∀ n, ¬ client.IsOwner index n := by
  have free (n : Nat) : ¬ client.IsOwner index n := fun owner =>
    (h.link_of_isOwner hc owner).1 down
  exact ⟨(h.unserved_of_not_isOwner hc free).empty (.inl down), free⟩

/-- As long as sessions are taken up, or will be, the link of every connection tells the truth about
its requests and its channels. -/
theorem Orderly.linkTells (h : client.Orderly) (takesUp : client.registrationsOpen = true)
    (hc : client.connections[index]? = some connection) : client.LinkTells index connection := by
  have exists_owner (linked : connection.link ≠ .disconnected) : ∃ n, client.IsOwner index n := by
    by_contra none
    exact linked ((h.unserved_of_not_isOwner hc (not_exists.1 none)).down takesUp)
  unfold LinkTells
  cases hlink : connection.link with
  | disconnected =>
    obtain ⟨empty, none⟩ := h.outstanding_of_disconnected hc hlink
    obtain ⟨hqueue, hinFlight⟩ := List.append_eq_nil_iff.1 empty
    exact ⟨hqueue, hinFlight, none⟩
  | connecting =>
    obtain ⟨n, owner⟩ := exists_owner (by rw [hlink]; simp)
    refine ⟨h.sound.unsent index connection hc (by rw [hlink]; simp), n, ⟨owner, ?_⟩,
      fun m other => h.owner_unique other.1 owner⟩
    have kind := (h.link_of_isOwner hc owner).2
    rw [hlink] at kind
    exact kind.imp And.left id
  | connected =>
    obtain ⟨n, owner⟩ := exists_owner (by rw [hlink]; simp)
    refine ⟨n, ⟨owner, ?_⟩, fun m other => h.owner_unique other.1 owner⟩
    have kind := (h.link_of_isOwner hc owner).2
    rw [hlink] at kind
    rcases kind with ⟨-, connecting⟩ | driver
    · cases connecting
    · exact driver

/-- As long as there is or may be a loop, a connection with anything outstanding has one owner. -/
theorem Orderly.existsUnique_owner (h : client.Orderly) (there : client.loop ≠ .absent)
    (hc : client.connections[index]? = some connection) (outstanding : connection.outstanding ≠ []) :
    ∃! n, client.IsOwner index n := by
  have ⟨n, owner⟩ : ∃ n, client.IsOwner index n := by
    by_contra none
    exact outstanding ((h.unserved_of_not_isOwner hc (not_exists.1 none)).empty (.inr there))
  exact ⟨n, owner, fun m other => h.owner_unique other owner⟩

end

/-- A client with the usual settings. -/
def usual : Client := { settings := {}, parsers := [], pool := {}, nextXid := 1 }

theorem built_usual : usual.Built := ⟨{}, [], {}, 1, rfl⟩

/-- A call without arguments. -/
def nullCall : Call := ⟨⟨.v4 127 0 0 1, 111⟩, 100000, 2, 0, .empty, none, .callback⟩

/-- A client whose first call waits on a channel that is connected. -/
def calling : Client :=
  usual.performAll
    [.start, .elapse timerProbe, .turn, .send nullCall, .turn, .drive 0, .drive 0, .drive 0]

theorem reachable_calling : calling.Reachable := ⟨usual, built_usual, run_performAll usual _⟩

end RemoteCall.Client
