import RemoteCall.Client.Turn
import RemoteCall.Proofs.Client.Driving

/-!
# What a turn of the loop does

A turn works on connections and sessions one at a time. The equations say what each such step makes
of a client; a turn is then understood by induction over the list that it goes through.
-/
namespace RemoteCall

theorem getElem?_set_cases {α : Type} {list : List α} {i j : Nat} {a b : α}
    (h : (list.set i a)[j]? = some b) : j = i ∧ b = a ∨ j ≠ i ∧ list[j]? = some b := by
  by_cases hij : i = j
  · subst hij
    by_cases hlt : i < list.length
    · rw [List.getElem?_set_self hlt] at h
      exact .inl ⟨rfl, (Option.some.inj h).symm⟩
    · rw [List.getElem?_eq_none (by rw [List.length_set]; omega)] at h
      cases h
  · rw [List.getElem?_set_ne hij] at h
    exact .inr ⟨Ne.symm hij, h⟩

theorem getElem?_append_cases {α : Type} {list more : List α} {j : Nat} {b : α}
    (h : (list ++ more)[j]? = some b) : list[j]? = some b ∨ list.length ≤ j ∧ b ∈ more := by
  by_cases hlt : j < list.length
  · rw [List.getElem?_append_left hlt] at h
    exact .inl h
  · rw [List.getElem?_append_right (by omega)] at h
    exact .inr ⟨by omega, List.mem_of_getElem? h⟩

theorem getElem?_concat_cases {α : Type} {list : List α} {a : α} {j : Nat} {b : α}
    (h : (list ++ [a])[j]? = some b) : list[j]? = some b ∨ j = list.length ∧ b = a := by
  rcases getElem?_append_cases h with hb | ⟨hle, hb⟩
  · exact .inl hb
  · obtain ⟨hlt, -⟩ := List.getElem?_eq_some_iff.1 h
    rw [List.length_append, List.length_singleton] at hlt
    exact .inr ⟨by omega, List.mem_singleton.1 hb⟩

theorem getElem?_append_of_some {α : Type} {list : List α} (more : List α) {j : Nat} {b : α}
    (h : list[j]? = some b) : (list ++ more)[j]? = some b := by
  obtain ⟨hlt, -⟩ := List.getElem?_eq_some_iff.1 h
  rw [List.getElem?_append_left hlt]
  exact h

theorem map_set_of_eq {α β : Type} (f : α → β) {list : List α} {i : Nat} {a b : α}
    (ha : list[i]? = some a) (h : f b = f a) : (list.set i b).map f = list.map f := by
  obtain ⟨hlt, rfl⟩ := List.getElem?_eq_some_iff.1 ha
  rw [List.map_set, h, ← List.map_set, List.set_getElem_self]

theorem exists_of_map_eq {α β : Type} {f : α → β} {first second : List α}
    (h : first.map f = second.map f) {i : Nat} {a : α} (ha : first[i]? = some a) :
    ∃ b, second[i]? = some b ∧ f b = f a := by
  have hi : (second.map f)[i]? = some (f a) := by
    rw [← h, List.getElem?_map, ha]
    rfl
  rw [List.getElem?_map] at hi
  exact Option.map_eq_some_iff.1 hi

theorem exists_of_prefix_map {α β : Type} {f : α → β} {first second : List α}
    (h : first.map f <+: second.map f) {i : Nat} {a : α} (ha : first[i]? = some a) :
    ∃ b, second[i]? = some b ∧ f b = f a := by
  obtain ⟨more, hmore⟩ := h
  have hi : (second.map f)[i]? = some (f a) := by
    rw [← hmore]
    apply getElem?_append_of_some more
    rw [List.getElem?_map, ha]
    rfl
  rw [List.getElem?_map] at hi
  exact Option.map_eq_some_iff.1 hi

/-- Everything in a list is still there, changed as a relation allows. More may have come behind. -/
def Evolves {α : Type} (R : α → α → Prop) (before after : List α) : Prop :=
  ∀ (i : Nat) a, before[i]? = some a → ∃ b, after[i]? = some b ∧ R a b

namespace Evolves

variable {α : Type} {R : α → α → Prop} {list middle after : List α}

theorem of_eq (refl : ∀ a, R a a) (same : after = list) : Evolves R list after :=
  fun _ a found => ⟨a, by rw [same]; exact found, refl a⟩

theorem trans (trans : ∀ {a b c}, R a b → R b c → R a c) (first : Evolves R list middle)
    (second : Evolves R middle after) : Evolves R list after := by
  intro i a found
  obtain ⟨b, found', step⟩ := first i a found
  obtain ⟨c, found'', step'⟩ := second i b found'
  exact ⟨c, found'', trans step step'⟩

theorem set (refl : ∀ a, R a a) {i : Nat} {a b : α} (found : list[i]? = some a) (step : R a b) :
    Evolves R list (list.set i b) := by
  intro j c found'
  by_cases here : i = j
  · subst here
    rw [found, Option.some.injEq] at found'
    obtain ⟨lt, -⟩ := List.getElem?_eq_some_iff.1 found
    exact ⟨b, List.getElem?_set_self lt, found' ▸ step⟩
  · exact ⟨c, by rw [List.getElem?_set_ne here]; exact found', refl c⟩

theorem append (refl : ∀ a, R a a) (list more : List α) : Evolves R list (list ++ more) :=
  fun _ a found => ⟨a, getElem?_append_of_some more found, refl a⟩

end Evolves

namespace Client

/-- No driver reads or writes. -/
def Quiet (client : Client) : Prop :=
  ∀ (n : Nat) session, client.sessions[n]? = some session → ¬ session.phase.exchanges

theorem Quiet.of_sessions {client next : Client} (quiet : client.Quiet)
    (sessions : next.sessions = client.sessions) : next.Quiet := by
  intro n session hs
  rw [sessions] at hs
  exact quiet n session hs

variable {client : Client} {index : Nat} {connection : Connection} {session : Session}

theorem retireAndFail_eq_self (hc : client.connections[index]? = none) (reason : CloseReason) :
    client.retireAndFail index reason = client := by
  unfold retireAndFail
  rw [hc]

/-- A connection is emptied and asked to close; what was outstanding fails. -/
theorem retireAndFail_eq (hc : client.connections[index]? = some connection)
    (reason : CloseReason) :
    client.retireAndFail index reason = { client with
      connections := client.connections.set index
        { connection.drain.2.requestClose reason with evicted := true }
      posted := client.posted ++ connection.outstanding.map
        fun request => request.fail (reason.failure connection.endpoint) } := by
  unfold retireAndFail retire
  rw [hc]
  rfl

/-- Removing a connection from service changes connections and posts notices, no more. -/
theorem retireAndFail_frame (client : Client) (index : Nat) (reason : CloseReason) :
    client.retireAndFail index reason = { client with
      connections := (client.retireAndFail index reason).connections
      posted := (client.retireAndFail index reason).posted } := by
  cases hc : client.connections[index]? with
  | none => rw [retireAndFail_eq_self hc]
  | some connection => rw [retireAndFail_eq hc]

theorem retireAll_frame (entries : List (Address × Nat)) (reason : CloseReason) (client : Client) :
    entries.foldl (fun client entry => client.retireAndFail entry.2 reason) client = { client with
      connections := (entries.foldl (fun client entry => client.retireAndFail entry.2 reason)
        client).connections
      posted := (entries.foldl (fun client entry => client.retireAndFail entry.2 reason)
        client).posted } := by
  induction entries generalizing client with
  | nil => rfl
  | cons entry later ih =>
    rw [List.foldl_cons, ih (client.retireAndFail entry.2 reason), retireAndFail_frame]

theorem takeExpired_eq_self (hc : client.connections[index]? = none) :
    client.takeExpired index = ([], client) := by
  unfold takeExpired
  rw [hc]

theorem takeExpired_eq (hc : client.connections[index]? = some connection) :
    client.takeExpired index =
      ((connection.takeExpired client.settings.requestTimeout client.now).1,
        { client with
          connections := client.connections.set index
            (connection.takeExpired client.settings.requestTimeout client.now).2 }) := by
  unfold takeExpired
  rw [hc]
  rfl

/-- Taking expired requests changes connections only. -/
theorem takeExpired_frame (client : Client) (index : Nat) :
    (client.takeExpired index).2 = { client with
      connections := (client.takeExpired index).2.connections } := by
  cases hc : client.connections[index]? with
  | none => rw [takeExpired_eq_self hc]
  | some connection => rw [takeExpired_eq hc]

theorem takeAllExpired_frame (indices : List Nat) (client : Client) :
    (client.takeAllExpired indices).2 = { client with
      connections := (client.takeAllExpired indices).2.connections } := by
  induction indices generalizing client with
  | nil => rfl
  | cons index later ih =>
    have rest : (client.takeAllExpired (index :: later)).2 =
        ((client.takeExpired index).2.takeAllExpired later).2 := rfl
    rw [rest, ih (client.takeExpired index).2, takeExpired_frame]

theorem failOutstanding_frame (client : Client) :
    client.failOutstanding = { client with
      registry := []
      connections := client.failOutstanding.connections
      posted := client.failOutstanding.posted } :=
  retireAll_frame _ _ _

/-- A sweep leaves sessions alone. -/
theorem sweep_frame (client : Client) :
    client.sweep = { client with
      registry := client.sweep.registry
      connections := client.sweep.connections
      posted := client.sweep.posted } := by
  unfold sweep postFailures
  simp only
  rw [retireAll_frame, takeAllExpired_frame]

theorem spawn_eq (hs : client.sessions[index]? = some session) :
    client.spawn index = { client with
      sessions := client.sessions.set index { session with phase := .finishing false } } := by
  unfold spawn
  rw [hs]
  rfl

/-- A session that is not taken up is closed, and its connection is emptied. -/
theorem discard_eq (hs : client.sessions[index]? = some session)
    (hc : client.connections[session.connection]? = some connection) :
    client.discard index = { client with
      sessions := client.sessions.set index
        { session with channel := session.channel.close, phase := .closed }
      connections := client.connections.set session.connection connection.drain.2
      posted := client.posted ++ connection.outstanding.map
        fun request => request.fail .shutDown } := by
  unfold discard
  rw [hs]
  have hc' : (client.putSession index
      { session with channel := session.channel.close, phase := .closed }).connections[
        session.connection]? = some connection := hc
  simp only [hc']
  rfl

theorem spawn_frame (client : Client) (index : Nat) :
    client.spawn index = { client with sessions := (client.spawn index).sessions } := by
  unfold spawn
  split <;> rfl

/-- Drivers that were just taken up do not read or write. -/
theorem Quiet.spawnAll (quiet : client.Quiet) : client.spawnAll.Quiet := by
  have taken (list : List Nat) : ∀ client : Client, client.Quiet →
      (list.foldl spawn client).Quiet := by
    induction list with
    | nil => exact fun client quiet => quiet
    | cons n later ih =>
      intro client quiet
      apply ih (client.spawn n)
      cases hs : client.sessions[n]? with
      | none =>
        unfold spawn
        rw [hs]
        exact quiet
      | some session =>
        rw [spawn_eq hs]
        intro m a ha
        rcases getElem?_set_cases ha with ⟨-, rfl⟩ | ⟨-, ha⟩
        · simp [SessionPhase.exchanges]
        · exact quiet m a ha
  exact taken client.registrations { client with registrations := [] } quiet

/-- Closing a session that is not taken up changes sessions and connections and posts notices. -/
theorem discard_frame (client : Client) (index : Nat) :
    client.discard index = { client with
      sessions := (client.discard index).sessions
      connections := (client.discard index).connections
      posted := (client.discard index).posted } := by
  unfold discard
  split
  · rfl
  · simp only
    split <;> rfl

theorem spawnAll_frame (client : Client) :
    client.spawnAll = { client with
      registrations := []
      sessions := client.spawnAll.sessions } := by
  have spawned (list : List Nat) : ∀ client : Client, list.foldl spawn client = { client with
      sessions := (list.foldl spawn client).sessions } := by
    induction list with
    | nil => exact fun client => rfl
    | cons n later ih =>
      intro client
      rw [List.foldl_cons, ih (client.spawn n), spawn_frame]
  exact spawned client.registrations { client with registrations := [] }

theorem discardAll_frame (list : List Nat) (client : Client) :
    list.foldl discard client = { client with
      sessions := (list.foldl discard client).sessions
      connections := (list.foldl discard client).connections
      posted := (list.foldl discard client).posted } := by
  induction list generalizing client with
  | nil => rfl
  | cons n later ih => rw [List.foldl_cons, ih (client.discard n), discard_frame]

/-- Leaving the turns empties the registry and the registration queue, which stays closed. -/
theorem halt_frame (client : Client) :
    client.halt = { client with
      registry := []
      registrations := []
      registrationsOpen := false
      loop := .joining
      sessions := client.halt.sessions
      connections := client.halt.connections
      posted := client.halt.posted } := by
  unfold halt
  simp only
  rw [discardAll_frame, failOutstanding_frame]

/-! ## Dropping the registration queue -/

theorem letGo_frame (client : Client) (index : Nat) :
    client.letGo index = { client with sessions := (client.letGo index).sessions } := by
  unfold letGo
  split <;> rfl

theorem getElem?_letGo (client : Client) (index n : Nat) :
    (client.letGo index).sessions[n]? =
      if n = index then client.sessions[n]?.map Session.letGo else client.sessions[n]? := by
  unfold letGo
  by_cases here : n = index
  · subst here
    rw [if_pos rfl]
    cases found : client.sessions[n]? with
    | none => exact found
    | some session =>
      obtain ⟨inside, -⟩ := List.getElem?_eq_some_iff.1 found
      exact List.getElem?_set_self inside
  · rw [if_neg here]
    split
    · rfl
    · exact List.getElem?_set_ne (Ne.symm here)

theorem letGoAll_frame (list : List Nat) (client : Client) :
    list.foldl letGo client = { client with sessions := (list.foldl letGo client).sessions } := by
  induction list generalizing client with
  | nil => rfl
  | cons n later ih => rw [List.foldl_cons, ih (client.letGo n), letGo_frame]

/-- Those in a list are let go of, and the others are left alone. -/
theorem getElem?_letGoAll (list : List Nat) (client : Client) (n : Nat) :
    (list.foldl letGo client).sessions[n]? =
      if n ∈ list then client.sessions[n]?.map Session.letGo else client.sessions[n]? := by
  induction list generalizing client with
  | nil => rfl
  | cons first later ih =>
    rw [List.foldl_cons, ih, getElem?_letGo]
    by_cases here : n = first
    · -- A session that is let go of twice is as if it was let go of once.
      cases client.sessions[n]? <;> simp [here, Session.letGo]
    · simp [here]

/-- The sessions in the registration queue are let go of, and the others are left alone. -/
theorem getElem?_dropRegistrations (client : Client) (n : Nat) :
    client.dropRegistrations.sessions[n]? =
      if n ∈ client.registrations then client.sessions[n]?.map Session.letGo
      else client.sessions[n]? :=
  getElem?_letGoAll client.registrations _ n

/-- Once the registration queue is dropped a session is one from before, or one of those in the queue
with its channel dropped. -/
theorem exists_of_dropRegistrations {client : Client} {n : Nat} {session : Session}
    (found : client.dropRegistrations.sessions[n]? = some session) :
    ∃ before, client.sessions[n]? = some before ∧
      (session = before ∧ n ∉ client.registrations ∨
        session = before.letGo ∧ n ∈ client.registrations) := by
  rw [getElem?_dropRegistrations] at found
  split at found
  · rename_i waited
    obtain ⟨before, there, rfl⟩ := Option.map_eq_some_iff.1 found
    exact ⟨before, there, .inr ⟨rfl, waited⟩⟩
  · rename_i other
    exact ⟨session, found, .inl ⟨rfl, other⟩⟩

/-- A client without a loop has lost its registration queue. -/
theorem abandonLoop_frame (client : Client) :
    client.abandonLoop = { client with
      loop := .absent
      registrations := []
      registrationsOpen := false
      sessions := client.abandonLoop.sessions } := by
  unfold abandonLoop dropRegistrations
  rw [letGoAll_frame]

/-- A start that fails does to the sessions what the loss of their queue does. -/
theorem sessions_abandonLoop (client : Client) :
    client.abandonLoop.sessions = client.dropRegistrations.sessions := rfl

/-- What does not change in a session that is let go of is as it was in all of them. -/
theorem map_abandonLoop {α : Type} (f : Session → α) (same : ∀ session, f session.letGo = f session)
    (client : Client) : client.abandonLoop.sessions.map f = client.sessions.map f := by
  refine List.ext_getElem? fun n => ?_
  rw [List.getElem?_map, List.getElem?_map, sessions_abandonLoop, getElem?_dropRegistrations]
  split
  · cases client.sessions[n]? with
    | none => rfl
    | some session => exact congrArg some (same session)
  · rfl

/-- The client after the drivers were noticed that ended: sessions are taken up, and a sweep made if
it is due. -/
def worked (client : Client) (noticed : Nat) : Client :=
  { client with driversEnded := noticed }.spawnAll.sweepIfDue

theorem ne_absent_of_isRunning (running : client.isRunning = true) : client.loop ≠ .absent := by
  intro gone
  simp [isRunning, gone] at running

/-- The kinds of steps of the loop. -/
inductive Turned (client next : Client) : Prop where
  | began (deadline : Instant) (loop : client.loop = .probing deadline)
      (changed : next = ({ client with lastSweep := client.now } : Client).enter
        (.turning client.now))
  | halted (lastSweep : Instant) (running : client.isRunning = true)
      (waited : client.loop ≠ .joining) (down : client.shuttingDown = true)
      (changed : next = ({ client with lastSweep := lastSweep } : Client).halt)
  | worked (since : Instant) (loop : client.loop = .turning since)
      (up : client.shuttingDown = false) (noticed : Nat)
      (changed : next = (client.worked noticed).enter (.turning (client.worked noticed).now))
  | ended (loop : client.loop = .joining) (closed : client.allClosed = true)
      (changed : next = client.enter .ended)

/-- Every step of the loop is of one of the kinds of `Turned`. -/
theorem turned_of_turn? {next : Client} (h : client.turn? = some next) : client.Turned next := by
  unfold turn? at h
  split at h
  · cases h
  · cases h
  · rename_i deadline hloop
    split at h
    · cases h
    · simp only [Option.some.injEq] at h
      split at h
      · rename_i down
        refine .halted client.now ?_ ?_ down h.symm
        · simp [isRunning, hloop]
        · rw [hloop]
          simp
      · exact .began deadline hloop h.symm
  · rename_i since hloop
    split at h
    · rename_i down
      refine .halted client.lastSweep ?_ ?_ down (Option.some.inj h).symm
      · simp [isRunning, hloop]
      · rw [hloop]
        simp
    · rename_i hup
      have up : client.shuttingDown = false := by simpa using hup
      split at h
      · exact .worked since hloop up _ (Option.some.inj h).symm
      · cases h
  · rename_i hloop
    split at h
    · rename_i closed
      exact .ended hloop closed (Option.some.inj h).symm
    · cases h
  · cases h

theorem worked_frame (client : Client) (noticed : Nat) :
    client.worked noticed = { client with
      driversEnded := (client.worked noticed).driversEnded
      lastSweep := (client.worked noticed).lastSweep
      registry := (client.worked noticed).registry
      registrations := (client.worked noticed).registrations
      registrationsOpen := (client.worked noticed).registrationsOpen
      sessions := (client.worked noticed).sessions
      connections := (client.worked noticed).connections
      posted := (client.worked noticed).posted } := by
  unfold worked sweepIfDue
  split
  · rw [sweep_frame, spawnAll_frame]
  · rw [spawnAll_frame]

/-- The loop changes connections, sessions, what it keeps of them and where it stands, and posts
notices, no more. -/
theorem Turned.frame {client next : Client} (h : client.Turned next) :
    next = { client with
      loop := next.loop
      lastSweep := next.lastSweep
      driversEnded := next.driversEnded
      registry := next.registry
      registrations := next.registrations
      registrationsOpen := next.registrationsOpen
      sessions := next.sessions
      connections := next.connections
      posted := next.posted } := by
  cases h with
  | began deadline loop changed =>
    rw [changed]
    rfl
  | halted lastSweep running waited down changed => rw [changed, halt_frame]
  | worked since loop up noticed changed =>
    have frame := worked_frame client noticed
    generalize client.worked noticed = after at changed frame
    have step := congrArg (fun client : Client => client.enter (.turning after.now)) frame
    rw [changed]
    exact step
  | ended loop closed changed =>
    rw [changed]
    rfl

/-! ## Relations that a turn respects -/

/-- A relation between clients that every part of a turn respects, as long as the sessions that were
not taken up are as `Fresh` says. -/
structure TurnRelation (R : Client → Client → Prop) (Fresh : Client → Nat → Prop) : Prop where
  refl (client : Client) : R client client
  trans {client middle next : Client} (first : R client middle) (second : R middle next) :
    R client next
  fresh {client next : Client} {n : Nat} (related : R client next) (before : Fresh client n) :
    Fresh next n
  /-- The loop notes something for itself. -/
  noted {client next : Client} (same : next = { client with
    loop := next.loop
    lastSweep := next.lastSweep
    driversEnded := next.driversEnded
    registry := next.registry
    registrations := next.registrations
    registrationsOpen := next.registrationsOpen }) : R client next
  retired (client : Client) (index : Nat) (reason : CloseReason) :
    R client (client.retireAndFail index reason)
  expired (client : Client) (index : Nat) : R client (client.takeExpired index).2
  failed (client : Client) (requests : List Request) :
    R client (client.postFailures requests .timeout)
  spawned (client : Client) (n : Nat) (before : Fresh client n) : R client (client.spawn n)
  discarded (client : Client) (n : Nat) (before : Fresh client n) : R client (client.discard n)

namespace TurnRelation

variable {R : Client → Client → Prop} {Fresh : Client → Nat → Prop}

/-- Something is done for each of several sessions that were not taken up. -/
theorem foldl (parts : TurnRelation R Fresh) {f : Client → Nat → Client}
    (step : ∀ client n, Fresh client n → R client (f client n)) (list : List Nat)
    (client : Client) (fresh : ∀ n ∈ list, Fresh client n) : R client (list.foldl f client) := by
  induction list generalizing client with
  | nil => exact parts.refl client
  | cons n later ih =>
    have first := step client n (fresh n List.mem_cons_self)
    exact parts.trans first (ih (f client n) fun m mem =>
      parts.fresh first (fresh m (List.mem_cons_of_mem _ mem)))

theorem retireAll (parts : TurnRelation R Fresh) (entries : List (Address × Nat))
    (reason : CloseReason) (client : Client) :
    R client (entries.foldl (fun client entry => client.retireAndFail entry.2 reason) client) := by
  induction entries generalizing client with
  | nil => exact parts.refl client
  | cons entry later ih => exact parts.trans (parts.retired client entry.2 reason) (ih _)

theorem failOutstanding (parts : TurnRelation R Fresh) (client : Client) :
    R client client.failOutstanding := by
  have emptied : R client { client with registry := [] } := parts.noted rfl
  exact parts.trans emptied (parts.retireAll _ _ _)

theorem takeAllExpired (parts : TurnRelation R Fresh) (indices : List Nat) (client : Client) :
    R client (client.takeAllExpired indices).2 := by
  induction indices generalizing client with
  | nil => exact parts.refl client
  | cons index later ih => exact parts.trans (parts.expired client index) (ih _)

theorem sweep (parts : TurnRelation R Fresh) (client : Client) : R client client.sweep := by
  let kept := client.registry.filter (!client.isIdle ·)
  have swept : R client { client with registry := kept } := parts.noted rfl
  have expired := parts.trans swept (parts.takeAllExpired (kept.map Prod.snd) _)
  have retired := parts.trans expired
    (parts.retireAll (client.registry.filter client.isIdle) .idle _)
  exact parts.trans retired (parts.failed _ _)

theorem halt (parts : TurnRelation R Fresh) (client : Client)
    (fresh : ∀ n ∈ client.registrations, Fresh client n) : R client client.halt := by
  have shut (client : Client) : R client { client with
      registrations := [], registrationsOpen := false, loop := .joining } := parts.noted rfl
  have failed := parts.trans (parts.failOutstanding client) (shut client.failOutstanding)
  have registrations : client.failOutstanding.registrations = client.registrations := by
    rw [failOutstanding_frame]
  refine parts.trans failed (parts.foldl parts.discarded _ _ fun n mem => ?_)
  rw [registrations] at mem
  exact parts.fresh failed (fresh n mem)

/-- A start that fails is within the relation too, if dropping a session is. -/
theorem abandonLoop (parts : TurnRelation R Fresh)
    (dropped : ∀ client n, Fresh client n → R client (client.letGo n)) (client : Client)
    (fresh : ∀ n ∈ client.registrations, Fresh client n) : R client client.abandonLoop := by
  have shut : R client { client with registrations := [], registrationsOpen := false } :=
    parts.noted rfl
  have gone : R client client.dropRegistrations :=
    parts.trans shut (parts.foldl dropped _ _ fun n mem => parts.fresh shut (fresh n mem))
  exact parts.trans gone (parts.noted rfl)

theorem worked (parts : TurnRelation R Fresh) (client : Client) (noticed : Nat)
    (fresh : ∀ n ∈ client.registrations, Fresh client n) : R client (client.worked noticed) := by
  let emptied : Client := { client with driversEnded := noticed, registrations := [] }
  have noted : R client emptied := parts.noted rfl
  have spawned := parts.trans noted (parts.foldl parts.spawned client.registrations emptied
    fun n mem => parts.fresh noted (fresh n mem))
  have swept (client : Client) : R client client.sweepIfDue := by
    unfold sweepIfDue
    split
    · have begun : R client { client with lastSweep := client.now } := parts.noted rfl
      exact parts.trans begun (parts.sweep _)
    · exact parts.refl client
  exact parts.trans spawned (swept _)

/-- Every step of the loop is within the relation. -/
theorem turned (parts : TurnRelation R Fresh) {client next : Client} (h : client.Turned next)
    (fresh : ∀ n ∈ client.registrations, Fresh client n) : R client next := by
  -- The client is a variable, for the equation about a given one is checked by running the turn.
  have entered (client : Client) (loop : LoopPhase) : R client (client.enter loop) :=
    parts.noted rfl
  cases h with
  | began deadline loop changed =>
    rw [changed]
    exact parts.noted rfl
  | halted lastSweep running waited down changed =>
    have noted : R client { client with lastSweep := lastSweep } := parts.noted rfl
    rw [changed]
    exact parts.trans noted (parts.halt _ fun n mem => parts.fresh noted (fresh n mem))
  | worked since loop up noticed changed =>
    rw [changed]
    exact parts.trans (parts.worked client noticed fresh) (entered _ _)
  | ended loop closed changed =>
    rw [changed]
    exact entered _ _

/-- A relation between the sessions before and after that holds whenever one is taken up or closed. -/
theorem of_sessions (S : List Session → List Session → Prop) (refl : ∀ list, S list list)
    (trans : ∀ {list middle after}, S list middle → S middle after → S list after)
    (taken : ∀ {list : List Session} {n : Nat} {session : Session}, list[n]? = some session →
      S list (list.set n { session with phase := .finishing false }))
    (closed : ∀ {list : List Session} {n : Nat} {session : Session}, list[n]? = some session →
      S list (list.set n { session with channel := session.channel.close, phase := .closed })) :
    TurnRelation (fun client next => S client.sessions next.sessions) fun _ _ => True where
  refl client := refl client.sessions
  trans := trans
  fresh _ before := before
  noted same := by
    rw [same]
    exact refl _
  retired client index reason := by
    rw [retireAndFail_frame]
    exact refl _
  expired client index := by
    rw [takeExpired_frame]
    exact refl _
  failed client _ := refl client.sessions
  spawned client n _ := by
    unfold spawn
    split
    · exact refl _
    · rename_i session found
      exact taken found
  discarded client n _ := by
    unfold discard
    split
    · exact refl _
    · rename_i session found
      simp only
      split
      · exact closed found
      · exact closed found

/-- A relation between the connections before and after that holds whenever one is removed from
service, loses what is too old, or loses everything. -/
theorem of_connections (C : List Connection → List Connection → Prop) (refl : ∀ list, C list list)
    (trans : ∀ {list middle after}, C list middle → C middle after → C list after)
    (retired : ∀ {list : List Connection} {index : Nat} {connection : Connection}
      (reason : CloseReason), list[index]? = some connection →
        C list (list.set index { connection.drain.2.requestClose reason with evicted := true }))
    (expired : ∀ {list : List Connection} {index : Nat} {connection : Connection}
      (timeout : Duration) (now : Instant), list[index]? = some connection →
        C list (list.set index (connection.takeExpired timeout now).2))
    (drained : ∀ {list : List Connection} {index : Nat} {connection : Connection},
      list[index]? = some connection → C list (list.set index connection.drain.2)) :
    TurnRelation (fun client next => C client.connections next.connections) fun _ _ => True where
  refl client := refl client.connections
  trans := trans
  fresh _ before := before
  noted same := by
    rw [same]
    exact refl _
  retired client index reason := by
    cases bound : client.connections[index]? with
    | none =>
      rw [retireAndFail_eq_self bound]
      exact refl _
    | some connection =>
      rw [retireAndFail_eq bound]
      exact retired reason bound
  expired client index := by
    cases bound : client.connections[index]? with
    | none =>
      rw [takeExpired_eq_self bound]
      exact refl _
    | some connection =>
      rw [takeExpired_eq bound]
      exact expired _ _ bound
  failed client _ := refl client.connections
  spawned client n _ := by
    rw [spawn_frame]
    exact refl _
  discarded client n _ := by
    unfold discard
    split
    · exact refl _
    · simp only
      split
      · exact refl _
      · rename_i connection bound
        exact drained bound

end TurnRelation

/-! ## Notices of the loop -/

theorem posted_retireAndFail (client : Client) (index : Nat) (reason : CloseReason) :
    client.posted <+: (client.retireAndFail index reason).posted := by
  cases hc : client.connections[index]? with
  | none => rw [retireAndFail_eq_self hc]
  | some connection =>
    rw [retireAndFail_eq hc]
    exact List.prefix_append _ _

theorem posted_discard (client : Client) (index : Nat) :
    client.posted <+: (client.discard index).posted := by
  unfold discard
  split
  · exact List.prefix_rfl
  · simp only
    split
    · exact List.prefix_rfl
    · exact List.prefix_append _ _

/-- The loop posts notices behind those that are posted already. -/
theorem turnRelation_posted :
    TurnRelation (fun client next => client.posted <+: next.posted) fun _ _ => True where
  refl _ := List.prefix_rfl
  trans first second := first.trans second
  fresh _ before := before
  noted same := by
    rw [same]
  retired := posted_retireAndFail
  expired client index := by
    cases hc : client.connections[index]? with
    | none => rw [takeExpired_eq_self hc]
    | some connection => rw [takeExpired_eq hc]
  failed _ _ := List.prefix_append _ _
  spawned client n _ := by
    rw [spawn_frame]
  discarded client n _ := posted_discard client n

theorem Turned.posted {client next : Client} (h : client.Turned next) :
    client.posted <+: next.posted :=
  turnRelation_posted.turned h fun _ _ => trivial

end Client

end RemoteCall
