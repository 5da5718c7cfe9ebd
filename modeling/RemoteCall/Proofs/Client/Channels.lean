import RemoteCall.Proofs.Client.Ageing
import RemoteCall.Proofs.Client.Filing
import RemoteCall.Proofs.Client.Idleness

/-!
# Open channels

An open channel serves the connection that stands for its destination, or it is on its way out: the
connection has left the registry, and the driver was asked to close. For every destination there is
at most one of the first kind. Those on their way out carry nothing any more, but they may still be
open when a new call has opened the next channel.
-/
namespace RemoteCall

/-- The channel is closed if the session has ended, and open if it was not taken up yet. -/
structure Session.Sealed (session : Session) : Prop where
  ended : session.phase = .closed → session.channel.closed = true
  waiting : session.phase = .registered → session.channel.closed = false

/-- Two states of a session between which its channel has not accepted anything, and was not opened
again. -/
structure Session.Lasts (a b : Session) : Prop where
  own : b.connection = a.connection
  accepted : b.channel.outbound.accepted = a.channel.outbound.accepted
  closed : a.channel.closed = true → b.channel.closed = true

/-- An order to close is not taken back. -/
def Connection.Obeys (a b : Connection) : Prop := a.closeReason ≠ none → b.closeReason ≠ none

theorem Connection.Obeys.refl (connection : Connection) : connection.Obeys connection := id

theorem Connection.Obeys.trans {a b c : Connection} (first : a.Obeys b) (second : b.Obeys c) :
    a.Obeys c := fun asked => second (first asked)

theorem Connection.Obeys.of_eq {a b : Connection} (same : b.closeReason = a.closeReason) :
    a.Obeys b := by
  rw [Obeys, same]
  exact id

theorem Session.Lasts.refl (session : Session) : session.Lasts session := ⟨rfl, rfl, id⟩

theorem Session.Lasts.trans {a b c : Session} (first : a.Lasts b) (second : b.Lasts c) : a.Lasts c :=
  ⟨second.own.trans first.own, second.accepted.trans first.accepted,
    fun closed => second.closed (first.closed closed)⟩

namespace Client

/-! ## Sealed sessions -/

/-- All sessions are sealed. -/
def Sealed (client : Client) : Prop := ∀ session ∈ client.sessions, session.Sealed

namespace Sealed

variable {client next : Client}

theorem of_same (h : client.Sealed) (sessions : next.sessions = client.sessions) : next.Sealed := by
  rw [Sealed, sessions]
  exact h

theorem set (h : client.Sealed) {n : Nat} {session : Session}
    (sessions : next.sessions = client.sessions.set n session) (own : session.Sealed) :
    next.Sealed := by
  intro other mem
  rw [sessions] at mem
  rcases List.mem_or_eq_of_mem_set mem with old | rfl
  · exact h other old
  · exact own

theorem append (h : client.Sealed) {more : List Session} (new : ∀ session ∈ more, session.Sealed)
    (sessions : next.sessions = client.sessions ++ more) : next.Sealed := by
  rw [Sealed, sessions]
  exact List.forall_mem_append.2 ⟨h, new⟩

theorem turnRelation :
    TurnRelation (fun client next => client.Sealed → next.Sealed) fun _ _ => True := by
  refine .of_sessions (fun before after => (∀ session ∈ before, session.Sealed) →
      ∀ session ∈ after, session.Sealed) (fun _ => id) (fun first second => second ∘ first)
    (fun _ h other mem => ?_) (fun _ h other mem => ?_)
  · rcases List.mem_or_eq_of_mem_set mem with old | rfl
    · exact h other old
    · exact ⟨fun ended => (by cases ended), fun waiting => (by cases waiting)⟩
  · rcases List.mem_or_eq_of_mem_set mem with old | rfl
    · exact h other old
    · exact ⟨fun _ => rfl, fun waiting => by cases waiting⟩

theorem send (h : client.Sealed) (valid : client.RegistryValid) (call : Call) :
    (client.send call).Sealed := by
  cases sent_send valid call with
  | malformed failure encoded changed =>
    rw [changed]
    exact h.of_same rfl
  | submitted header encoded seat outcome =>
    rename_i index connection seated
    have same : seated.sessions = client.sessions := by
      cases seat <;> rfl
    have seating : seated.Sealed := h.of_same same
    cases outcome with
    | refused down changed | queued up link connection' shared changed owes owed =>
      exact seating.of_same (by rw [changed])
    | opened up link takesUp session own phase free connection' shared changed unshut =>
      refine seating.append (List.forall_mem_singleton.2 ⟨fun ended => ?_, fun _ => unshut⟩)
        (by rw [changed])
      rw [phase] at ended
      cases ended
    | failed up link failure unused closed connection' shared changed shut =>
      refine seating.append (fun session mem => ⟨fun _ => shut session mem, fun waiting => ?_⟩)
        (by rw [changed])
      rw [(closed session mem).1] at waiting
      cases waiting

theorem perform (h : client.Sealed) (orderly : client.Orderly) (action : Action) :
    (client.perform action).Sealed := by
  have performed := client.performed_perform action
  generalize client.perform action = next at performed
  cases performed with
  | sent call => exact h.send orderly.sound.valid call
  | turned free turned => exact turnRelation.turned turned (fun _ _ => trivial) h
  | driven n found bound waited driven changed handled =>
    exact h.set (by rw [changed]) ⟨fun ended => handled.closed.2 (.inr ended),
      fun waiting => absurd waiting driven.taken⟩
  | toldPosted position found | toldRejected position found =>
    rw [deliver_eq]
    exact h.of_same rfl
  | notified found => exact h.of_same rfl
  | changed found channel shut accepted =>
    have own := h _ (List.mem_of_getElem? found)
    exact h.set rfl ⟨fun ended => shut.trans (own.ended ended),
      fun waiting => shut.trans (own.waiting waiting)⟩
  | started up loop deadline => exact h.of_same rfl
  | abandoned up loop =>
    intro session mem
    obtain ⟨n, found⟩ := List.mem_iff_getElem?.1 mem
    obtain ⟨before, there, ⟨rfl, -⟩ | ⟨rfl, -⟩⟩ := exists_of_dropRegistrations found
    · exact h session (List.mem_of_getElem? there)
    · exact ⟨fun _ => rfl, fun waiting => by cases waiting⟩
  | ended loop =>
    have down : Sealed { client with shuttingDown := true } := h
    exact down.of_same (by rw [failOutstanding_frame])
  | flagged loop => exact h.of_same rfl
  | aside same => exact h.of_same (by rw [same])

end Sealed

theorem ReachableWhile.sealed {P : Client → Prop} {client : Client} (h : client.ReachableWhile P) :
    client.Sealed := by
  refine h.of_orderly (fun first built => ?_) fun client action orderly sealed =>
    sealed.perform orderly action
  obtain ⟨settings, parsers, pool, firstXid, rfl⟩ := built.exists_eq
  exact List.forall_mem_nil _

/-- Only a session that has not ended has an open channel. -/
theorem Sealed.live {client : Client} (h : client.Sealed) {n : Nat} {session : Session}
    (found : client.sessions[n]? = some session) (unshut : session.channel.closed = false) :
    session.phase ≠ .closed := by
  intro ended
  rw [(h session (List.mem_of_getElem? found)).ended ended] at unshut
  cases unshut

/-! ## What channels accept -/

section

variable {client : Client}

/-- The loop has no channel accept anything. -/
theorem turnRelation_lasts : TurnRelation
    (fun client next => Evolves Session.Lasts client.sessions next.sessions) fun _ _ => True :=
  .of_sessions (Evolves Session.Lasts) (fun _ => .of_eq Session.Lasts.refl rfl)
    (fun first second => first.trans Session.Lasts.trans second)
    (fun found => .set Session.Lasts.refl found (by exact ⟨rfl, rfl, id⟩))
    fun found => .set Session.Lasts.refl found (by exact ⟨rfl, rfl, fun _ => rfl⟩)

/-- Only a driver that writes has its channel accept anything. -/
theorem exists_lasts_perform (orderly : client.Orderly) (action : Action) {n : Nat}
    {session : Session} (found : client.sessions[n]? = some session)
    (still : session.phase.exchanges = false) :
    ∃ after, (client.perform action).sessions[n]? = some after ∧ session.Lasts after := by
  have performed := client.performed_perform action
  generalize client.perform action = next at performed
  have same (sessions : next.sessions = client.sessions) :
      ∃ after, next.sessions[n]? = some after ∧ session.Lasts after :=
    Evolves.of_eq Session.Lasts.refl sessions n session found
  cases performed with
  | sent call =>
    obtain ⟨more, sessions⟩ := exists_sessions_send orderly.sound.valid call
    rw [sessions]
    exact Evolves.append Session.Lasts.refl _ more n session found
  | turned free turned =>
    exact turnRelation_lasts.turned turned (fun _ _ => trivial) n session found
  | driven m found' bound waited driven changed handled =>
    rename_i other after _ _ _ _
    rw [changed]
    by_cases here : m = n
    · subst here
      rw [found, Option.some.injEq] at found'
      subst found'
      obtain ⟨lt, -⟩ := List.getElem?_eq_some_iff.1 found
      refine ⟨after, List.getElem?_set_self lt, driven.own, ?_, fun closed => ?_⟩
      · rw [(handled.still still).2]
      · exact handled.closed.2 (.inl closed)
    · exact ⟨session, by rw [List.getElem?_set_ne here]; exact found, .refl session⟩
  | toldPosted position found | toldRejected position found => exact same (by rw [deliver_eq])
  | notified found => exact same rfl
  | changed found' channel shut accepted =>
    rename_i m other
    have lasts : other.Lasts { other with channel := channel } :=
      ⟨rfl, accepted, fun closed => shut.trans closed⟩
    exact Evolves.set Session.Lasts.refl found' lasts n session found
  | started up loop deadline => exact same rfl
  | abandoned up loop =>
    rw [sessions_abandonLoop, getElem?_dropRegistrations, found]
    split
    · exact ⟨session.letGo, rfl, rfl, rfl, fun _ => rfl⟩
    · exact ⟨session, rfl, .refl session⟩
  | ended loop => exact same (by rw [failOutstanding_frame])
  | flagged loop => exact same rfl
  | aside same' => exact same (by rw [same'])

end

/-! ## Orders to close -/

section

variable {client next : Client}

/-- The loop takes no order to close back. -/
theorem turnRelation_obeys : TurnRelation
    (fun client next => Evolves Connection.Obeys client.connections next.connections)
      fun _ _ => True :=
  .of_connections (Evolves Connection.Obeys) (fun _ => .of_eq Connection.Obeys.refl rfl)
    (fun first second => first.trans Connection.Obeys.trans second)
    (fun reason bound => .set Connection.Obeys.refl bound fun _ =>
      Connection.closeReason_retired _ reason)
    (fun _ _ bound => .set Connection.Obeys.refl bound (.of_eq rfl))
    fun bound => .set Connection.Obeys.refl bound (.of_eq rfl)

theorem obeys_send (valid : client.RegistryValid) (call : Call) :
    Evolves Connection.Obeys client.connections (client.send call).connections := by
  rcases malformed_or_placed valid call with ⟨failure, -, changed⟩ |
    ⟨header, -, index, connection, located, found, placed⟩
  · rw [changed]
    exact .of_eq Connection.Obeys.refl rfl
  · have seating : Evolves Connection.Obeys client.connections located.connections := by
      cases found with
      | known registered bound => exact .of_eq Connection.Obeys.refl rfl
      | fresh unknown number => exact .append Connection.Obeys.refl _ _
    obtain ⟨after, connections, -, reason, -⟩ := placed.exists_set found.found
    rw [connections]
    exact seating.trans Connection.Obeys.trans
      (.set Connection.Obeys.refl found.found (.of_eq reason))

theorem obeys_perform (orderly : client.Orderly) (action : Action) :
    Evolves Connection.Obeys client.connections (client.perform action).connections := by
  have performed := client.performed_perform action
  generalize client.perform action = next at performed
  have same (connections : next.connections = client.connections) :
      Evolves Connection.Obeys client.connections next.connections :=
    .of_eq Connection.Obeys.refl connections
  cases performed with
  | sent call => exact obeys_send orderly.sound.valid call
  | turned free turned => exact turnRelation_obeys.turned turned fun _ _ => trivial
  | driven n found bound waited driven changed handled =>
    rw [changed]
    exact .set Connection.Obeys.refl bound (.of_eq driven.closeReason)
  | toldPosted position found | toldRejected position found => exact same (by rw [deliver_eq])
  | notified found => exact .set Connection.Obeys.refl found (.of_eq (by exact rfl))
  | changed found channel shut accepted => exact same rfl
  | started up loop deadline => exact same rfl
  | abandoned up loop => exact same (by rw [abandonLoop_frame])
  | ended loop => exact turnRelation_obeys.failOutstanding { client with shuttingDown := true }
  | flagged loop => exact same rfl
  | aside same' => exact same (by rw [same'])

end

/-! ## Channels in service and on their way out -/

/-- The channel of the session `n` is open and leads to a destination. -/
def OpenTo (client : Client) (target : Address) (n : Nat) : Prop :=
  ∃ session connection, client.sessions[n]? = some session ∧ session.channel.closed = false ∧
    client.connections[session.connection]? = some connection ∧ connection.target = target

instance (client : Client) (target : Address) (n : Nat) : Decidable (client.OpenTo target n) :=
  decidable_of_iff ((client.sessions[n]?.any fun session => !session.channel.closed &&
      client.connections[session.connection]?.any fun connection =>
        connection.target == target) = true) (by
    simp only [Option.any_eq_true, Bool.and_eq_true, Bool.not_eq_true', beq_iff_eq]
    constructor
    · rintro ⟨session, found, unshut, connection, bound, same⟩
      exact ⟨session, connection, found, unshut, bound, same⟩
    · rintro ⟨session, connection, found, unshut, bound, same⟩
      exact ⟨session, found, unshut, connection, bound, same⟩)

/-- The channel of the session `n` is open and serves the connection that stands for a destination
now. -/
def Serves (client : Client) (target : Address) (n : Nat) : Prop :=
  ∃ session, client.sessions[n]? = some session ∧ session.channel.closed = false ∧
    client.registered? target = some session.connection

/-- The session `n` is on its way out: its driver was asked to close and neither reads nor writes,
and its connection has left the registry. -/
def Departs (client : Client) (n : Nat) : Prop :=
  ∃ session connection, client.sessions[n]? = some session ∧ session.phase.exchanges = false ∧
    client.connections[session.connection]? = some connection ∧ connection.closeReason ≠ none ∧
      ∀ entry ∈ client.registry, entry.2 ≠ session.connection

/-- What the channel of the session `n` has accepted. -/
def accepted? (client : Client) (n : Nat) : Option Bytes :=
  client.sessions[n]?.map fun session => session.channel.outbound.accepted

section

variable {client next : Client} {n : Nat}

/-- A session whose driver was asked to close is on its way out. -/
theorem Orderly.departs (h : client.Orderly) {session : Session} {connection : Connection}
    (found : client.sessions[n]? = some session)
    (bound : client.connections[session.connection]? = some connection)
    (asked : connection.closeReason ≠ none) : client.Departs n := by
  refine ⟨session, connection, found, ?_, bound, asked, fun entry mem same => ?_⟩
  · by_contra busy
    exact asked (h.sound.closing n session connection found bound (by simpa using busy))
  · exact asked (h.sound.unasked entry mem connection (same ▸ bound))

/-- What is on its way out does not come back, and accepts nothing any more. -/
theorem Departs.perform (h : client.Departs n) (orderly : client.Orderly) (action : Action) :
    (client.perform action).Departs n ∧
      (client.perform action).accepted? n = client.accepted? n := by
  obtain ⟨session, connection, found, still, bound, asked, -⟩ := h
  obtain ⟨after, found', lasts⟩ := exists_lasts_perform orderly action found still
  obtain ⟨connection', bound', obeys⟩ := obeys_perform orderly action _ connection bound
  rw [← lasts.own] at bound'
  refine ⟨(orderly.perform action).departs found' bound' (obeys asked), ?_⟩
  rw [accepted?, accepted?, found, found', Option.map_some, Option.map_some, lasts.accepted]

theorem Departs.run (h : client.Departs n) (orderly : client.Orderly) (run : Run client next) :
    next.Departs n ∧ next.accepted? n = client.accepted? n := by
  suffices all : next.Orderly ∧ next.Departs n ∧ next.accepted? n = client.accepted? n from all.2
  induction run with
  | refl => exact ⟨orderly, h, rfl⟩
  | tail _ _ action ih =>
    obtain ⟨orderly, departs, same⟩ := ih
    obtain ⟨departs', same'⟩ := departs.perform orderly action
    exact ⟨orderly.perform action, departs', same'.trans same⟩

/-- An open channel serves the connection that stands for its destination, unless it is on its way
out. -/
theorem OpenTo.serves_or_departs (h : client.Reachable) {target : Address}
    (unshut : client.OpenTo target n) : client.Serves target n ∨ client.Departs n := by
  obtain ⟨session, connection, found, open', bound, rfl⟩ := unshut
  have filed := h.filed
  cases asked : connection.closeReason with
  | none =>
    have entry := filed.filed session.connection connection bound asked
    exact .inl ⟨session, found, open', (registered?_eq_some_iff filed.keys).2 entry⟩
  | some reason => exact .inr (h.orderly.departs found bound (by rw [asked]; simp))

theorem Serves.unique (h : client.Reachable) {target : Address} {m : Nat}
    (first : client.Serves target m) (second : client.Serves target n) : m = n := by
  obtain ⟨a, found, unshut, registered⟩ := first
  obtain ⟨b, found', unshut', registered'⟩ := second
  rw [registered, Option.some.injEq] at registered'
  exact h.orderly.sound.unique m n a b found found' (h.sealed.live found unshut)
    (h.sealed.live found' unshut') registered'

/-- Every step of a driver on its way out leaves it less to do, and with the last one its channel is
closed. -/
theorem Departs.closes (departs : client.Departs n) (orderly : client.Orderly)
    (step : client.step? n = some next) : ∃ before after, client.sessions[n]? = some before ∧
      next.sessions[n]? = some after ∧ stepsLeft after.phase < stepsLeft before.phase ∧
        (stepsLeft after.phase = 0 → after.channel.closed = true) := by
  obtain ⟨session, connection, found, -, bound, asked, -⟩ := departs
  obtain ⟨after, sessions, less⟩ := exists_stepsLeft_lt orderly.sound found bound asked step
  obtain ⟨lt, -⟩ := List.getElem?_eq_some_iff.1 found
  have found' : next.sessions[n]? = some after := by
    rw [sessions]
    exact List.getElem?_set_self lt
  refine ⟨session, after, found, found', less, fun none => ?_⟩
  obtain ⟨_, _, _, _, same, _, handled, put, -⟩ := handledFrom_of_step? step
  rw [put, List.getElem?_set_self lt, Option.some.injEq] at found'
  rw [← found'] at none ⊢
  exact handled.closed.2 (.inr (eq_closed_of_stepsLeft none))

/-- Of the open channels to a destination at most one serves the connection that stands for it. All
others are on their way out for good: they accept nothing more, and each step of their drivers brings
them nearer to their end, at which they are closed. -/
theorem one_channel_in_service (h : client.Reachable) (target : Address) :
    (∀ n, client.OpenTo target n → client.Serves target n ∨ client.Departs n) ∧
    (∀ m n, client.Serves target m → client.Serves target n → m = n) ∧
    ∀ n, client.Departs n →
      (∀ next, Run client next → next.Departs n ∧ next.accepted? n = client.accepted? n) ∧
      ∀ next, client.step? n = some next → ∃ before after, client.sessions[n]? = some before ∧
        next.sessions[n]? = some after ∧ stepsLeft after.phase < stepsLeft before.phase ∧
          (stepsLeft after.phase = 0 → after.channel.closed = true) :=
  ⟨fun _ unshut => unshut.serves_or_departs h, fun _ _ first second => first.unique h second,
    fun _ departs => ⟨fun _ run => departs.run h.orderly run,
      fun _ step => departs.closes h.orderly step⟩⟩

end

/-- A connection was not used for longer than it may and is evicted, and the next call to its
destination comes before its driver has closed the channel. -/
def crowded : Client :=
  brief.performAll [.start, .elapse timerProbe, .turn, .send nullCall, .turn, .drive 0, .drive 0,
    .drive 0, .elapse (Duration.ofMillis 350), .turn, .send nullCall]

theorem reachable_crowded : crowded.Reachable :=
  ⟨brief, ⟨brief.settings, [], {}, 1, rfl⟩, run_performAll brief _⟩

theorem one_channel_in_service_crowded : crowded.OpenTo nullCall.target 0 ∧
    crowded.OpenTo nullCall.target 1 ∧ crowded.Departs 0 := by
  have first : crowded.OpenTo nullCall.target 0 := by decide +kernel
  have second : crowded.OpenTo nullCall.target 1 := by decide +kernel
  obtain ⟨kinds, unique, -⟩ := one_channel_in_service reachable_crowded nullCall.target
  refine ⟨first, second, (kinds 0 first).resolve_left fun ⟨session, found, unshut, entry⟩ => ?_⟩
  -- The destination has a new connection, and the first session is not its own.
  have old : (crowded.sessions[0]?.any fun session =>
      crowded.registered? nullCall.target != some session.connection) = true := by decide +kernel
  simp [found, entry] at old

/-- Two channels to one destination may be open at a time. -/
theorem two_channels_open : ¬ ∀ client : Client, client.Reachable → ∀ target m n,
    client.OpenTo target m → client.OpenTo target n → m = n := by
  intro single
  have same := single crowded reachable_crowded nullCall.target 0 1 (by decide +kernel)
    (by decide +kernel)
  cases same

end Client

end RemoteCall
