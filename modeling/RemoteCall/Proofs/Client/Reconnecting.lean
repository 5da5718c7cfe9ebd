import RemoteCall.Proofs.Client.Attempting

/-!
# When a channel is asked for

A call that finds its connection disconnected asks for a channel if and only if fewer failures to
connect were counted than are allowed, none was counted, or the back-off has passed since the last
one. Whatever the history, a call that is refused fails alone and changes nothing but the time of
last use, and one whose channel cannot be had fails alone and is one more failure.
-/
namespace RemoteCall

namespace Client

/-! ## Asking for a channel -/

section

variable {client : Client} {index : Nat} {connection : Connection}

/-- A channel that is refused at once leaves at most a closed session behind. -/
theorem exists_tryChannel_of_refused {plan : ChannelPlan} {cause : IoError}
    (refused : plan.refusal? = some cause) : ∃ unused : List Session,
      (∀ session ∈ unused, session.phase = .closed ∧ session.channel.closed = true) ∧
      client.tryChannel index connection plan =
        attemptFailed { client with sessions := client.sessions ++ unused } index connection
          cause := by
  unfold tryChannel
  cases opened : plan.openFailure with
  | some other =>
    rw [ChannelPlan.refusal?, opened, Option.some_or, Option.some.injEq] at refused
    refine ⟨[], List.forall_mem_nil _, ?_⟩
    rw [refused, List.append_nil]
  | none =>
    rw [ChannelPlan.refusal?, opened, Option.none_or] at refused
    refine ⟨[(client.newSession index connection.target plan).letGo],
      List.forall_mem_singleton.2 ⟨rfl, rfl⟩, ?_⟩
    simp only [refused]

/-- Without a loop that takes sessions up, a channel that is not refused is dropped again. -/
theorem exists_tryChannel_of_shut {plan : ChannelPlan} (accepted : plan.refusal? = none)
    (shut : client.registrationsOpen = false) : ∃ unused : Session,
      (unused.phase = .closed ∧ unused.channel.closed = true) ∧
      client.tryChannel index connection plan =
        failQueue { client with sessions := client.sessions ++ [unused] } index connection
          .shutDown := by
  obtain ⟨opened, connected⟩ := Option.or_eq_none_iff.1 accepted
  refine ⟨(client.newSession index connection.target plan).letGo, ⟨rfl, rfl⟩, ?_⟩
  simp only [tryChannel, opened, connected, shut, if_neg Bool.false_ne_true]

theorem tryChannel_of_accepted {plan : ChannelPlan} (accepted : plan.refusal? = none)
    (takesUp : client.registrationsOpen = true) :
    client.tryChannel index connection plan = { client with
      connections := client.connections.set index { connection with link := .connecting }
      sessions := client.sessions ++ [client.newSession index connection.target plan]
      registrations := client.registrations ++ [client.sessions.length] } := by
  obtain ⟨opened, connected⟩ := Option.or_eq_none_iff.1 accepted
  simp only [tryChannel, opened, connected, takesUp, if_true]
  rfl

variable {request : Request}

/-- Where there is a channel a request is queued. -/
theorem exists_place_of_linked (up : client.shuttingDown = false)
    (link : connection.link ≠ .disconnected) : ∃ owed,
      client.place index connection request = { client with
        connections := client.connections.set index (client.pushed connection request)
        owed := owed } := by
  rw [place, if_neg (Bool.eq_false_iff.1 up)]
  split
  · exact ⟨_, rfl⟩
  · exact ⟨client.owed, rfl⟩
  · exact absurd ‹_› link

theorem place_of_disconnected (up : client.shuttingDown = false)
    (link : connection.link = .disconnected) : client.place index connection request =
      if connection.allowance.canAttempt client.now then
        (client.asking connection).tryChannel index (client.pushed connection request)
          client.nextPlan
      else
        client.failQueue index (client.pushed connection request)
          (.unreachable connection.endpoint) := by
  rw [place, if_neg (Bool.eq_false_iff.1 up), link]
  have same : (client.pushed connection request).allowance = connection.allowance := rfl
  simp only [establish, takePlan_eq_nextPlan, same]
  cases connection.allowance.canAttempt client.now <;> rfl

/-- A request alone in its queue fails alone, and is out of the queue again. -/
theorem failQueue_enqueue (client : Client) (index : Nat) (connection : Connection)
    (empty : connection.queue = []) (request : Request) (failure : Failure) :
    client.failQueue index (connection.enqueue request) failure = { client with
      connections := client.connections.set index connection
      rejected := client.rejected ++ [request.fail failure] } := by
  have alone : (connection.enqueue request).drainQueue = ([request], connection) := by
    rw [Connection.enqueue, Connection.drainQueue, empty, List.nil_append]
    exact Prod.ext rfl (by rw [← empty])
  rw [failQueue, alone]
  rfl

theorem place_of_spent (up : client.shuttingDown = false) (link : connection.link = .disconnected)
    (empty : connection.queue = []) (spent : connection.allowance.canAttempt client.now = false) :
    client.place index connection request = { client with
      connections := client.connections.set index { connection with lastUsed := client.now }
      rejected := client.rejected ++ [request.fail (.unreachable connection.endpoint)] } := by
  rw [place_of_disconnected up link, spent, if_neg Bool.false_ne_true]
  exact client.failQueue_enqueue index { connection with lastUsed := client.now } empty request _

theorem exists_place_of_refused (up : client.shuttingDown = false)
    (link : connection.link = .disconnected) (empty : connection.queue = [])
    (permitted : connection.allowance.canAttempt client.now = true) {cause : IoError}
    (refused : client.nextPlan.refusal? = some cause) : ∃ unused : List Session,
      (∀ session ∈ unused, session.phase = .closed ∧ session.channel.closed = true) ∧
      client.place index connection request = { client with
        connections := client.connections.set index { connection with
          lastUsed := client.now
          allowance := connection.allowance.recordFailure client.now }
        sessions := client.sessions ++ unused
        rejected := client.rejected ++ [request.fail (.connectFailed connection.endpoint cause)]
        opens := client.asked connection :: client.opens
        plans := client.plans.tail } := by
  rw [place_of_disconnected up link, permitted, if_pos rfl]
  obtain ⟨unused, closed, tried⟩ := exists_tryChannel_of_refused refused
  refine ⟨unused, closed, ?_⟩
  rw [tried]
  exact failQueue_enqueue _ index
    { connection with
      lastUsed := client.now
      allowance := connection.allowance.recordFailure client.now } empty request _

theorem exists_place_of_shut (up : client.shuttingDown = false)
    (shut : client.registrationsOpen = false) (link : connection.link = .disconnected)
    (empty : connection.queue = [])
    (permitted : connection.allowance.canAttempt client.now = true)
    (accepted : client.nextPlan.refusal? = none) : ∃ unused : Session,
      (unused.phase = .closed ∧ unused.channel.closed = true) ∧
      client.place index connection request = { client with
        connections := client.connections.set index { connection with lastUsed := client.now }
        sessions := client.sessions ++ [unused]
        rejected := client.rejected ++ [request.fail .shutDown]
        opens := client.asked connection :: client.opens
        plans := client.plans.tail } := by
  have shut : (client.asking connection).registrationsOpen = false := shut
  rw [place_of_disconnected up link, permitted, if_pos rfl]
  obtain ⟨unused, closed, tried⟩ := exists_tryChannel_of_shut accepted shut
  refine ⟨unused, closed, ?_⟩
  rw [tried]
  exact failQueue_enqueue _ index { connection with lastUsed := client.now } empty request _

theorem place_of_accepted (up : client.shuttingDown = false)
    (takesUp : client.registrationsOpen = true) (link : connection.link = .disconnected)
    (empty : connection.queue = [])
    (permitted : connection.allowance.canAttempt client.now = true)
    (accepted : client.nextPlan.refusal? = none) :
    client.place index connection request = { client with
      connections := client.connections.set index { connection with
        queue := [request]
        lastUsed := client.now
        link := .connecting }
      sessions := client.sessions ++ [client.newSession index connection.target client.nextPlan]
      registrations := client.registrations ++ [client.sessions.length]
      opens := client.asked connection :: client.opens
      plans := client.plans.tail } := by
  have queue : connection.queue ++ [request] = [request] := by rw [empty, List.nil_append]
  have takesUp : (client.asking connection).registrationsOpen = true := takesUp
  rw [place_of_disconnected up link, permitted, if_pos rfl,
    tryChannel_of_accepted accepted takesUp, ← queue]
  rfl

end

/-- An attempt to connect is permitted by the failures that were counted. -/
def Due (client : Client) (failures : Nat) (last : Option Instant) : Prop :=
  failures < client.settings.maxReconnectAttempts.toNat ∨ last = none ∨
    ∃ moment, last = some moment ∧ moment + client.settings.reconnectBackoff ≤ client.now

/-- What a call does with its request at the connection that it finds for its destination, after so
many failures to connect to it. -/
structure Decided (client : Client) (target : Address) (failures : Nat) (last : Option Instant)
    (call : Call) (request : Request) (index : Nat) (connection : Connection) (located : Client) :
    Prop where
  found : client.countCall.Located target index connection located
  /-- The link of a connection is that of the channel that it has or asked for. -/
  pending : ∀ (n : Nat) session, client.sessions[n]? = some session →
    session.connection = index → session.phase ≠ .closed → connection.link = session.phase.link
  /-- Where there is a channel no other is asked for. -/
  waits : connection.link ≠ .disconnected → ∃ owed, client.send call = { located with
    connections := located.connections.set index (client.pushed connection request)
    owed := owed }
  asks : connection.link = .disconnected →
    ((client.send call).opens ≠ client.opens ↔ client.Due failures last)
  refused : connection.link = .disconnected → ¬ client.Due failures last →
    client.send call = { located with
      connections := located.connections.set index { connection with lastUsed := client.now }
      rejected := client.rejected ++ [request.fail (.unreachable target.endpoint)] }
  failed : connection.link = .disconnected → client.Due failures last →
    ∀ cause, client.nextPlan.refusal? = some cause → ∃ unused : List Session,
      (∀ session ∈ unused, session.phase = .closed ∧ session.channel.closed = true) ∧
      client.send call = { located with
        connections := located.connections.set index { connection with
          lastUsed := client.now
          allowance := connection.allowance.recordFailure client.now }
        sessions := client.sessions ++ unused
        rejected := client.rejected ++ [request.fail (.connectFailed target.endpoint cause)]
        opens := client.asked connection :: client.opens
        plans := client.plans.tail } ∧
      Attempted target (client.send call) (failures + 1) (some client.now)
  began : connection.link = .disconnected → client.Due failures last →
    client.nextPlan.refusal? = none → client.registrationsOpen = true →
    client.send call = { located with
      connections := located.connections.set index { connection with
        queue := [request]
        lastUsed := client.now
        link := .connecting }
      sessions := client.sessions ++ [client.newSession index target client.nextPlan]
      registrations := client.registrations ++ [client.sessions.length]
      opens := client.asked connection :: client.opens
      plans := client.plans.tail }
  /-- The registration queue went with a loop that could not be started. -/
  dropped : connection.link = .disconnected → client.Due failures last →
    client.nextPlan.refusal? = none → client.registrationsOpen = false → ∃ unused : Session,
      (unused.phase = .closed ∧ unused.channel.closed = true) ∧
      client.send call = { located with
        connections := located.connections.set index { connection with lastUsed := client.now }
        sessions := client.sessions ++ [unused]
        rejected := client.rejected ++ [request.fail .shutDown]
        opens := client.asked connection :: client.opens
        plans := client.plans.tail }

section

variable {client located : Client} {target : Address} {failures : Nat} {last : Option Instant}
  {index : Nat} {connection : Connection}

/-- The connection that a call finds remembers the history of its destination. -/
theorem Recalls.remembers (h : client.Recalls target failures last)
    (found : client.countCall.Located target index connection located) :
    connection.allowance.Remembers failures last := by
  cases found with
  | known registered bound => exact h.known index connection registered bound
  | fresh unknown number =>
    obtain ⟨rfl, rfl⟩ := h.unknown unknown
    exact RetryAllowance.remembers_none rfl rfl

theorem Located.canAttempt_iff (history : Attempted target client failures last)
    (found : client.countCall.Located target index connection located) :
    connection.allowance.canAttempt client.now = true ↔ client.Due failures last := by
  have recalls := history.recalls
  have filed := history.reachable.filed
  obtain ⟨maxAttempts, backoff⟩ := (filed.countCall.located history.reachable.orderly.sound.valid
    found).1.limits index connection found.found
  have settings : located.settings = client.settings := by
    rw [found.frame]
    rfl
  rw [(recalls.remembers found).canAttempt_iff recalls.past, maxAttempts, backoff, settings]
  rfl

/-- The connection that a call finds has the link of its open session, and nothing in its queue if
it is disconnected. -/
theorem Located.tells (orderly : client.Orderly)
    (found : client.countCall.Located target index connection located) :
    (∀ (n : Nat) session, client.sessions[n]? = some session → session.connection = index →
      session.phase ≠ .closed → connection.link = session.phase.link) ∧
    (connection.link = .disconnected → connection.queue = []) := by
  cases found with
  | known registered bound =>
    have bound : client.connections[index]? = some connection := bound
    constructor
    · intro n session there own live
      obtain ⟨same, bound', link⟩ := orderly.sound.owner n session there live
      rw [own] at bound'
      cases bound'.symm.trans bound
      exact link
    · exact fun down =>
        (List.append_eq_nil_iff.1 (orderly.outstanding_of_disconnected bound down).1).1
  | fresh unknown number =>
    refine ⟨fun n session there own live => ?_, fun down => rfl⟩
    obtain ⟨same, bound, -⟩ := orderly.sound.owner n session there live
    have inside := (List.getElem?_eq_some_iff.1 bound).1
    rw [own, number] at inside
    exact absurd inside (Nat.lt_irrefl _)

/-- What a call finds differs from the client before it in connections and registry only. -/
structure Same (client located : Client) : Prop where
  now : located.now = client.now
  settings : located.settings = client.settings
  rejected : located.rejected = client.rejected
  sessions : located.sessions = client.sessions
  registrations : located.registrations = client.registrations
  opens : located.opens = client.opens
  plans : located.plans = client.plans
  shuttingDown : located.shuttingDown = client.shuttingDown
  registrationsOpen : located.registrationsOpen = client.registrationsOpen

theorem Located.same (found : client.countCall.Located target index connection located) :
    client.Same located := by
  rw [found.frame]
  exact ⟨rfl, rfl, rfl, rfl, rfl, rfl, rfl, rfl, rfl⟩

/-- A call has found the connection of its destination, whose history is known. -/
structure Finds (client : Client) (target : Address) (failures : Nat) (last : Option Instant)
    (call : Call) (request : Request) (index : Nat) (connection : Connection) (located : Client) :
    Prop where
  history : Attempted target client failures last
  up : client.shuttingDown = false
  own : call.target = target
  found : client.countCall.Located target index connection located
  sent : client.send call = located.place index connection request

namespace Finds

variable {call : Call} {request : Request}
  (h : client.Finds target failures last call request index connection located)

include h

theorem connection_target : connection.target = target :=
  (h.history.reachable.filed.countCall.located h.history.reachable.orderly.sound.valid h.found).2

theorem endpoint : connection.endpoint = target.endpoint :=
  congrArg Address.endpoint h.connection_target

theorem empty (link : connection.link = .disconnected) : connection.queue = [] :=
  (h.found.tells h.history.reachable.orderly).2 link

theorem canAttempt_iff :
    connection.allowance.canAttempt located.now = true ↔ client.Due failures last := by
  rw [h.found.same.now, h.found.canAttempt_iff h.history]

theorem up_located : located.shuttingDown = false :=
  h.found.same.shuttingDown.trans h.up

/-- The plan and the form of the next channel are those of the client before the call. -/
theorem asking_eq :
    located.nextPlan = client.nextPlan ∧ located.asked connection = client.asked connection ∧
      located.newSession index connection.target = client.newSession index target := by
  refine ⟨?_, ?_, ?_⟩
  · rw [nextPlan, h.found.same.plans]
    rfl
  · rw [asked, h.found.same.settings]
    rfl
  · rw [h.connection_target]
    funext plan
    rw [newSession, h.found.same.settings]
    rfl

theorem waits (link : connection.link ≠ .disconnected) :
    ∃ owed, client.send call = { located with
      connections := located.connections.set index (client.pushed connection request)
      owed := owed } := by
  obtain ⟨owed, placed⟩ := exists_place_of_linked h.up_located link
  have pushed : located.pushed connection request = client.pushed connection request := by
    rw [Client.pushed, h.found.same.now]
    rfl
  exact ⟨owed, by rw [h.sent, placed, pushed]⟩

theorem refused (link : connection.link = .disconnected) (early : ¬ client.Due failures last) :
    client.send call = { located with
      connections := located.connections.set index { connection with lastUsed := client.now }
      rejected := client.rejected ++ [request.fail (.unreachable target.endpoint)] } := by
  have same := h.found.same
  have spent : connection.allowance.canAttempt located.now = false := by
    rw [Bool.eq_false_iff]
    exact fun permitted => early (h.canAttempt_iff.1 permitted)
  rw [h.sent, place_of_spent h.up_located link (h.empty link) spent, same.now, same.rejected,
    h.endpoint]

theorem failed (link : connection.link = .disconnected) (due : client.Due failures last)
    {cause : IoError} (refusal : client.nextPlan.refusal? = some cause) : ∃ unused : List Session,
      (∀ session ∈ unused, session.phase = .closed ∧ session.channel.closed = true) ∧
      client.send call = { located with
        connections := located.connections.set index { connection with
          lastUsed := client.now
          allowance := connection.allowance.recordFailure client.now }
        sessions := client.sessions ++ unused
        rejected := client.rejected ++ [request.fail (.connectFailed target.endpoint cause)]
        opens := client.asked connection :: client.opens
        plans := client.plans.tail } := by
  have same := h.found.same
  obtain ⟨nextPlan, asked, -⟩ := h.asking_eq
  obtain ⟨unused, closed, placed⟩ := exists_place_of_refused h.up_located link (h.empty link)
    (h.canAttempt_iff.2 due) (nextPlan ▸ refusal)
  refine ⟨unused, closed, ?_⟩
  rw [h.sent, placed, same.now, same.rejected, same.sessions, same.opens, same.plans, asked,
    h.endpoint]

theorem began (link : connection.link = .disconnected) (due : client.Due failures last)
    (accepted : client.nextPlan.refusal? = none) (takesUp : client.registrationsOpen = true) :
    client.send call = { located with
      connections := located.connections.set index { connection with
        queue := [request]
        lastUsed := client.now
        link := .connecting }
      sessions := client.sessions ++ [client.newSession index target client.nextPlan]
      registrations := client.registrations ++ [client.sessions.length]
      opens := client.asked connection :: client.opens
      plans := client.plans.tail } := by
  have same := h.found.same
  obtain ⟨nextPlan, asked, newSession⟩ := h.asking_eq
  rw [h.sent, place_of_accepted h.up_located (same.registrationsOpen.trans takesUp) link
    (h.empty link) (h.canAttempt_iff.2 due) (nextPlan ▸ accepted), same.now, same.sessions,
    same.registrations, same.opens, same.plans, asked, newSession, nextPlan]

theorem dropped (link : connection.link = .disconnected) (due : client.Due failures last)
    (accepted : client.nextPlan.refusal? = none) (shut : client.registrationsOpen = false) :
    ∃ unused : Session, (unused.phase = .closed ∧ unused.channel.closed = true) ∧
      client.send call = { located with
        connections := located.connections.set index { connection with lastUsed := client.now }
        sessions := client.sessions ++ [unused]
        rejected := client.rejected ++ [request.fail .shutDown]
        opens := client.asked connection :: client.opens
        plans := client.plans.tail } := by
  have same := h.found.same
  obtain ⟨nextPlan, asked, -⟩ := h.asking_eq
  obtain ⟨unused, closed, placed⟩ := exists_place_of_shut h.up_located
    (same.registrationsOpen.trans shut) link (h.empty link) (h.canAttempt_iff.2 due)
    (nextPlan ▸ accepted)
  refine ⟨unused, closed, ?_⟩
  rw [h.sent, placed, same.now, same.rejected, same.sessions, same.opens, same.plans, asked]

theorem opens_of_due (link : connection.link = .disconnected) (due : client.Due failures last) :
    (client.send call).opens = client.asked connection :: client.opens := by
  cases refusal : client.nextPlan.refusal? with
  | none =>
    cases takesUp : client.registrationsOpen with
    | true => rw [h.began link due refusal takesUp]
    | false =>
      obtain ⟨unused, -, sent⟩ := h.dropped link due refusal takesUp
      rw [sent]
  | some cause =>
    obtain ⟨unused, -, sent⟩ := h.failed link due refusal
    rw [sent]

theorem asks_iff (link : connection.link = .disconnected) :
    (client.send call).opens ≠ client.opens ↔ client.Due failures last := by
  constructor
  · contrapose!
    intro early
    rw [h.refused link early]
    exact h.found.same.opens
  · intro due
    rw [h.opens_of_due link due]
    exact List.cons_ne_self _ _

theorem failsToConnect (link : connection.link = .disconnected)
    (due : client.Due failures last) {cause : IoError}
    (refusal : client.nextPlan.refusal? = some cause) :
    client.FailsToConnect target (.send call) :=
  ⟨h.own, (h.asks_iff link).2 due, by rw [refusal]; simp⟩

end Finds

/-- For every history of failures and successes, a call to a destination asks for a channel exactly
if its connection is disconnected and an attempt is due. A call that is refused, or whose channel
cannot be had, fails alone; in the second case it is one more failure of the history. -/
theorem reconnect_decision (history : Attempted target client failures last)
    (up : client.shuttingDown = false) {call : Call} (own : call.target = target) {header : Bytes}
    (encoded : (client.headerFor call).encode call.credentials = .ok header) :
    ∃ index connection located, client.Decided target failures last call
      { client.requestFor call with header := header } index connection located := by
  have orderly := history.reachable.orderly
  obtain ⟨index, connection, located, found, sent⟩ := exists_send_eq orderly.sound.valid encoded
  rw [own] at found
  have finds : client.Finds target failures last call
      { client.requestFor call with header := header } index connection located :=
    ⟨history, up, own, found, sent⟩
  refine ⟨index, connection, located, ?_⟩
  constructor
  case found => exact found
  case pending => exact (found.tells orderly).1
  case waits => exact finds.waits
  case asks => exact finds.asks_iff
  case refused => exact finds.refused
  case began => exact finds.began
  case dropped => exact finds.dropped
  case failed =>
    intro link due cause refusal
    obtain ⟨unused, closed, sent⟩ := finds.failed link due refusal
    exact ⟨unused, closed, sent, .failed history (finds.failsToConnect link due refusal)⟩

end

/-- The attempt of the first call has failed, and some time has passed. -/
theorem attempted_refusedSince (duration : Duration) :
    Attempted nullCall.target (refusedSince duration) 1 (some unlucky.now) := by
  have unknown : unlucky.registered? nullCall.target = none := by decide +kernel
  have fails : unlucky.FailsToConnect nullCall.target (.send nullCall) :=
    ⟨rfl, by decide +kernel, by decide +kernel⟩
  exact ((Attempted.of_unknown reachable_unlucky unknown).failed fails).other id id
    fun index registered => registered

theorem link_refusedSince {duration : Duration} {index : Nat} {connection : Connection}
    {located : Client} (found : (refusedSince duration).countCall.Located nullCall.target index
      connection located) : connection.link = .disconnected := by
  have links : (refusedSince duration).connections.map Connection.link = [.disconnected] := by
    show (unlucky.perform (.send nullCall)).connections.map Connection.link = _
    decide +kernel
  cases found with
  | known registered bound =>
    have mem : connection ∈ (refusedSince duration).connections := List.mem_of_getElem? bound
    have link : connection.link ∈ (refusedSince duration).connections.map Connection.link :=
      List.mem_map_of_mem mem
    rw [links] at link
    exact List.mem_singleton.1 link
  | fresh unknown number => rfl

/-- A millisecond before the back-off of ten seconds is over no channel is asked for, and then one
is. -/
theorem reconnect_decision_unlucky :
    ((refusedSince (Duration.ofMillis 9999)).send nullCall).opens =
        (refusedSince (Duration.ofMillis 9999)).opens ∧
      ((refusedSince (Duration.ofMillis 10000)).send nullCall).opens ≠
        (refusedSince (Duration.ofMillis 10000)).opens := by
  have asks (duration : Duration) :
      ((refusedSince duration).send nullCall).opens ≠ (refusedSince duration).opens ↔
        (refusedSince duration).Due 1 (some unlucky.now) := by
    have up : (refusedSince duration).shuttingDown = false := by
      show (unlucky.perform (.send nullCall)).shuttingDown = false
      decide +kernel
    obtain ⟨index, connection, located, decided⟩ :=
      reconnect_decision (attempted_refusedSince duration) up rfl rfl
    exact decided.asks (link_refusedSince decided.found)
  constructor
  · by_contra asked
    rcases (asks _).1 asked with fewer | none | ⟨moment, last, passed⟩
    · revert fewer
      decide +kernel
    · cases none
    · cases last
      revert passed
      decide +kernel
  · exact (asks _).2 (.inr (.inr ⟨_, rfl, by decide +kernel⟩))

end Client

end RemoteCall
