import RemoteCall.Proofs.Client.Holding
import RemoteCall.Proofs.Transmission.Step

/-!
# Every buffer goes back once

What an action does to the pool is a trade for what readers and responses hold, whatever the action
is. So the counts of the pool tell at every moment how many fragments are held, and a buffer that
goes back is held by nobody any more.
-/
namespace RemoteCall

open BufferPool

/-- The response in an outcome, if it is one. -/
def Outcome.response? : Outcome → Option Response
  | .response answer => some answer
  | .failure _ => none

namespace Client

/-! ## Steps of a driver -/

/-- A session is put back, and what is held then was traded for `held`. -/
structure Settles (client : Client) (n : Nat) (held : Multiset Nat) (next : Client) : Prop where
  traded : Traded client.pool held next.pool next.holding
  session : ∃ session, next.sessions = client.sessions.set n session ∧ session.Vacant

section

variable {client next : Client} {n : Nat} {session session' : Session} {held : Multiset Nat}

theorem Settles.vacant (h : client.Settles n held next) (vacant : client.Vacant) :
    next.Vacant := by
  obtain ⟨put, sessions, empty⟩ := h.session
  intro m other hs
  rw [sessions] at hs
  rcases getElem?_set_cases hs with ⟨-, rfl⟩ | ⟨-, hs⟩
  · exact empty
  · exact vacant m other hs

/-- A step that goes on after a trade. -/
theorem Settles.after {pool : BufferPool} {between : Multiset Nat}
    (first : Traded client.pool held pool between)
    (h : Settles { client with pool := pool } n between next) : client.Settles n held next :=
  ⟨first.trans h.traded, h.session⟩

/-- A step that goes on without the pool and the sessions. -/
theorem Settles.leaves {middle : Client} (h : client.Settles n held middle)
    (leaves : middle.Leaves next) (sessions : next.sessions = middle.sessions) :
    client.Settles n held next := by
  refine ⟨h.traded.trans leaves.traded, ?_⟩
  rw [sessions]
  exact h.session

/-- What is held besides the reader of a session does not depend on it. -/
theorem exists_rest (found : client.sessions[n]? = some session) :
    ∃ rest, client.holding = session.lent + rest ∧
      ∀ session', (client.putSession n session').holding = session'.lent + rest := by
  refine ⟨((client.sessions.eraseIdx n).map Session.lent).sum +
    Notice.allLent client.undelivered, ?_, fun session' => ?_⟩
  · rw [holding, sum_map_eraseIdx Session.lent found, add_assoc]
  · obtain ⟨lt, -⟩ := List.getElem?_eq_some_iff.1 found
    have put : (client.sessions.set n session')[n]? = some session' := List.getElem?_set_self lt
    show ((client.sessions.set n session').map Session.lent).sum + _ = _
    rw [sum_map_eraseIdx Session.lent put, List.eraseIdx_set_eq, add_assoc]
    rfl

theorem holding_putSession (found : client.sessions[n]? = some session)
    (same : session'.assembler = session.assembler) :
    (client.putSession n session').holding = client.holding := by
  obtain ⟨rest, before, put⟩ := exists_rest found
  rw [put, before, Session.lent, same]
  rfl

theorem holding_post (client : Client) (notice : Notice) :
    (client.post notice).holding = notice.lent + client.holding := by
  simp only [holding, undelivered, post, Notice.allLent_append, Notice.allLent_singleton]
  abel

theorem settles_put (vacant : session'.Vacant) (connection : Connection) :
    client.Settles n (client.putSession n session').holding
      (client.put n session' connection) :=
  ⟨.refl, session', rfl, vacant⟩

theorem settles_putSession (found : client.sessions[n]? = some session)
    (same : session'.assembler = session.assembler) (vacant : session'.Vacant) :
    client.Settles n client.holding (client.putSession n session') := by
  rw [← holding_putSession found same]
  exact ⟨.refl, session', rfl, vacant⟩

/-- The end of a session gives back what its reader holds. -/
theorem settles_teardown (found : client.sessions[n]? = some session) (session' : Session)
    (connection : Connection) (reason : CloseReason) :
    client.Settles n (client.putSession n session').holding
      (client.teardown n session' connection reason) := by
  obtain ⟨rest, -, put⟩ := exists_rest found
  let ended : Session :=
    { session' with
      channel := session'.channel.close
      assembler := (session'.assembler.reset client.pool).1
      transmitter := session'.transmitter.takeCurrent.2
      phase := .closed }
  have after : (client.teardown n session' connection reason).holding = rest := by
    have posted : (client.teardown n session' connection reason).holding =
        (client.putSession n ended).holding :=
      (Leaves.postFailures _ _ (reason.isReply_failure connection.endpoint)).holding
    have nothing : ended.lent = 0 := rfl
    rw [posted, put, nothing, zero_add]
  refine ⟨?_, ended, rfl, fun _ => rfl⟩
  rw [after, put]
  exact session'.assembler.traded_reset client.pool rest

theorem settles_connectFailed (found : client.sessions[n]? = some session)
    (same : session'.assembler = session.assembler) (empty : session.assembler.held = [])
    (connection : Connection) (cause : IoError) :
    client.Settles n client.holding (client.connectFailed n session' connection cause) := by
  let ended : Session := { session' with channel := session'.channel.close, phase := .closed }
  have kept : ended.assembler = session.assembler := same
  have after : (client.connectFailed n session' connection cause).holding =
      (client.putSession n ended).holding := (Leaves.postFailures _ _ rfl).holding
  refine ⟨?_, ended, rfl, fun _ => ?_⟩
  · rw [after, holding_putSession found kept]
    exact .refl
  · rw [kept]
    exact empty

/-- The answer to a request divides the fragments of the reply between the response and the pool. -/
theorem lent_complete (request : Request) (status : AcceptStatus) (fragments : List Buffer)
    (parsers : List ExceptionDecoder) (now : Instant) :
    serials fragments = serials (request.complete status fragments parsers now).2 +
      (request.complete status fragments parsers now).1.lent := by
  unfold Request.complete
  cases outcome : request.outcome status fragments parsers now with
  | response response =>
    have kept : response.fragments = fragments := by
      cases status <;> simp only [Request.outcome] at outcome <;> cases outcome
      rfl
    show serials fragments = serials [] + serials response.fragments
    rw [kept, serials_nil, zero_add]
  | failure failure =>
    show serials fragments = serials fragments + 0
    rw [add_zero]

/-- Reading borrows buffers for the fragments; what it hands out is no longer with the reader. -/
theorem traded_read (found : client.sessions[n]? = some session) {reading : Fragment.Reading}
    {work : Fragment.Assembler.Work}
    (read : session.assembler.read client.pool session.channel.inbound = (reading, work)) :
    Traded client.pool client.holding work.pool
      (serials reading.lent + (client.putSession n (session.afterRead work)).holding) := by
  obtain ⟨rest, before, put⟩ := exists_rest found
  rw [before, put, ← add_assoc]
  exact (Fragment.Assembler.traded_of_read read).add rest

/-- What a record holds is divided between the response and the pool. -/
theorem traded_answer (request : Request) (status : AcceptStatus) (fragments : List Buffer)
    (parsers : List ExceptionDecoder) (now : Instant) (pool : BufferPool) (rest : Multiset Nat) :
    Traded pool (serials fragments + rest)
      (pool.releaseAll (request.complete status fragments parsers now).2)
      ((request.complete status fragments parsers now).1.lent + rest) := by
  rw [lent_complete request status fragments parsers now, add_assoc]
  exact traded_releaseAll _ _ _

/-- A session is put back with the reader that it had. -/
theorem settles_put_of_same (found : client.sessions[n]? = some session)
    (same : session'.assembler = session.assembler) (vacant : session'.Vacant)
    (connection : Connection) :
    client.Settles n client.holding (client.put n session' connection) := by
  rw [← holding_putSession found same]
  exact settles_put vacant connection

theorem settles_teardown_of_same (found : client.sessions[n]? = some session)
    (same : session'.assembler = session.assembler) (connection : Connection)
    (reason : CloseReason) :
    client.Settles n client.holding (client.teardown n session' connection reason) := by
  rw [← holding_putSession found same]
  exact settles_teardown found session' connection reason

/-- Requests that vanish take no buffers with them. -/
theorem leaves_foldl_lose (requests : List Request) (client : Client) :
    client.Leaves (requests.foldl lose client) := by
  induction requests generalizing client with
  | nil => exact .refl client
  | cons request later ih =>
    have first : client.Leaves (client.lose request) := by
      unfold lose
      split
      · exact .of_same rfl rfl rfl
      · unfold keep
        split
        · exact .of_same rfl rfl rfl
        · refine ⟨rfl, rfl, fun _ _ hs => .inr hs, .of_eq rfl, .of_eq rfl, ?_, rfl⟩
          exact .failures client.mailbox [request] rfl
    exact first.trans (ih _)

/-- Every step of a driver puts its session back and trades for what is held then. -/
theorem Stepped.settles {connection : Connection} (h : client.Stepped n session connection next)
    (found : client.sessions[n]? = some session) (own : session.Vacant) :
    client.Settles n client.holding next := by
  have empty (before : session.phase.connects = true) : session.assembler.held = [] := by
    apply own
    rw [SessionPhase.link_of_connects before]
    simp
  have vacant {session' : Session} (same : session'.assembler = session.assembler)
      (link : session'.phase.link = session.phase.link) : session'.Vacant := by
    intro other
    rw [same]
    exact own (by rw [← link]; exact other)
  have reads {thenWrite : Bool} (phase : session.phase = .reading thenWrite)
      (work : Fragment.Assembler.Work) : (session.afterRead work).Vacant :=
    Session.vacant_of_link (by rw [Session.afterRead, phase]; rfl)
  cases h with
  | went wanted alike goes =>
    exact settles_putSession found (by rfl) (vacant (by rfl) goes.link)
  | heard phase unasked =>
    exact settles_put_of_same found (by rfl) (Session.vacant_of_link (by rfl)) _
  | connected alike before unasked =>
    exact settles_put_of_same found (by rfl) (Session.vacant_of_link (by rfl)) _
  | failed cause alike before unasked =>
    exact settles_connectFailed found (by rfl) (empty before) connection cause
  | broke cause alike still link unasked =>
    exact settles_teardown_of_same found (by rfl) connection _
  | closed asked still live => exact settles_teardown_of_same found rfl connection _
  | @pausedReading thenWrite work phase read =>
    obtain ⟨rest, -, put⟩ := exists_rest found
    let rested : Session :=
      { session.afterRead work with phase := if thenWrite then .writing else .deciding }
    have resting : rested.Vacant := by
      apply Session.vacant_of_link
      show (if thenWrite then SessionPhase.writing else .deciding).link = .connected
      split <;> rfl
    have same : (client.putSession n rested).holding =
        (client.putSession n (session.afterRead work)).holding := by
      rw [put, put]
      rfl
    have first := traded_read found read
    rw [show serials (Fragment.Reading.lent .wouldBlock) = 0 from rfl, zero_add, ← same] at first
    exact .after first (settles_put resting _)
  | @endedReading thenWrite reading work reason phase read why =>
    have first := (traded_read found read).trans (traded_releaseAll _ _ _)
    have found : ({ client with pool := work.pool.releaseAll reading.lent } : Client).sessions[n]? =
        some session := found
    exact .after first (settles_teardown found (session.afterRead work) _ _)
  | gaveUp phase read decoded unmatched =>
    exact ⟨(traded_read found read).trans (traded_releaseAll _ _ _), session.afterRead _, rfl,
      reads phase _⟩
  | @answered thenWrite fragments work header request phase read decoded inFlight =>
    have answered := (traded_read found read).trans
      (traded_answer request header.status fragments client.parsers client.now work.pool _)
    generalize request.complete header.status fragments client.parsers client.now = answer
      at answered
    obtain ⟨notice, released⟩ := answer
    rw [← holding_post] at answered
    exact ⟨answered, session.afterRead work, rfl, reads phase work⟩
  | pausedWriting phase unwritten =>
    exact settles_put_of_same found (by rfl) (Session.vacant_of_link (by rfl)) _
  | endedWriting phase refusal reason unwritten =>
    exact settles_teardown_of_same found (by rfl) _ _
  | tookUp phase free queue fits =>
    exact settles_put_of_same found (by rfl) (vacant (by rfl) (by rfl)) _
  | @refused request later phase free queue large =>
    exact (settles_put_of_same found rfl own _).leaves (.postFailures _ [request] rfl) rfl
  | moved phase busy more accepted pos le =>
    exact settles_put_of_same found (by rfl) (vacant (by rfl) (by rfl)) _
  | transmitted phase busy complete =>
    have put (connection : Connection) : client.Settles n client.holding (client.put n
        { session with transmitter := { session.transmitter with current := none } }
        connection) :=
      settles_put_of_same found (by rfl) (vacant (by rfl) (by rfl)) connection
    refine (put _).leaves (leaves_foldl_lose _ _) ?_
    rw [foldl_lose_eq]

/-- Every step of a driver puts its session back and trades for what is held then. -/
theorem settles_of_step? (vacant : client.Vacant) (h : client.step? n = some next) :
    client.Settles n client.holding next := by
  obtain ⟨session, connection, found, -, stepped⟩ := exists_stepped_of_step? h
  exact stepped.settles found (vacant n session found)

end

/-! ## Actions -/

/-- A trade between the pool and what is held, after which only readers of connected sessions hold
anything. -/
structure Trades (client next : Client) : Prop where
  traded : Traded client.pool client.holding next.pool next.holding
  vacant : next.Vacant

section

variable {client next : Client}

theorem Leaves.trades (h : client.Leaves next) (vacant : client.Vacant) : client.Trades next :=
  ⟨h.traded, h.vacant vacant⟩

theorem Settles.trades {n : Nat} (h : client.Settles n client.holding next)
    (vacant : client.Vacant) : client.Trades next :=
  ⟨h.traded, h.vacant vacant⟩

/-- A notice that was taken away had a part of what is held. -/
theorem holding_of_taken {notice : Notice} (sessions : next.sessions = client.sessions)
    (notices : Notice.allLent client.undelivered =
      notice.lent + Notice.allLent next.undelivered) :
    client.holding = notice.lent + next.holding := by
  rw [holding, holding, sessions, notices, add_left_comm]

/-- A notice is kept with its buffers, or they go back. -/
theorem traded_keep (client : Client) (notice : Notice) :
    Traded client.pool (notice.lent + client.holding)
      (client.keep notice).pool (client.keep notice).holding := by
  unfold keep
  split
  · exact traded_releaseAll client.pool notice.outcome.buffers client.holding
  · have kept : ({ client with mailbox := client.mailbox ++ [notice] } : Client).holding =
        notice.lent + client.holding := by
      simp only [holding, undelivered, Notice.allLent_append, Notice.allLent_singleton]
      abel
    rw [kept]
    exact .refl

/-- What a listener is told holds its buffers until the listener returns, or the holder of the
promise lets go of it. -/
theorem traded_deliver (client : Client) (notice : Notice) :
    Traded client.pool (notice.lent + client.holding)
      (client.deliver notice).pool (client.deliver notice).holding := by
  unfold deliver
  cases notice.delivery with
  | callback => exact traded_releaseAll client.pool notice.outcome.buffers client.holding
  | promise => exact traded_keep { client with told := notice :: client.told } notice

theorem trades_deliver {taken : Client} {notice : Notice} (pool : taken.pool = client.pool)
    (sessions : taken.sessions = client.sessions)
    (notices : Notice.allLent client.undelivered =
      notice.lent + Notice.allLent taken.undelivered) (vacant : client.Vacant) :
    client.Trades (taken.deliver notice) := by
  refine ⟨?_, ?_⟩
  · rw [holding_of_taken sessions notices, ← pool]
    exact traded_deliver taken notice
  · rw [deliver_eq]
    intro n session hs
    exact vacant n session (by rw [← sessions]; exact hs)

theorem trades_tellPosted (vacant : client.Vacant) (position : Nat) :
    client.Trades (client.tellPosted position) := by
  unfold tellPosted
  split
  · exact (Leaves.refl client).trades vacant
  · rename_i notice found
    refine trades_deliver rfl rfl ?_ vacant
    simp only [undelivered, Notice.allLent_append, Notice.allLent_eraseIdx found, add_assoc]

theorem trades_tellRejected (vacant : client.Vacant) (position : Nat) :
    client.Trades (client.tellRejected position) := by
  unfold tellRejected
  split
  · exact (Leaves.refl client).trades vacant
  · rename_i notice found
    refine trades_deliver rfl rfl ?_ vacant
    simp only [undelivered, Notice.allLent_append, Notice.allLent_eraseIdx found]
    abel

/-- The outcome of a promise that is asked for leaves with its buffers, which go back. -/
theorem trades_collect (vacant : client.Vacant) (ticket : Nat) :
    client.Trades (client.collect ticket).2 := by
  unfold collect
  split
  · exact (Leaves.refl client).trades vacant
  · rename_i notice found
    let taken : Client := { client with mailbox := client.mailbox.eraseP (·.ticket == ticket) }
    have notices : Notice.allLent client.undelivered =
        notice.lent + Notice.allLent taken.undelivered := by
      simp only [taken, undelivered, Notice.allLent_append, Notice.allLent_eraseP found]
      abel
    have held : client.holding = notice.lent + taken.holding := holding_of_taken rfl notices
    refine ⟨?_, vacant⟩
    rw [held]
    exact traded_releaseAll client.pool notice.outcome.buffers taken.holding

theorem trades_drive (vacant : client.Vacant) (n : Nat) :
    client.Trades (client.perform (.drive n)) := by
  rcases client.perform_drive_eq n with same | ⟨-, step⟩
  · rw [same]
    exact (Leaves.refl client).trades vacant
  · exact (settles_of_step? vacant step).trades vacant

theorem trades_changeChannel (vacant : client.Vacant) (n : Nat) (what : ChannelChange) :
    client.Trades (client.changeChannel n what) := by
  unfold changeChannel
  split
  · exact (Leaves.refl client).trades vacant
  · rename_i session found
    have same : session.Vacant := vacant n session found
    exact (settles_putSession found (by rfl) (by exact same)).trades vacant

/-- Every action is a trade. -/
theorem trades_perform (orderly : client.Orderly) (vacant : client.Vacant) (action : Action) :
    client.Trades (client.perform action) := by
  have still : client.Trades client := (Leaves.refl client).trades vacant
  cases action with
  | send call => exact (Leaves.send client call).trades vacant
  | notify index => exact (Leaves.notify client index).trades vacant
  | start setup => exact (Leaves.start orderly vacant setup).trades vacant
  | shutdown => exact (Leaves.shutdown client).trades vacant
  | turn =>
    show client.Trades (if client.mayTurn then client.turn else client)
    split
    · exact (Leaves.turn orderly vacant).trades vacant
    · exact still
  | drive n => exact trades_drive vacant n
  | tellPosted position => exact trades_tellPosted vacant position
  | tellRejected position => exact trades_tellRejected vacant position
  | elapse duration => exact (Leaves.elapse client duration).trades vacant
  | change n what => exact trades_changeChannel vacant n what
  | plan plan => exact (Leaves.addPlan client plan).trades vacant
  | collect ticket => exact trades_collect vacant ticket
  | forget ticket =>
    have collected := trades_collect vacant ticket
    exact ⟨collected.traded, collected.vacant⟩

/-! ## Runs -/

theorem vacant_of_built (h : client.Built) : client.Vacant ∧ client.holding = 0 := by
  obtain ⟨settings, parsers, pool, firstXid, rfl⟩ := h.exists_eq
  exact ⟨fun n session hs => (by cases hs), rfl⟩

/-- A whole run is a trade, and it begins with nothing held. -/
theorem traded_run {first : Client} (built : first.Built) (run : Run first client) :
    Traded first.pool 0 client.pool client.holding ∧ client.Vacant := by
  obtain ⟨vacant, none⟩ := vacant_of_built built
  induction run with
  | refl =>
    rw [none]
    exact ⟨.refl, vacant⟩
  | tail earlier _ action ih =>
    have orderly := ReachableWhile.orderly ⟨first, built, earlier⟩
    have trades := trades_perform orderly ih.2 action
    exact ⟨ih.1.trans trades.traded, trades.vacant⟩

theorem ReachableWhile.vacant {P : Client → Prop} (h : client.ReachableWhile P) :
    client.Vacant := by
  obtain ⟨first, built, run⟩ := h.reachable
  exact (traded_run built run).2

end

/-! ## Counting fragments -/

/-- The number of fragments pending in the readers of the sessions that are not closed. -/
def pendingFragments (client : Client) : Nat :=
  ((client.sessions.filter (·.phase != .closed)).map (·.assembler.pendingFragments)).sum

/-- The responses that nobody has dropped: still to be handed to their listeners, or kept for the
holders of promises. -/
def liveResponses (client : Client) : List Response :=
  client.undelivered.filterMap (·.outcome.response?)

/-- The number of fragments held by responses that nobody has dropped. -/
def keptFragments (client : Client) : Nat := (client.liveResponses.map (·.fragments.length)).sum

theorem card_allLent (notices : List Notice) : (Notice.allLent notices).card =
    ((notices.filterMap (·.outcome.response?)).map (·.fragments.length)).sum := by
  induction notices with
  | nil => rfl
  | cons notice later ih =>
    have first : (Notice.allLent (notice :: later)).card =
        notice.outcome.buffers.length + (Notice.allLent later).card := by
      rw [Notice.allLent, List.map_cons, List.sum_cons, Multiset.card_add, Notice.lent,
        card_serials]
      rfl
    rw [first, ih]
    cases outcome : notice.outcome with
    | response response =>
      have held : (notice :: later).filterMap (·.outcome.response?) =
          response :: later.filterMap (·.outcome.response?) := by
        simp [outcome, Outcome.response?]
      rw [held, List.map_cons, List.sum_cons]
      rfl
    | failure failure =>
      have without : (notice :: later).filterMap (·.outcome.response?) =
          later.filterMap (·.outcome.response?) := by
        simp [outcome, Outcome.response?]
      rw [without]
      exact Nat.zero_add _

theorem card_sum_lent {sessions : List Session}
    (vacant : ∀ session ∈ sessions, session.Vacant) :
    (sessions.map Session.lent).sum.card =
      ((sessions.filter (·.phase != .closed)).map (·.assembler.pendingFragments)).sum := by
  induction sessions with
  | nil => rfl
  | cons session later ih =>
    have rest := ih fun other mem => vacant other (List.mem_cons_of_mem _ mem)
    rw [List.map_cons, List.sum_cons, Multiset.card_add, rest, Session.lent, card_serials]
    by_cases closed : session.phase = .closed
    · have empty := vacant session List.mem_cons_self (by rw [closed]; simp [SessionPhase.link])
      rw [empty, List.filter_cons_of_neg (by simp [closed])]
      exact Nat.zero_add _
    · rw [List.filter_cons_of_pos (by simp [closed]), List.map_cons, List.sum_cons,
        Fragment.Assembler.length_held]

/-- What readers and responses hold are the fragments pending with readers that are at work and
those of responses that nobody has dropped. -/
theorem card_holding {client : Client} (vacant : client.Vacant) :
    client.holding.card = client.pendingFragments + client.keptFragments := by
  have readers : ∀ session ∈ client.sessions, session.Vacant := fun session mem => by
    obtain ⟨n, hs⟩ := List.mem_iff_getElem?.1 mem
    exact vacant n session hs
  rw [holding, Multiset.card_add, card_sum_lent readers, card_allLent]
  rfl

/-- No reader is at work once the loop has ended. -/
theorem pendingFragments_eq_zero {client : Client} (h : client.Reachable)
    (ended : client.loop = .ended) : client.pendingFragments = 0 := by
  have closed := ((h.stopping (.inr ended)).ended ended).2
  have atWork : client.sessions.filter (·.phase != .closed) = [] := by
    refine List.filter_eq_nil_iff.2 fun session mem => ?_
    have phase := List.all_eq_true.1 closed session mem
    simpa using phase
  rw [pendingFragments, atWork]
  rfl

/-- Wherever a run leads, the buffers that were asked for and not given back are the fragments
pending with readers that are at work and those of responses that nobody has dropped. They are none
once the loop has ended and the responses were dropped. If each buffer was in one place at first, no
action gives back a buffer that a reader or a response still holds. -/
theorem buffers_balance {first client : Client} (built : first.Built) (run : Run first client) :
    client.pool.acquired + first.pool.released =
      first.pool.acquired + client.pool.released +
        (client.pendingFragments + client.keptFragments) ∧
    (client.loop = .ended → client.liveResponses = [] →
      client.pool.acquired + first.pool.released = first.pool.acquired + client.pool.released) ∧
    (first.pool.Tidy → client.pool.Sole client.holding ∧
      ∀ action, TradedWhile Sole client.pool client.holding
        (client.perform action).pool (client.perform action).holding) := by
  obtain ⟨traded, vacant⟩ := traded_run built run
  have reachable : client.Reachable := ⟨first, built, run⟩
  have balance := traded.balance
  rw [Multiset.card_zero, add_zero, card_holding vacant] at balance
  refine ⟨balance, fun ended dropped => ?_, fun tidy => ?_⟩
  · have kept : client.keptFragments = 0 := by
      rw [keptFragments, dropped]
      rfl
    rw [pendingFragments_eq_zero reachable ended, kept] at balance
    exact balance
  · have sole := (tidy.traded traded).2
    have trades := trades_perform reachable.orderly vacant
    exact ⟨sole, fun action => (sole.traded (trades action).traded).1⟩

/-- A client that has read a part of a reply. -/
def answering : Client :=
  calling.performAll
    [.change 0 (.feed [0x80, 0, 0, 12, 0, 0, 0, 1]), .drive 0, .drive 0, .drive 0]

theorem buffers_balance_answering : answering.pendingFragments = 1 ∧
    answering.pool.acquired + usual.pool.released =
      usual.pool.acquired + answering.pool.released +
        (answering.pendingFragments + answering.keptFragments) ∧
    answering.pool.Sole answering.holding := by
  have run : Run usual answering := (run_performAll usual _).trans (run_performAll calling _)
  have tidy : usual.pool.Tidy := ⟨Multiset.nodup_zero, fun serial mem => (by cases mem)⟩
  obtain ⟨balance, -, sole⟩ := buffers_balance built_usual run
  exact ⟨by decide +kernel, balance, (sole tidy).1⟩

end Client

end RemoteCall
