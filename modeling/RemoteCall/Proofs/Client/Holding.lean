import RemoteCall.Proofs.Client.Shutdown
import RemoteCall.Proofs.Pool.Lending

/-!
# Who holds the buffers of a client

A client holds buffers with the readers of its sessions, which collect the fragments of a record, and
with the responses among the notices that were not given away. Every action is a trade between the
pool and what is held so: a buffer is taken from the pool for a fragment, changes hands with the
record that it is a part of, and goes back to the pool when the last who holds it lets go of it.
-/
namespace RemoteCall

open BufferPool

/-! ## What is held -/

/-- The buffers that the reader of a session holds. -/
def Session.lent (session : Session) : Multiset Nat := serials session.assembler.held

/-- The buffers that the outcome in a notice holds. -/
def Notice.lent (notice : Notice) : Multiset Nat := serials notice.outcome.buffers

/-- Only the reader of a session that is connected holds anything. -/
def Session.Vacant (session : Session) : Prop :=
  session.phase.link ≠ .connected → session.assembler.held = []

theorem Session.vacant_of_link {session : Session} (h : session.phase.link = .connected) :
    session.Vacant := fun other => absurd h other

theorem sum_map_eraseIdx {α M : Type} [AddCommMonoid M] (f : α → M) {list : List α} {i : Nat} {a : α}
    (h : list[i]? = some a) : (list.map f).sum = f a + ((list.eraseIdx i).map f).sum := by
  obtain ⟨lt, rfl⟩ := List.getElem?_eq_some_iff.1 h
  rw [← ((List.getElem_cons_eraseIdx_perm lt).map f).sum_eq, List.map_cons, List.sum_cons]

/-- What the outcomes in several notices hold. -/
def Notice.allLent (notices : List Notice) : Multiset Nat := (notices.map Notice.lent).sum

namespace Notice

@[simp] theorem allLent_append (first second : List Notice) :
    allLent (first ++ second) = allLent first + allLent second := by
  simp [allLent]

@[simp] theorem allLent_singleton (notice : Notice) : allLent [notice] = notice.lent := by
  simp [allLent]

theorem allLent_eraseIdx {notices : List Notice} {position : Nat} {notice : Notice}
    (h : notices[position]? = some notice) :
    allLent notices = notice.lent + allLent (notices.eraseIdx position) :=
  sum_map_eraseIdx Notice.lent h

theorem allLent_eraseP {p : Notice → Bool} {notices : List Notice} {notice : Notice}
    (found : notices.find? p = some notice) :
    allLent notices = notice.lent + allLent (notices.eraseP p) := by
  rw [allLent, ((perm_cons_eraseP found).map Notice.lent).sum_eq, List.map_cons, List.sum_cons]
  rfl

end Notice

/-! ## Outcomes without a reply -/

/-- Only the reply to a call lets it fail so. -/
def Failure.isReply : Failure → Bool
  | protocol _ => true
  | invalidResponse _ => true
  | unrecognizedException _ => true
  | remoteException _ _ => true
  | _ => false

/-- Only the reply to a call gives this outcome. -/
def Outcome.isReply : Outcome → Bool
  | .response _ => true
  | .failure cause => cause.isReply

@[simp] theorem CloseReason.isReply_failure (reason : CloseReason) (endpoint : String) :
    (reason.failure endpoint).isReply = false := by
  cases reason <;> rfl

namespace Notice

/-- The request has ended without a reply. -/
def Unanswered (notice : Notice) : Prop := notice.outcome.isReply = false

theorem Unanswered.lent {notice : Notice} (h : notice.Unanswered) : notice.lent = 0 := by
  unfold Unanswered at h
  unfold Notice.lent
  cases outcome : notice.outcome with
  | response response =>
    rw [outcome] at h
    cases h
  | failure failure => rfl

theorem unanswered_failures (requests : List Request) {failure : Failure}
    (kind : failure.isReply = false) :
    ∀ notice ∈ requests.map fun request => request.fail failure, notice.Unanswered := by
  intro notice mem
  obtain ⟨request, -, rfl⟩ := List.mem_map.1 mem
  exact kind

/-- Notices of requests that have ended without a reply were put behind what was there. -/
def Adds (before after : List Notice) : Prop :=
  ∃ more, after = before ++ more ∧ ∀ notice ∈ more, notice.Unanswered

namespace Adds

variable {before middle after : List Notice}

theorem of_eq (same : after = before) : Adds before after :=
  ⟨[], by rw [same, List.append_nil], List.forall_mem_nil _⟩

theorem failures (before : List Notice) (requests : List Request) {failure : Failure}
    (kind : failure.isReply = false) :
    Adds before (before ++ requests.map fun request => request.fail failure) :=
  ⟨_, rfl, unanswered_failures requests kind⟩

theorem trans (first : Adds before middle) (second : Adds middle after) : Adds before after := by
  obtain ⟨early, rfl, kind⟩ := first
  obtain ⟨late, rfl, kind'⟩ := second
  exact ⟨early ++ late, List.append_assoc _ _ _, List.forall_mem_append.2 ⟨kind, kind'⟩⟩

theorem allLent (h : Adds before after) : Notice.allLent after = Notice.allLent before := by
  obtain ⟨more, rfl, kind⟩ := h
  have nothing : Notice.allLent more = 0 := by
    refine List.sum_eq_zero fun lent mem => ?_
    obtain ⟨notice, hnotice, rfl⟩ := List.mem_map.1 mem
    exact (kind notice hnotice).lent
  rw [allLent_append, nothing, add_zero]

/-- Whatever was not there before is about a request that has ended without a reply. -/
theorem unanswered (h : Adds before after) {notice : Notice} (mem : notice ∈ after)
    (new : notice ∉ before) : notice.Unanswered := by
  obtain ⟨more, rfl, kind⟩ := h
  exact kind notice ((List.mem_append.1 mem).resolve_left new)

end Adds

end Notice

/-- A session that holds neither buffers nor a request. -/
structure Session.Bare (session : Session) : Prop where
  buffers : session.assembler.held = []
  request : session.held = none

namespace Client

/-- The notices that were not given away: still to be told, or kept for the holders of promises. -/
def undelivered (client : Client) : List Notice :=
  client.posted ++ client.rejected ++ client.mailbox

/-- The buffers that readers and responses hold. -/
def holding (client : Client) : Multiset Nat :=
  (client.sessions.map Session.lent).sum + Notice.allLent client.undelivered

/-- No session that is not connected holds anything. -/
def Vacant (client : Client) : Prop :=
  ∀ (n : Nat) session, client.sessions[n]? = some session → session.Vacant

/-- The session of this number, if it is there, holds nothing. -/
def Empty (client : Client) (n : Nat) : Prop :=
  ∀ session, client.sessions[n]? = some session → session.Bare

/-- Where notices are kept, and which were told. -/
def files (client : Client) : List Notice × List Notice × List Notice × List Notice :=
  (client.posted, client.rejected, client.mailbox, client.told)

/-! ## Steps without readers -/

/-- Nothing is read: the pool is left alone, sessions change only where they hold nothing, and no
request ends with a reply. -/
structure Leaves (client next : Client) : Prop where
  pool : next.pool = client.pool
  readers : (next.sessions.map Session.lent).sum = (client.sessions.map Session.lent).sum
  /-- A session is as it was, or it holds nothing. -/
  sessions : ∀ (n : Nat) session, next.sessions[n]? = some session →
    session.Bare ∨ client.sessions[n]? = some session
  posted : Notice.Adds client.posted next.posted
  rejected : Notice.Adds client.rejected next.rejected
  mailbox : Notice.Adds client.mailbox next.mailbox
  told : next.told = client.told

namespace Leaves

variable {client middle next : Client}

theorem of_same (pool : next.pool = client.pool) (sessions : next.sessions = client.sessions)
    (files : next.files = client.files) : client.Leaves next := by
  simp only [Client.files, Prod.mk.injEq] at files
  obtain ⟨posted, rejected, mailbox, told⟩ := files
  exact ⟨pool, by rw [sessions], fun n session hs => .inr (by rw [← sessions]; exact hs),
    .of_eq posted, .of_eq rejected, .of_eq mailbox, told⟩

theorem refl (client : Client) : client.Leaves client := .of_same rfl rfl rfl

theorem trans (first : client.Leaves middle) (second : middle.Leaves next) :
    client.Leaves next where
  pool := second.pool.trans first.pool
  readers := second.readers.trans first.readers
  sessions := fun n session hs => (second.sessions n session hs).elim .inl (first.sessions n session)
  posted := first.posted.trans second.posted
  rejected := first.rejected.trans second.rejected
  mailbox := first.mailbox.trans second.mailbox
  told := second.told.trans first.told

theorem holding (h : client.Leaves next) : next.holding = client.holding := by
  simp only [Client.holding, undelivered, Notice.allLent_append]
  rw [h.readers, h.posted.allLent, h.rejected.allLent, h.mailbox.allLent]

theorem vacant (h : client.Leaves next) (vacant : client.Vacant) : next.Vacant := by
  intro n session hs
  rcases h.sessions n session hs with bare | same
  · exact fun _ => bare.buffers
  · exact vacant n session same

theorem empty (h : client.Leaves next) {n : Nat} (empty : client.Empty n) : next.Empty n := by
  intro session hs
  exact (h.sessions n session hs).elim id (empty session)

theorem traded (h : client.Leaves next) :
    Traded client.pool client.holding next.pool next.holding := by
  rw [h.pool, h.holding]
  exact .refl

/-- Whatever is put down is about a request that has ended without a reply. -/
theorem unanswered (h : client.Leaves next) {notice : Notice} (mem : notice ∈ next.notices)
    (new : notice ∉ client.notices) : notice.Unanswered := by
  rw [notices, List.mem_append, List.mem_append] at mem new
  rw [not_or, not_or] at new
  rcases mem with (posted | rejected) | told
  · exact h.posted.unanswered posted new.1.1
  · exact h.rejected.unanswered rejected new.1.2
  · rw [h.told] at told
    exact absurd told new.2

/-- A session that holds nothing is put back with nothing. -/
theorem set {n : Nat} {session session' : Session} (found : client.sessions[n]? = some session)
    (bare : session.Bare) (bare' : session'.Bare)
    (sessions : next.sessions = client.sessions.set n session') (pool : next.pool = client.pool)
    (files : next.files = client.files) : client.Leaves next := by
  have same : session'.lent = session.lent := by
    rw [Session.lent, Session.lent, bare.buffers, bare'.buffers]
  have put : client.Leaves { client with sessions := client.sessions.set n session' } := by
    refine ⟨rfl, ?_, fun m other hs => ?_, .of_eq rfl, .of_eq rfl, .of_eq rfl, rfl⟩
    · exact congrArg List.sum (map_set_of_eq Session.lent found same)
    · rcases getElem?_set_cases hs with ⟨-, rfl⟩ | ⟨-, hs⟩
      · exact .inl bare'
      · exact .inr hs
  exact put.trans (.of_same pool sessions files)

/-- New sessions come with nothing. -/
theorem append {fresh : List Session} (bare : ∀ session ∈ fresh, session.Bare)
    (sessions : next.sessions = client.sessions ++ fresh) (pool : next.pool = client.pool)
    (files : next.files = client.files) : client.Leaves next := by
  have nothing : (fresh.map Session.lent).sum = 0 := by
    refine List.sum_eq_zero fun lent mem => ?_
    obtain ⟨session, hs, rfl⟩ := List.mem_map.1 mem
    rw [Session.lent, (bare session hs).buffers, serials_nil]
  have more : client.Leaves { client with sessions := client.sessions ++ fresh } := by
    refine ⟨rfl, ?_, fun m other hs => ?_, .of_eq rfl, .of_eq rfl, .of_eq rfl, rfl⟩
    · simp only [List.map_append, List.sum_append, nothing, add_zero]
    · rcases getElem?_append_cases hs with old | ⟨-, mem⟩
      · exact .inr old
      · exact .inl (bare other mem)
  exact more.trans (.of_same pool sessions files)

/-- Listeners are to be told of requests that failed. -/
theorem postFailures (client : Client) (requests : List Request) {failure : Failure}
    (kind : failure.isReply = false) : client.Leaves (client.postFailures requests failure) :=
  ⟨rfl, rfl, fun _ _ hs => .inr hs, .failures _ _ kind, .of_eq rfl, .of_eq rfl, rfl⟩

theorem reject (client : Client) (requests : List Request) {failure : Failure}
    (kind : failure.isReply = false) : client.Leaves (client.reject requests failure) :=
  ⟨rfl, rfl, fun _ _ hs => .inr hs, .of_eq rfl, .failures _ _ kind, .of_eq rfl, rfl⟩

/-! ### Sending -/

theorem failQueue (client : Client) (index : Nat) (connection : Connection) {failure : Failure}
    (kind : failure.isReply = false) :
    client.Leaves (client.failQueue index connection failure) := by
  have put : client.Leaves (client.putConnection index connection.drainQueue.2) :=
    .of_same rfl rfl rfl
  exact put.trans (reject _ _ kind)

theorem tryChannel (client : Client) (index : Nat) (connection : Connection) (plan : ChannelPlan) :
    client.Leaves (client.tryChannel index connection plan) := by
  have unused (session : Session) (bare : session.Bare) :
      client.Leaves { client with sessions := client.sessions ++ [session] } :=
    append (List.forall_mem_singleton.2 bare) rfl rfl rfl
  unfold Client.tryChannel
  split
  · exact failQueue _ _ _ rfl
  · simp only
    split
    · exact (unused _ ⟨rfl, rfl⟩).trans (failQueue _ _ _ rfl)
    · split
      · have bare : (client.newSession index connection.target plan).Bare := ⟨rfl, rfl⟩
        exact append (List.forall_mem_singleton.2 bare) rfl rfl rfl
      · exact (unused _ ⟨rfl, rfl⟩).trans (failQueue _ _ _ rfl)

theorem establish (client : Client) (index : Nat) (connection : Connection) :
    client.Leaves (client.establish index connection) := by
  unfold Client.establish
  split
  · exact failQueue _ _ _ rfl
  · simp only
    generalize hasked : takePlan _ = planned
    have asked : client.Leaves planned.2 := by
      rw [← hasked, takePlan_eq]
      exact .of_same rfl rfl rfl
    exact asked.trans (tryChannel _ _ _ _)

theorem submit (client : Client) (request : Request) : client.Leaves (client.submit request) := by
  have seated : client.Leaves (client.connectionFor request.info.target).2 := by
    unfold connectionFor
    split <;> exact .of_same rfl rfl rfl
  unfold Client.submit
  simp only
  split
  · exact seated
  · split
    · exact seated.trans (reject _ _ rfl)
    · split
      · exact seated.trans (.of_same rfl rfl rfl)
      · exact seated.trans (.of_same rfl rfl rfl)
      · exact seated.trans (establish _ _ _)

/-- A call that cannot be encoded is too large. -/
theorem isReply_of_encode {header : CallHeader} {credentials : Option Message} {failure : Failure}
    (encoded : header.encode credentials = .error failure) : failure.isReply = false := by
  unfold CallHeader.encode CallHeader.encodeCredentials at encoded
  cases credentials with
  | none => cases encoded
  | some message =>
    simp only at encoded
    split at encoded
    · cases encoded
      rfl
    · cases encoded

theorem send (client : Client) (call : Call) : client.Leaves (client.send call) := by
  have counted : client.Leaves client.countCall := .of_same rfl rfl rfl
  unfold Client.send
  simp only
  split
  · rename_i failure encoded
    exact counted.trans (reject _ _ (isReply_of_encode encoded))
  · exact counted.trans (submit _ _)

/-! ### Turns of the loop -/

theorem retireAndFail (client : Client) (index : Nat) (reason : CloseReason) :
    client.Leaves (client.retireAndFail index reason) := by
  cases hc : client.connections[index]? with
  | none =>
    rw [retireAndFail_eq_self hc]
    exact refl client
  | some connection =>
    let emptied : Connection :=
      { connection.drain.2.requestClose reason with evicted := true }
    have put : client.Leaves (client.putConnection index emptied) := .of_same rfl rfl rfl
    rw [retireAndFail_eq hc]
    exact put.trans (postFailures _ _ (reason.isReply_failure connection.endpoint))

theorem takeExpired (client : Client) (index : Nat) :
    client.Leaves (client.takeExpired index).2 := by
  cases hc : client.connections[index]? with
  | none =>
    rw [takeExpired_eq_self hc]
    exact refl client
  | some connection =>
    rw [takeExpired_eq hc]
    exact .of_same rfl rfl rfl

theorem spawn (client : Client) (n : Nat) (empty : client.Empty n) :
    client.Leaves (client.spawn n) := by
  cases hs : client.sessions[n]? with
  | none =>
    unfold Client.spawn
    rw [hs]
    exact refl client
  | some session =>
    have bare := empty session hs
    rw [spawn_eq hs]
    have taken : ({ session with phase := .finishing false } : Session).Bare :=
      ⟨bare.buffers, bare.request⟩
    exact set hs bare taken rfl rfl rfl

theorem discard (client : Client) (n : Nat) (empty : client.Empty n) :
    client.Leaves (client.discard n) := by
  unfold Client.discard
  cases hs : client.sessions[n]? with
  | none => exact refl client
  | some session =>
    let ended : Session := { session with channel := session.channel.close, phase := .closed }
    have bare := empty session hs
    have bare' : ended.Bare := ⟨bare.buffers, bare.request⟩
    have closed : client.Leaves (client.putSession n ended) := set hs bare bare' rfl rfl rfl
    simp only
    split
    · exact closed
    · rename_i connection _
      have drained : client.Leaves ((client.putSession n ended).putConnection session.connection
          connection.drain.2) := closed.trans (.of_same rfl rfl rfl)
      exact drained.trans (postFailures _ _ rfl)

theorem letGo (client : Client) (n : Nat) (empty : client.Empty n) :
    client.Leaves (client.letGo n) := by
  unfold Client.letGo
  cases hs : client.sessions[n]? with
  | none => exact refl client
  | some session =>
    have bare := empty session hs
    have bare' : session.letGo.Bare := ⟨bare.buffers, bare.request⟩
    exact set hs bare bare' rfl rfl rfl

/-- The loop leaves the pool alone, when the sessions that are not taken up hold nothing. -/
theorem turnRelation : TurnRelation Leaves Empty where
  refl := refl
  trans first second := first.trans second
  fresh leaves before := leaves.empty before
  noted same := by
    rw [same]
    exact .of_same rfl rfl rfl
  retired := retireAndFail
  expired := takeExpired
  failed client requests := postFailures client requests rfl
  spawned := spawn
  discarded := discard

/-! ### Other actions -/

theorem notify (client : Client) (index : Nat) : client.Leaves (client.notify index) := by
  unfold Client.notify
  split
  · split <;> exact .of_same rfl rfl rfl
  · exact refl client

theorem shutdown (client : Client) : client.Leaves client.shutdown := by
  have flagged : client.Leaves { client with shuttingDown := true } := .of_same rfl rfl rfl
  unfold Client.shutdown
  simp only
  split
  · exact flagged.trans (turnRelation.failOutstanding _)
  · exact flagged

theorem elapse (client : Client) (duration : Duration) : client.Leaves (client.elapse duration) :=
  .of_same rfl rfl rfl

theorem addPlan (client : Client) (plan : ChannelPlan) : client.Leaves (client.addPlan plan) :=
  .of_same rfl rfl rfl

end Leaves

/-- The sessions that were not taken up hold nothing. -/
theorem Orderly.empty {client : Client} (h : client.Orderly) (vacant : client.Vacant) :
    ∀ n ∈ client.registrations, client.Empty n := by
  intro n mem session hs
  obtain ⟨other, found, phase⟩ := (h.awaiting.2 n).1 mem
  rw [hs] at found
  cases found
  have unlinked : session.phase.link ≠ .connected := by
    rw [phase]
    simp [SessionPhase.link]
  refine ⟨vacant n session hs unlinked, ?_⟩
  by_contra held
  exact unlinked (h.sound.holding n session hs held)

theorem Leaves.abandonLoop {client : Client} (orderly : client.Orderly)
    (vacant : client.Vacant) : client.Leaves client.abandonLoop :=
  turnRelation.abandonLoop letGo client (orderly.empty vacant)

theorem Leaves.start {client : Client} (orderly : client.Orderly) (vacant : client.Vacant)
    (setup : LoopSetup) : client.Leaves (client.start setup).2 := by
  have abandoned := abandonLoop orderly vacant
  unfold Client.start
  split
  · exact refl client
  · split
    · exact refl client
    · cases setup with
      | ready => exact .of_same rfl rfl rfl
      | failed cause => exact abandoned
      | exited => exact abandoned

theorem Leaves.turn {client : Client} (orderly : client.Orderly) (vacant : client.Vacant) :
    client.Leaves client.turn := by
  unfold Client.turn
  cases hturn : client.turn? with
  | none => exact .refl client
  | some next =>
    exact turnRelation.turned (turned_of_turn? hturn) (orderly.empty vacant)

end Client

end RemoteCall
