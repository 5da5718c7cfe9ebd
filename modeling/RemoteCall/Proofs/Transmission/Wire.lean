import RemoteCall.Connection
import RemoteCall.Proofs.Transmission.Step

/-!
# What goes over the wire

Requests are appended to a send queue, a sweep removes them from its head, the channel is slow,
fails, ends or recovers, and the transmitter writes, all in any order and between any two steps of
writing. The bytes that the channel has accepted are the records of the requests that were taken up
and fit, one after the other, up to the byte at which the transmitter goes on.
-/
namespace RemoteCall

/-- How a request left the send queue. -/
inductive Departure where
  | popped (request : Request)
  | swept (request : Request)
  deriving DecidableEq, Repr

namespace Departure

def request : Departure → Request
  | popped request => request
  | swept request => request

/-- The request, if the transmitter has taken it up. -/
def popped? : Departure → Option Request
  | popped request => some request
  | swept _ => none

end Departure

namespace Transmitter

/-- The request that a step passed on as written completely. -/
def Effect.passed : Effect → List Request
  | .transmitted request => [request]
  | _ => []

/-- The notice of the request that a step refused. -/
def Effect.notices : Effect → List Notice
  | .refused request failure => [request.fail failure]
  | _ => []

end Transmitter

/-- A connection with its transmitter and the side that it writes to, and what became of the
requests so far: in which order they left the queue, and which were passed on or refused. -/
structure Sender where
  connection : Connection
  transmitter : Transmitter := {}
  side : Outbound := {}
  departed : List Departure := []
  transmitted : List Request := []
  notices : List Notice := []

namespace Sender

/-- What happens to a sender. The channel may change between any two steps. -/
inductive Incident where
  | append (request : Request)
  | sweep (timeout : Duration) (now : Instant)
  | budget (room : Option Nat)
  | fail (cause : Option IoError)
  | finish (on : Bool)
  /-- The bytes written are counted, and the count starts over. -/
  | count
  | step (now : Instant)
  | flush (now : Instant)

/-- The requests that are appended. -/
def Incident.requests : Incident → List Request
  | append request => [request]
  | _ => []

/-- The requests that a schedule appends, in order. -/
def appended (schedule : List Incident) : List Request := schedule.flatMap Incident.requests

/-- The requests at the head of a queue that are not in it any more when `later` is left. -/
def gone (queue later : List Request) : List Request := queue.take (queue.length - later.length)

theorem gone_append (first later : List Request) : gone (first ++ later) later = first := by
  rw [gone, List.length_append, Nat.add_sub_cancel, List.take_left]

@[simp] theorem gone_self (queue : List Request) : gone queue queue = [] := gone_append [] queue

@[simp] theorem gone_cons (request : Request) (later : List Request) :
    gone (request :: later) later = [request] := gone_append [request] later

def work (sender : Sender) : Transmitter.Work :=
  ⟨sender.transmitter, sender.connection.queue, sender.side⟩

/-- Take over the outcome of writing. -/
def settle (sender : Sender) (next : Transmitter.Work) (transmitted : List Request)
    (notices : List Notice) : Sender where
  connection := { sender.connection with queue := next.queue }
  transmitter := next.transmitter
  side := next.side
  departed := sender.departed ++ (gone sender.connection.queue next.queue).map .popped
  transmitted := sender.transmitted ++ transmitted
  notices := sender.notices ++ notices

/-- One step of writing. -/
def step (sender : Sender) (now : Instant) : Sender :=
  let (effect, next) := sender.work.step now
  sender.settle next effect.passed effect.notices

def handle (sender : Sender) : Incident → Sender
  | .append request => { sender with connection := sender.connection.enqueue request }
  | .sweep timeout now =>
      let connection := (sender.connection.takeExpired timeout now).2
      { sender with
        connection := connection
        departed :=
          sender.departed ++ (gone sender.connection.queue connection.queue).map .swept }
  | .budget room => { sender with side := { sender.side with budget := room } }
  | .fail cause => { sender with side := { sender.side with failure := cause } }
  | .finish on => { sender with side := { sender.side with ended := on } }
  | .count => { sender with transmitter := sender.transmitter.takeSent.2 }
  | .step now => sender.step now
  | .flush now =>
      let flush := Transmitter.flush sender.work now
      sender.settle flush.work flush.transmitted flush.notices

/-- A sender on a new channel after a schedule. -/
def after (connection : Connection) (schedule : List Incident) : Sender :=
  schedule.foldl handle { connection := connection }

section

variable (sender : Sender)

/-- The requests that the transmitter has taken up, in order. -/
def popped : List Request := sender.departed.filterMap Departure.popped?

/-- Those of them whose records go over the wire. -/
def carried : List Request := sender.popped.filter Request.fits

/-- Those of them that are too large. -/
def oversized : List Request := sender.popped.filter (!·.fits)

/-- The request that is being written. -/
def underway : List Request := (sender.transmitter.current.map Cursor.request).toList

/-- The part of its record that was accepted. -/
def begun : Bytes := ((sender.transmitter.current.map Cursor.begun).toList).flatten

end

section

variable {sender : Sender} {cursor : Cursor}

theorem underway_of_none (free : sender.transmitter.current = none) : sender.underway = [] := by
  simp [underway, free]

theorem underway_of_some (busy : sender.transmitter.current = some cursor) :
    sender.underway = [cursor.request] := by
  simp [underway, busy]

theorem begun_of_none (free : sender.transmitter.current = none) : sender.begun = [] := by
  simp [begun, free]

theorem begun_of_some (busy : sender.transmitter.current = some cursor) :
    sender.begun = cursor.begun := by
  simp [begun, busy]

end

/-! ## A flush is a number of steps -/

theorem queue_of_step {work next : Transmitter.Work} {now : Instant} {effect : Transmitter.Effect}
    (h : work.step now = (effect, next)) : next.queue <:+ work.queue := by
  have wrote := work.wrote_step now
  rw [h] at wrote
  cases wrote with
  | idle | stopped | moved | transmitted => exact List.suffix_refl _
  | started free queue fits =>
    rw [queue]
    exact List.suffix_cons _ _
  | refused free queue large =>
    rw [queue]
    exact List.suffix_cons _ _

theorem settle_settle {sender : Sender} {next last : Transmitter.Work}
    (first : next.queue <:+ sender.connection.queue) (second : last.queue <:+ next.queue)
    (transmitted later : List Request) (notices others : List Notice) :
    (sender.settle next transmitted notices).settle last later others =
      sender.settle last (transmitted ++ later) (notices ++ others) := by
  obtain ⟨a, first⟩ := first
  obtain ⟨b, second⟩ := second
  have split : gone sender.connection.queue last.queue =
      gone sender.connection.queue next.queue ++ gone next.queue last.queue := by
    rw [← first, gone_append, ← second, gone_append, ← List.append_assoc, gone_append]
  simp only [settle, split, List.map_append, List.append_assoc]

theorem step_eq {sender : Sender} {now : Instant} {effect : Transmitter.Effect}
    {next : Transmitter.Work} (h : sender.work.step now = (effect, next)) :
    sender.step now = sender.settle next effect.passed effect.notices := by
  rw [step, h]

/-- A step and then a number of steps. -/
theorem exists_steps_succ {sender : Sender} {now : Instant} {effect : Transmitter.Effect}
    {next last : Transmitter.Work} {later : List Request} {others : List Notice}
    (h : sender.work.step now = (effect, next)) (suffix : last.queue <:+ next.queue)
    (rest : ∃ n, (sender.step now).settle last later others = (step · now)^[n] (sender.step now)) :
    ∃ n, sender.settle last (effect.passed ++ later) (effect.notices ++ others) =
      (step · now)^[n] sender := by
  obtain ⟨n, steps⟩ := rest
  refine ⟨n + 1, ?_⟩
  rw [Function.iterate_succ_apply, ← steps, step_eq h, settle_settle (queue_of_step h) suffix]

/-- Writing until the queue is empty or the channel stops is a number of steps. -/
theorem exists_steps_of_flush (sender : Sender) (now : Instant) :
    ∃ n, sender.handle (.flush now) = (step · now)^[n] sender := by
  have run (work : Transmitter.Work) : (Transmitter.flush work now).work.queue <:+ work.queue ∧
      ∀ sender : Sender, sender.work = work →
        ∃ n, sender.settle (Transmitter.flush work now).work
          (Transmitter.flush work now).transmitted (Transmitter.flush work now).notices =
            (step · now)^[n] sender := by
    fun_induction Transmitter.flush work now with
    | case1 work why next h =>
      refine ⟨queue_of_step h, fun sender same => ⟨1, ?_⟩⟩
      rw [← same] at h
      exact (step_eq h).symm
    | case2 work next h ih | case3 work next h ih | case4 work request failure next h later ih
    | case5 work request next h later ih =>
      refine ⟨ih.1.trans (queue_of_step h), fun sender same => ?_⟩
      rw [← same] at h
      exact exists_steps_succ h ih.1 (ih.2 _ (by rw [step_eq h]; rfl))
  exact (run sender.work).2 sender rfl

/-! ## The invariant -/

/-- A request is passed on as it was taken up, but for the time of sending. -/
def SentAs (request passed : Request) : Prop := ∃ now, passed = request.markSent now

theorem SentAs.record_eq {request passed : Request} (h : SentAs request passed) :
    passed.record = request.record := by
  obtain ⟨now, rfl⟩ := h
  exact request.record_markSent now

/-- What was put into the queue is accounted for, and the channel has accepted the records that were
passed on and the beginning of the one under way. -/
structure Sound (sender : Sender) (queued : List Request) : Prop where
  order : queued = sender.departed.map Departure.request ++ sender.connection.queue
  valid : ∀ cursor, sender.transmitter.current = some cursor → cursor.Valid
  carried : ∃ done, sender.carried = done ++ sender.underway ∧
    List.Forall₂ SentAs done sender.transmitted
  accepted : sender.side.accepted = sender.transmitted.flatMap Request.record ++ sender.begun
  notices : sender.notices = sender.oversized.map fun request => request.fail request.oversize

theorem popped_settle (sender : Sender) (next : Transmitter.Work) (transmitted : List Request)
    (notices : List Notice) : (sender.settle next transmitted notices).popped =
      sender.popped ++ gone sender.connection.queue next.queue := by
  simp only [popped, settle, List.filterMap_append, List.filterMap_map]
  congr 1
  exact List.filterMap_some

theorem carried_settle (sender : Sender) (next : Transmitter.Work) (transmitted : List Request)
    (notices : List Notice) : (sender.settle next transmitted notices).carried =
      sender.carried ++ (gone sender.connection.queue next.queue).filter Request.fits := by
  rw [carried, popped_settle, List.filter_append, ← carried]

theorem oversized_settle (sender : Sender) (next : Transmitter.Work) (transmitted : List Request)
    (notices : List Notice) : (sender.settle next transmitted notices).oversized =
      sender.oversized ++ (gone sender.connection.queue next.queue).filter (!·.fits) := by
  rw [oversized, popped_settle, List.filter_append, ← oversized]

theorem settle_work (sender : Sender) : sender.settle sender.work [] [] = sender := by
  simp only [settle, work, gone_self, List.map_nil, List.append_nil]

section

variable {sender : Sender} {queued : List Request}

/-- The head of the queue is taken off, and nothing is passed on. -/
theorem Sound.order_settle (h : sender.Sound queued) {next : Transmitter.Work}
    (suffix : next.queue <:+ sender.connection.queue) (transmitted : List Request)
    (notices : List Notice) :
    queued = (sender.settle next transmitted notices).departed.map Departure.request ++
      next.queue := by
  obtain ⟨first, split⟩ := suffix
  have same : Departure.request ∘ Departure.popped = id := rfl
  rw [h.order, settle, ← split, gone_append, List.map_append, List.map_map, same, List.map_id,
    List.append_assoc]

theorem Sound.step (h : sender.Sound queued) (now : Instant) : (sender.step now).Sound queued := by
  obtain ⟨done, carried, passed⟩ := h.carried
  have accepted := h.accepted
  have wrote := sender.work.wrote_step now
  generalize hstep : sender.work.step now = answer at wrote
  obtain ⟨effect, next⟩ := answer
  have order := h.order_settle (queue_of_step hstep) effect.passed effect.notices
  have carries := sender.carried_settle next effect.passed effect.notices
  have leaves := sender.oversized_settle next effect.passed effect.notices
  rw [step_eq hstep]
  rw [carried] at carries
  cases wrote with
  | idle | stopped =>
    show (sender.settle sender.work [] []).Sound queued
    rw [settle_work]
    exact h
  | started free queue fits =>
    rename_i request later
    have free : sender.transmitter.current = none := free
    have queue : sender.connection.queue = request :: later := queue
    rw [begun_of_none free, List.append_nil] at accepted
    rw [underway_of_none free, List.append_nil] at carries
    refine ⟨order, fun cursor busy => ?_, ⟨done, ?_, ?_⟩, ?_, ?_⟩
    · cases busy
      exact Cursor.valid_fresh fits
    · rw [carries, underway_of_some (by rfl), queue]
      simp [fits, Cursor.fresh]
    · simpa [settle, Transmitter.Effect.passed] using passed
    · rw [begun_of_some (by rfl)]
      simpa [settle, work, Cursor.begun, Cursor.fresh, Transmitter.Effect.passed] using accepted
    · rw [leaves, queue]
      simp [settle, Transmitter.Effect.notices, fits, h.notices]
  | refused free queue large =>
    rename_i request later
    have queue : sender.connection.queue = request :: later := queue
    refine ⟨order, h.valid, ⟨done, ?_, ?_⟩, ?_, ?_⟩
    · rw [carries, queue]
      simp [large, underway, settle, work]
    · simpa [settle, Transmitter.Effect.passed] using passed
    · simpa [settle, work, begun, Transmitter.Effect.passed] using accepted
    · rw [leaves, queue]
      simp [settle, Transmitter.Effect.notices, large, h.notices]
  | transmitted busy complete =>
    rename_i cursor
    have busy : sender.transmitter.current = some cursor := busy
    rw [begun_of_some busy, (h.valid cursor busy).begun_of_complete complete] at accepted
    refine ⟨order, (by rintro - ⟨⟩), ⟨done ++ [cursor.request], ?_, ?_⟩, ?_, ?_⟩
    · rw [carries, underway_of_some busy, underway_of_none (by rfl)]
      simp [work]
    · exact List.rel_append passed (.cons ⟨now, rfl⟩ .nil)
    · rw [begun_of_none (by rfl)]
      simp [settle, Transmitter.Effect.passed, work, accepted]
    · rw [leaves]
      simp [work, settle, Transmitter.Effect.notices, h.notices]
  | moved busy more moved pos le =>
    rename_i cursor count side
    have busy : sender.transmitter.current = some cursor := busy
    have valid := h.valid cursor busy
    rw [begun_of_some busy] at accepted
    refine ⟨order, fun other next => ?_, ⟨done, ?_, ?_⟩, ?_, ?_⟩
    · cases next
      exact valid.advance le
    · rw [carries, underway_of_some busy, underway_of_some (by rfl)]
      simp [work, Cursor.advance]
    · simpa [settle, Transmitter.Effect.passed] using passed
    · rw [begun_of_some (by rfl), valid.begun_advance le]
      simp [settle, Transmitter.Effect.passed, moved, work, accepted]
    · rw [leaves]
      simp [work, settle, Transmitter.Effect.notices, h.notices]

theorem Sound.steps (h : sender.Sound queued) (now : Instant) (n : Nat) :
    ((Sender.step · now)^[n] sender).Sound queued := by
  induction n generalizing sender with
  | zero => exact h
  | succ n ih =>
    rw [Function.iterate_succ_apply]
    exact ih (h.step now)

theorem Sound.handle (h : sender.Sound queued) (incident : Incident) :
    (sender.handle incident).Sound (queued ++ incident.requests) := by
  cases incident with
  | append request =>
    refine ⟨?_, h.valid, h.carried, h.accepted, h.notices⟩
    rw [h.order]
    exact List.append_assoc ..
  | sweep timeout now =>
    show (sender.handle (.sweep timeout now)).Sound (queued ++ [])
    rw [List.append_nil]
    let expired := fun (request : Request) => request.isExpired timeout now
    let kept := sender.connection.queue.dropWhile expired
    let swept := sender.connection.queue.takeWhile expired
    have split : swept ++ kept = sender.connection.queue := List.takeWhile_append_dropWhile
    have one : gone sender.connection.queue kept = swept := by rw [← split, gone_append]
    have same : Departure.request ∘ Departure.swept = id := rfl
    have popped : (sender.handle (.sweep timeout now)).popped = sender.popped := by
      show ((sender.departed ++ (gone sender.connection.queue kept).map Departure.swept).filterMap
        Departure.popped?) = _
      rw [List.filterMap_append, List.filterMap_map, ← Sender.popped]
      exact (congrArg (sender.popped ++ ·) (List.filterMap_none ..)).trans (List.append_nil _)
    refine ⟨?_, h.valid, ?_, h.accepted, ?_⟩
    · show queued = (sender.departed ++ (gone sender.connection.queue kept).map Departure.swept).map
        Departure.request ++ kept
      rw [h.order, one, List.map_append, List.map_map, same, List.map_id, List.append_assoc, split]
    · rw [Sender.carried, popped]
      exact h.carried
    · rw [Sender.oversized, popped]
      exact h.notices
  | budget room | fail cause | finish on | count =>
    show Sound _ (queued ++ [])
    rw [List.append_nil]
    exact ⟨h.order, h.valid, h.carried, h.accepted, h.notices⟩
  | step now =>
    show Sound _ (queued ++ [])
    rw [List.append_nil]
    exact h.step now
  | flush now =>
    show Sound _ (queued ++ [])
    rw [List.append_nil]
    obtain ⟨n, steps⟩ := sender.exists_steps_of_flush now
    rw [steps]
    exact h.steps now n

/-- Whatever the schedule, the sender is sound for what was queued at first or appended. -/
theorem sound_after (connection : Connection) (schedule : List Incident) :
    (after connection schedule).Sound (connection.queue ++ appended schedule) := by
  have run (schedule : List Incident) : ∀ (sender : Sender) (queued : List Request),
      sender.Sound queued → (schedule.foldl Sender.handle sender).Sound (queued ++ appended schedule) := by
    induction schedule with
    | nil =>
      intro sender queued h
      rw [appended, List.flatMap_nil, List.append_nil]
      exact h
    | cons incident later ih =>
      intro sender queued h
      have next := ih (sender.handle incident) _ (h.handle incident)
      rw [List.append_assoc] at next
      exact next
  exact run schedule _ _ ⟨rfl, by rintro - ⟨⟩, ⟨[], rfl, .nil⟩, rfl, rfl⟩

/-! ## Where the channel stands in the records -/

/-- The records of the requests that were taken up and fit, in order. -/
def stream (sender : Sender) : Bytes := sender.carried.flatMap Request.record

theorem flatMap_record {done passed : List Request} (h : List.Forall₂ SentAs done passed) :
    passed.flatMap Request.record = done.flatMap Request.record := by
  induction h with
  | nil => rfl
  | cons same _ ih => rw [List.flatMap_cons, List.flatMap_cons, same.record_eq, ih]

theorem Sound.exists_split (h : sender.Sound queued) :
    ∃ done, sender.carried = done ++ sender.underway ∧
      List.Forall₂ SentAs done sender.transmitted ∧
      sender.side.accepted = done.flatMap Request.record ++ sender.begun := by
  obtain ⟨done, carried, passed⟩ := h.carried
  refine ⟨done, carried, passed, ?_⟩
  rw [h.accepted, flatMap_record passed]

/-- The channel has accepted the beginning of the stream. -/
theorem Sound.accepted_prefix (h : sender.Sound queued) :
    sender.side.accepted <+: sender.stream := by
  obtain ⟨done, carried, -, accepted⟩ := h.exists_split
  rw [accepted, stream, carried, List.flatMap_append]
  refine (List.prefix_append_right_inj _).2 ?_
  cases busy : sender.transmitter.current with
  | none =>
    rw [begun_of_none busy]
    exact List.nil_prefix
  | some cursor =>
    rw [begun_of_some busy, underway_of_some busy, List.flatMap_singleton]
    exact List.take_prefix _ _

/-- What is offered next are bytes of the stream that come right after those accepted. -/
theorem Sound.offer (h : sender.Sound queued) {cursor : Cursor}
    (busy : sender.transmitter.current = some cursor) (more : cursor.isComplete = false) :
    cursor.remainingSegment ≠ [] ∧
      cursor.remainingSegment <+: sender.stream.drop sender.side.accepted.length := by
  obtain ⟨done, carried, -, accepted⟩ := h.exists_split
  have valid := h.valid cursor busy
  refine ⟨Cursor.remainingSegment_ne_nil more, ?_⟩
  have rest : sender.stream.drop sender.side.accepted.length =
      cursor.request.record.drop cursor.written := by
    rw [accepted, stream, carried, List.flatMap_append, begun_of_some busy, List.length_append,
      valid.length_begun, List.drop_length_add_append, underway_of_some busy,
      List.flatMap_singleton]
  rw [rest]
  exact valid.remainingSegment_prefix

/-- A record is accepted to its last byte when its request was passed on or is about to be. -/
theorem Sound.record_accepted_iff (h : sender.Sound queued) {k : Nat}
    (le : k ≤ sender.carried.length) :
    ((sender.carried.take k).flatMap Request.record).length ≤ sender.side.accepted.length ↔
      k ≤ sender.transmitted.length ∨ k = sender.transmitted.length + 1 ∧
        ∃ cursor, sender.transmitter.current = some cursor ∧ cursor.isComplete = true := by
  obtain ⟨done, carried, passed, accepted⟩ := h.exists_split
  have count := passed.length_eq
  rw [accepted, List.length_append, ← count]
  by_cases early : k ≤ done.length
  · have whole : (done.flatMap Request.record).length =
        ((done.take k).flatMap Request.record).length +
          ((done.drop k).flatMap Request.record).length := by
      rw [← List.length_append, ← List.flatMap_append, List.take_append_drop]
    rw [carried, List.take_append_of_le_length early]
    exact ⟨fun _ => .inl early, fun _ => by omega⟩
  · -- Only the record under way is left, and the channel has accepted `cursor.written` of its bytes.
    rw [carried, List.length_append] at le
    cases busy : sender.transmitter.current with
    | none =>
      rw [underway_of_none busy, List.length_nil] at le
      omega
    | some cursor =>
      have valid := h.valid cursor busy
      rw [underway_of_some busy, List.length_singleton] at le
      have last : k = done.length + 1 := by omega
      have all : sender.carried.take k = done ++ [cursor.request] := by
        rw [carried, underway_of_some busy, List.take_of_length_le]
        rw [List.length_append, List.length_singleton, last]
      rw [all, begun_of_some busy, valid.length_begun, List.flatMap_append,
        List.flatMap_singleton, List.length_append, valid.length_record]
      have complete : cursor.isComplete = true ↔ cursor.totalLength ≤ cursor.written := by
        rw [Cursor.isComplete, decide_eq_true_iff]
      constructor
      · intro le
        exact .inr ⟨last, cursor, rfl, complete.2 (by omega)⟩
      · rintro (le | ⟨-, other, same, ends⟩)
        · exact absurd le early
        · cases same
          have := complete.1 ends
          omega

end

/-- The step after the last byte of a record passes its request on, and writes nothing. -/
theorem step_of_complete {sender : Sender} {cursor : Cursor}
    (busy : sender.transmitter.current = some cursor) (complete : cursor.isComplete = true)
    (now : Instant) :
    (sender.step now).transmitted = sender.transmitted ++ [cursor.request.markSent now] ∧
      (sender.step now).side = sender.side := by
  have wrote : sender.work.step now = (.transmitted (cursor.request.markSent now),
      { sender.work with transmitter := { sender.work.transmitter with current := none } }) := by
    rw [Transmitter.Work.step, show sender.work.transmitter.current = some cursor from busy]
    simp only [Transmitter.Work.push, if_pos complete]
  rw [step_eq wrote]
  exact ⟨rfl, rfl⟩

/-- Writing goes on until the queue is empty, unless the channel stops it within a record. -/
theorem flush_stops (work : Transmitter.Work) (now : Instant) :
    let flush := Transmitter.flush work now
    (flush.why = .idle ∧ flush.work.queue = [] ∧ flush.work.transmitter.current = none) ∨
      (flush.work.side.refusal = some flush.why ∧
        ∃ cursor, flush.work.transmitter.current = some cursor ∧ cursor.isComplete = false) := by
  intro flush
  show _ ∨ _
  simp only [flush]
  fun_induction Transmitter.flush work now with
  | case1 work why next h =>
    have wrote := work.wrote_step now
    rw [h] at wrote
    cases wrote with
    | idle free queue => exact .inl ⟨rfl, queue, free⟩
    | stopped busy more refusal => exact .inr ⟨refusal, _, busy, more⟩
  | case2 work next h ih | case3 work next h ih | case4 work request failure next h later ih
  | case5 work request next h later ih => exact ih

theorem after_steps (connection : Connection) (schedule : List Incident) (now : Instant) (n : Nat) :
    after connection (schedule ++ List.replicate n (.step now)) =
      (step · now)^[n] (after connection schedule) := by
  rw [after, List.foldl_append, ← after]
  generalize after connection schedule = sender
  induction n generalizing sender with
  | zero => rfl
  | succ n ih =>
    rw [List.replicate_succ, List.foldl_cons, Function.iterate_succ_apply]
    exact ih (sender.step now)

/-- At every moment of every schedule the requests have left the queue in its order, and the channel
has accepted a beginning of the records of those that were taken up and fit. These are passed on in
order, each once its last byte is accepted and not before; the others are refused and leave no
byte. What the channel is offered continues right behind what it has accepted, and a flush stops
only when nothing is left or within a record that the channel refuses to take more of. -/
theorem wire_follows_queue (connection : Connection) (schedule : List Incident) :
    let sender := after connection schedule
    connection.queue ++ appended schedule =
      sender.departed.map Departure.request ++ sender.connection.queue ∧
    sender.side.accepted <+: sender.stream ∧
    (∃ done, sender.carried = done ++ sender.underway ∧
      List.Forall₂ SentAs done sender.transmitted) ∧
    (∀ k ≤ sender.carried.length,
      ((sender.carried.take k).flatMap Request.record).length ≤ sender.side.accepted.length ↔
        k ≤ sender.transmitted.length ∨ k = sender.transmitted.length + 1 ∧
          ∃ cursor, sender.transmitter.current = some cursor ∧ cursor.isComplete = true) ∧
    sender.notices = sender.oversized.map (fun request => request.fail request.oversize) ∧
    (∀ cursor, sender.transmitter.current = some cursor →
      (cursor.isComplete = false → cursor.remainingSegment ≠ [] ∧
        cursor.remainingSegment <+: sender.stream.drop sender.side.accepted.length) ∧
      (cursor.isComplete = true → ∀ now, (sender.step now).side = sender.side ∧
        (sender.step now).transmitted = sender.transmitted ++ [cursor.request.markSent now])) ∧
    ∀ now,
      let flush := Transmitter.flush sender.work now
      (∃ n, sender.handle (.flush now) =
        after connection (schedule ++ List.replicate n (.step now))) ∧
      ((flush.why = .idle ∧ flush.work.queue = [] ∧ flush.work.transmitter.current = none) ∨
        flush.work.side.refusal = some flush.why ∧
          ∃ cursor, flush.work.transmitter.current = some cursor ∧ cursor.isComplete = false) := by
  intro sender
  have sound : sender.Sound (connection.queue ++ appended schedule) :=
    sound_after connection schedule
  refine ⟨sound.order, sound.accepted_prefix, sound.carried,
    fun k le => sound.record_accepted_iff le, sound.notices, fun cursor busy => ⟨?_, ?_⟩,
    fun now => ⟨?_, flush_stops sender.work now⟩⟩
  · exact sound.offer busy
  · intro complete now
    exact (step_of_complete busy complete now).symm
  · obtain ⟨n, steps⟩ := sender.exists_steps_of_flush now
    exact ⟨n, by rw [steps, after_steps]⟩

end Sender

end RemoteCall
