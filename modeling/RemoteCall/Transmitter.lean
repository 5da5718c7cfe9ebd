import RemoteCall.Channel
import RemoteCall.Fragment.Header
import RemoteCall.Request

/-!
# Transmission of queued requests

Each request goes out as a record of one fragment: fragment header, call header and payload. The
transmitter holds the request that is being written and how many bytes of its record the channel
has accepted, so that it goes on at the same byte whatever stopped it. A request whose body does
not fit into one fragment fails without a byte written.
-/
namespace RemoteCall

/-- The fragment header of a request body of `bodyLength` bytes. -/
def Request.recordHeader (bodyLength : Nat) : Except Failure Fragment.Header :=
  if bodyLength ≤ Fragment.longestBody.toNat then .ok ⟨UInt32.ofNat bodyLength, true⟩
  else
    .error (.requestTooLarge
      ("request body of " ++ toString bodyLength ++ " bytes does not fit in one fragment"))

/-- A request on the wire and the number of bytes accepted of its record. -/
structure Cursor where
  request : Request
  header : Fragment.Header
  written : Nat
  deriving DecidableEq, Repr

namespace Cursor

/-- The cursor at the start of a request's record. -/
def start (request : Request) : Except Failure Cursor :=
  match Request.recordHeader request.bodyLength with
  | .ok header => .ok ⟨request, header, 0⟩
  | .error failure => .error failure

def totalLength (cursor : Cursor) : Nat := Fragment.headerSize + cursor.request.bodyLength

def isComplete (cursor : Cursor) : Bool := cursor.totalLength ≤ cursor.written

/-- The parts of the record, in order. -/
def segments (cursor : Cursor) : List Bytes :=
  [cursor.header.encode, cursor.request.header, cursor.request.payload]

/-- All bytes of the record. -/
def wire (cursor : Cursor) : Bytes := cursor.segments.flatten

@[simp] theorem length_wire (cursor : Cursor) : cursor.wire.length = cursor.totalLength := by
  simp [wire, segments, totalLength, Request.bodyLength]

/-- The rest of the first segment that reaches beyond the `written` bytes. -/
def restOf (segments : List Bytes) (written : Nat) : Bytes :=
  match segments with
  | [] => []
  | segment :: later =>
      if written < segment.length then segment.drop written
      else restOf later (written - segment.length)

/-- What is offered to the channel next. -/
def remainingSegment (cursor : Cursor) : Bytes := restOf cursor.segments cursor.written

theorem restOf_eq_nil_iff (segments : List Bytes) (written : Nat) :
    restOf segments written = [] ↔ segments.flatten.length ≤ written := by
  induction segments generalizing written with
  | nil => simp [restOf]
  | cons segment later ih =>
    rw [restOf, List.flatten_cons, List.length_append]
    split
    · rename_i h
      simp only [List.drop_eq_nil_iff]
      omega
    · rw [ih]; omega

/-- There is something to offer until the record is complete. -/
theorem remainingSegment_eq_nil_iff (cursor : Cursor) :
    cursor.remainingSegment = [] ↔ cursor.isComplete := by
  rw [remainingSegment, restOf_eq_nil_iff]
  have := cursor.length_wire
  rw [wire] at this
  simp [isComplete, this]

theorem length_restOf_le (segments : List Bytes) (written : Nat) :
    (restOf segments written).length ≤ segments.flatten.length - written := by
  induction segments generalizing written with
  | nil => simp [restOf]
  | cons segment later ih =>
    rw [restOf, List.flatten_cons, List.length_append]
    split
    · simp only [List.length_drop]; omega
    · have := ih (written - segment.length); omega

end Cursor

structure Transmitter where
  current : Option Cursor := none
  sent : Nat := 0
  deriving DecidableEq, Repr

/-- Why writing stopped. -/
inductive Flushed where
  | idle
  | wouldBlock
  | ended
  | failed (cause : IoError)
  deriving DecidableEq, Repr

namespace Transmitter

/-- What one step of writing did. -/
inductive Effect where
  | stopped (why : Flushed)
  | started
  | refused (request : Request) (failure : Failure)
  | moved
  | transmitted (request : Request)
  deriving DecidableEq, Repr

/-- A transmitter with the queue it takes from and the side it writes to. -/
structure Work where
  transmitter : Transmitter
  queue : List Request
  side : Outbound
  deriving DecidableEq, Repr

namespace Work

/-- Take up the head of the queue. -/
def takeUp (work : Work) : Effect × Work :=
  match work.queue with
  | [] => (.stopped .idle, work)
  | request :: later =>
      match Cursor.start request with
      | .ok cursor =>
          (.started,
            { work with
              transmitter := { work.transmitter with current := some cursor }, queue := later })
      | .error failure => (.refused request failure, { work with queue := later })

/-- Offer the next segment to the channel, or let go of a request that is written completely. -/
def push (work : Work) (cursor : Cursor) (now : Instant) : Effect × Work :=
  if cursor.isComplete then
    (.transmitted (cursor.request.markSent now),
      { work with transmitter := { work.transmitter with current := none } })
  else
    match work.side.write cursor.remainingSegment with
    | (.moved count, side) =>
        (.moved,
          { work with
            transmitter :=
              { current := some { cursor with written := cursor.written + count }
                sent := work.transmitter.sent + count }
            side := side })
    | (.wouldBlock, side) => (.stopped .wouldBlock, { work with side := side })
    | (.ended, side) => (.stopped .ended, { work with side := side })
    | (.failed cause, side) => (.stopped (.failed cause), { work with side := side })

def step (work : Work) (now : Instant) : Effect × Work :=
  match work.transmitter.current with
  | none => work.takeUp
  | some cursor => work.push cursor now

/-- The steps that a request may still need. -/
def cost (request : Request) : Nat := Fragment.headerSize + request.bodyLength + 2

def queueCost : List Request → Nat
  | [] => 0
  | request :: later => cost request + queueCost later

/-- A bound on the steps until writing stops. -/
def measure (work : Work) : Nat :=
  queueCost work.queue +
    match work.transmitter.current with
    | none => 0
    | some cursor => cursor.totalLength - cursor.written + 1

theorem measure_takeUp_lt (work : Work) (hcur : work.transmitter.current = none)
    (h : ∀ why, work.takeUp.1 ≠ .stopped why) : work.takeUp.2.measure < work.measure := by
  unfold takeUp at h ⊢
  cases hq : work.queue with
  | nil => rw [hq] at h; exact absurd rfl (h .idle)
  | cons request later =>
    simp only [Cursor.start]
    cases Request.recordHeader request.bodyLength with
    | error failure =>
      simp only [measure, hq, queueCost, cost]
      omega
    | ok header =>
      simp only [measure, hq, hcur, queueCost, cost, Cursor.totalLength]
      omega

theorem measure_push_lt (work : Work) (cursor : Cursor) (now : Instant)
    (hcur : work.transmitter.current = some cursor)
    (h : ∀ why, (work.push cursor now).1 ≠ .stopped why) :
    (work.push cursor now).2.measure < work.measure := by
  unfold push at h ⊢
  split
  · simp only [measure, hcur]; omega
  · rename_i hcomplete
    rw [if_neg hcomplete] at h
    have hne : cursor.remainingSegment ≠ [] :=
      fun hnil => hcomplete ((Cursor.remainingSegment_eq_nil_iff cursor).1 hnil)
    have hpos := Outbound.pos_of_write work.side cursor.remainingSegment hne
    have hlt : cursor.written < cursor.totalLength := by
      simpa [Cursor.isComplete] using hcomplete
    cases hw : work.side.write cursor.remainingSegment with
    | mk transfer side =>
      rw [hw] at h hpos
      cases transfer with
      | moved count =>
        have := (hpos count rfl).1
        simp only [measure, hcur, Cursor.totalLength] at hlt ⊢
        omega
      | wouldBlock => exact absurd rfl (h .wouldBlock)
      | ended => exact absurd rfl (h .ended)
      | failed cause => exact absurd rfl (h (.failed cause))

/-- A step that does not stop leaves less to do. -/
theorem measure_step_lt (work : Work) (now : Instant)
    (h : ∀ why, (work.step now).1 ≠ .stopped why) :
    (work.step now).2.measure < work.measure := by
  unfold step at h ⊢
  split
  · rename_i hcur
    rw [hcur] at h
    exact measure_takeUp_lt work hcur h
  · rename_i cursor hcur
    rw [hcur] at h
    exact measure_push_lt work cursor now hcur h

end Work

/-- A finished flush: why it stopped, the requests written and the notices of those refused. -/
structure Flush where
  why : Flushed
  transmitted : List Request
  notices : List Notice
  work : Work
  deriving DecidableEq, Repr

/-- Write until the queue is empty or the channel stops. -/
def flush (work : Work) (now : Instant) : Flush :=
  match _h : work.step now with
  | (.stopped why, next) => ⟨why, [], [], next⟩
  | (.started, next) => flush next now
  | (.moved, next) => flush next now
  | (.refused request failure, next) =>
      let later := flush next now
      { later with notices := request.fail failure :: later.notices }
  | (.transmitted request, next) =>
      let later := flush next now
      { later with transmitted := request :: later.transmitted }
termination_by work.measure
decreasing_by
  all_goals
    have := Work.measure_step_lt work now (by rw [_h]; simp)
    rw [_h] at this
    exact this

def isBusy (transmitter : Transmitter) : Bool := transmitter.current.isSome

/-- Give up the request being written, if there is one. -/
def takeCurrent (transmitter : Transmitter) : Option Request × Transmitter :=
  (transmitter.current.map Cursor.request, { transmitter with current := none })

/-- The number of bytes written since this was last asked, and a transmitter that starts over. -/
def takeSent (transmitter : Transmitter) : Nat × Transmitter :=
  (transmitter.sent, { transmitter with sent := 0 })

/-- Why a flush of a single record of `total` bytes stops when the channel accepts `room` bytes. -/
def flushedWithin (total room : Nat) : Flushed := if total ≤ room then .idle else .wouldBlock

def debugText (transmitter : Transmitter) : String :=
  let current :=
    match transmitter.current with
    | none => "None"
    | some cursor =>
        "Some(SendCursor \x7b xid: " ++ toString cursor.request.info.xid.toNat ++ ", written: "
          ++ toString cursor.written ++ ", total: " ++ toString cursor.totalLength ++ " \x7d)"
  "RequestWriter \x7b current: " ++ current ++ ", sent: " ++ toString transmitter.sent ++ " \x7d"

end Transmitter

end RemoteCall
