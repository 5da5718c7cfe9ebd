import RemoteCall.Transmitter
import Mathlib.Tactic

/-!
# Steps of writing

The record of a request is one fragment: a word with the last flag and the length of the body, then
call header and payload. A cursor at such a record offers the bytes that follow those accepted, one
segment at a time. A step of writing takes up a request, refuses one that is too large, has the
channel accept some of what is offered, lets go of a record that is complete, or stops.
-/
namespace RemoteCall

/-! ## Records -/

namespace Request

/-- The body fits into one fragment. -/
def fits (request : Request) : Bool := request.bodyLength ≤ 2147483647

/-- The bytes of a request on the wire. -/
def record (request : Request) : Bytes :=
  Bytes.bigEndian 4 (2147483648 + request.bodyLength) ++ (request.header ++ request.payload)

/-- What is said of a request that does not fit. -/
def oversize (request : Request) : Failure :=
  .requestTooLarge
    ("request body of " ++ toString request.bodyLength ++ " bytes does not fit in one fragment")

@[simp] theorem record_markSent (request : Request) (now : Instant) :
    (request.markSent now).record = request.record := by
  unfold markSent
  split <;> rfl

end Request

namespace Cursor

/-- The cursor at the first byte of a request's record. -/
def fresh (request : Request) : Cursor := ⟨request, ⟨UInt32.ofNat request.bodyLength, true⟩, 0⟩

theorem start_of_fits {request : Request} (h : request.fits = true) :
    start request = .ok (fresh request) := by
  have small : request.bodyLength ≤ Fragment.longestBody.toNat := of_decide_eq_true h
  rw [start, Request.recordHeader, if_pos small]
  rfl

theorem start_of_not_fits {request : Request} (h : request.fits = false) :
    start request = .error request.oversize := by
  have large : ¬ request.bodyLength ≤ Fragment.longestBody.toNat := of_decide_eq_false h
  rw [start, Request.recordHeader, if_neg large]
  rfl

/-- The cursor stands within the record of a request that fits. -/
structure Valid (cursor : Cursor) : Prop where
  fits : cursor.request.fits = true
  header : cursor.header = (fresh cursor.request).header
  within : cursor.written ≤ cursor.totalLength

theorem valid_fresh {request : Request} (h : request.fits = true) : (fresh request).Valid :=
  ⟨h, rfl, Nat.zero_le _⟩

theorem Valid.segments_eq {cursor : Cursor} (h : cursor.Valid) :
    cursor.segments = [Bytes.bigEndian 4 (2147483648 + cursor.request.bodyLength),
      cursor.request.header, cursor.request.payload] := by
  have small : cursor.request.bodyLength ≤ 2147483647 := of_decide_eq_true h.fits
  have word : (fresh cursor.request).header.word.toNat =
      2147483648 + cursor.request.bodyLength := by
    rw [Fragment.Header.toNat_word]
    simp only [fresh, UInt32.toNat_ofNat', if_true]
    omega
  rw [segments, h.header, Fragment.Header.encode, Bytes.ofWord, word]

/-- What a cursor writes is the record of its request. -/
theorem Valid.wire {cursor : Cursor} (h : cursor.Valid) : cursor.wire = cursor.request.record := by
  rw [Cursor.wire, h.segments_eq, Request.record]
  simp

theorem Valid.length_record {cursor : Cursor} (h : cursor.Valid) :
    cursor.request.record.length = cursor.totalLength := by
  rw [← h.wire, length_wire]

theorem restOf_prefix (segments : List Bytes) (written : Nat) :
    restOf segments written <+: segments.flatten.drop written := by
  induction segments generalizing written with
  | nil => simp [restOf]
  | cons segment later ih =>
    rw [restOf, List.flatten_cons]
    split
    · rename_i within
      rw [List.drop_append_of_le_length within.le]
      exact List.prefix_append _ _
    · rename_i beyond
      rw [List.drop_append, List.drop_eq_nil_of_le (Nat.not_lt.1 beyond), List.nil_append]
      exact ih _

/-- What is offered are the bytes of the record that come next. -/
theorem Valid.remainingSegment_prefix {cursor : Cursor} (h : cursor.Valid) :
    cursor.remainingSegment <+: cursor.request.record.drop cursor.written := by
  rw [← h.wire]
  exact restOf_prefix _ _

theorem remainingSegment_ne_nil {cursor : Cursor} (h : cursor.isComplete = false) :
    cursor.remainingSegment ≠ [] := by
  intro nothing
  rw [(cursor.remainingSegment_eq_nil_iff).1 nothing] at h
  cases h

/-- The cursor after `count` more bytes were accepted. -/
def advance (cursor : Cursor) (count : Nat) : Cursor :=
  { cursor with written := cursor.written + count }

theorem Valid.advance {cursor : Cursor} (h : cursor.Valid) {count : Nat}
    (le : count ≤ cursor.remainingSegment.length) : (cursor.advance count).Valid := by
  refine ⟨h.fits, h.header, ?_⟩
  have rest := length_restOf_le cursor.segments cursor.written
  have whole := cursor.length_wire
  have within := h.within
  show cursor.written + count ≤ cursor.totalLength
  rw [remainingSegment] at le
  rw [Cursor.wire] at whole
  omega

/-- The part of the record that was accepted. -/
def begun (cursor : Cursor) : Bytes := cursor.request.record.take cursor.written

theorem Valid.begun_advance {cursor : Cursor} (h : cursor.Valid) {count : Nat}
    (le : count ≤ cursor.remainingSegment.length) :
    (cursor.advance count).begun = cursor.begun ++ cursor.remainingSegment.take count := by
  obtain ⟨behind, split⟩ := h.remainingSegment_prefix
  rw [begun, begun, Cursor.advance, List.take_add, ← split, List.take_append_of_le_length le]

theorem Valid.begun_of_complete {cursor : Cursor} (h : cursor.Valid)
    (complete : cursor.isComplete = true) : cursor.begun = cursor.request.record := by
  refine List.take_of_length_le ?_
  rw [h.length_record]
  exact of_decide_eq_true complete

theorem Valid.length_begun {cursor : Cursor} (h : cursor.Valid) :
    cursor.begun.length = cursor.written := by
  rw [begun, List.length_take, h.length_record]
  exact Nat.min_eq_left h.within

end Cursor

/-! ## Writes -/

namespace Outbound

/-- Why the channel accepts nothing, if it does not. -/
def refusal (side : Outbound) : Option Flushed :=
  match side.failure with
  | some cause => some (.failed cause)
  | none =>
      if side.ended then some .ended
      else if side.budget = some 0 then some .wouldBlock
      else none

/-- A write has some of the offer accepted, or stops for the reason that the channel has. -/
inductive Writes (side : Outbound) (offer : Bytes) : Transfer Nat × Outbound → Prop where
  | moved {count : Nat} {next : Outbound} (accepted : next.accepted = side.accepted ++ offer.take count)
      (pos : 0 < count) (le : count ≤ offer.length) (accepting : side.refusal = none) :
      Writes side offer (.moved count, next)
  | wouldBlock (refusal : side.refusal = some .wouldBlock) : Writes side offer (.wouldBlock, side)
  | ended (refusal : side.refusal = some .ended) : Writes side offer (.ended, side)
  | failed {cause : IoError} (refusal : side.refusal = some (.failed cause)) :
      Writes side offer (.failed cause, side)

theorem writes_write (side : Outbound) {offer : Bytes} (offered : offer ≠ []) :
    side.Writes offer (side.write offer) := by
  cases failure : side.failure with
  | some cause =>
    have stop : side.write offer = (.failed cause, side) := by
      unfold write
      rw [failure]
    rw [stop]
    exact .failed (by simp [refusal, failure])
  | none =>
    by_cases ended : side.ended = true
    · have stop : side.write offer = (.ended, side) := by
        unfold write
        simp only [failure, if_pos ended]
      rw [stop]
      exact .ended (by simp [refusal, failure, ended])
    · by_cases full : side.budget = some 0
      · have stop : side.write offer = (.wouldBlock, side) := by
          unfold write
          simp only [failure, if_neg ended, full]
        rw [stop]
        exact .wouldBlock (by simp [refusal, failure, ended, full])
      · obtain ⟨count, moved⟩ : ∃ count, (side.write offer).1 = .moved count := by
          unfold write
          simp only [failure, if_neg ended]
          split
          · exact ⟨_, rfl⟩
          · rename_i budget
            exact absurd budget full
          · exact ⟨_, rfl⟩
        have pos := side.pos_of_write offer offered count moved
        rw [← Prod.eta (side.write offer), moved]
        exact .moved (side.accepted_write offer count moved) pos.1 pos.2
          (by simp [refusal, failure, ended, full])

end Outbound

/-! ## Steps -/

namespace Transmitter.Work

/-- The kinds of steps of writing. -/
inductive Wrote (work : Work) (now : Instant) : Effect × Work → Prop where
  | idle (free : work.transmitter.current = none) (queue : work.queue = []) :
      Wrote work now (.stopped .idle, work)
  | started {request : Request} {later : List Request} (free : work.transmitter.current = none)
      (queue : work.queue = request :: later) (fits : request.fits = true) :
      Wrote work now (.started,
        { work with
          transmitter := { work.transmitter with current := some (.fresh request) }
          queue := later })
  | refused {request : Request} {later : List Request} (free : work.transmitter.current = none)
      (queue : work.queue = request :: later) (large : request.fits = false) :
      Wrote work now (.refused request request.oversize, { work with queue := later })
  | transmitted {cursor : Cursor} (busy : work.transmitter.current = some cursor)
      (complete : cursor.isComplete = true) :
      Wrote work now (.transmitted (cursor.request.markSent now),
        { work with transmitter := { work.transmitter with current := none } })
  | moved {cursor : Cursor} {count : Nat} {side : Outbound}
      (busy : work.transmitter.current = some cursor) (more : cursor.isComplete = false)
      (accepted : side.accepted = work.side.accepted ++ cursor.remainingSegment.take count)
      (pos : 0 < count) (le : count ≤ cursor.remainingSegment.length) :
      Wrote work now (.moved,
        { work with
          transmitter := ⟨some (cursor.advance count), work.transmitter.sent + count⟩
          side := side })
  | stopped {cursor : Cursor} {why : Flushed} (busy : work.transmitter.current = some cursor)
      (more : cursor.isComplete = false) (refusal : work.side.refusal = some why) :
      Wrote work now (.stopped why, work)

theorem wrote_takeUp {work : Work} (free : work.transmitter.current = none) (now : Instant) :
    work.Wrote now work.takeUp := by
  unfold takeUp
  split
  · rename_i queue
    exact .idle free queue
  · rename_i request later queue
    cases size : request.fits with
    | true =>
      rw [Cursor.start_of_fits size]
      exact .started free queue size
    | false =>
      rw [Cursor.start_of_not_fits size]
      exact .refused free queue size

theorem wrote_push {work : Work} {cursor : Cursor} (busy : work.transmitter.current = some cursor)
    (now : Instant) : work.Wrote now (work.push cursor now) := by
  unfold push
  split
  · rename_i complete
    exact .transmitted busy complete
  · rename_i more
    rw [Bool.not_eq_true] at more
    have writes := work.side.writes_write (Cursor.remainingSegment_ne_nil more)
    generalize work.side.write cursor.remainingSegment = answer at writes
    cases writes with
    | moved accepted pos le => exact .moved busy more accepted pos le
    | wouldBlock refusal => exact .stopped busy more refusal
    | ended refusal => exact .stopped busy more refusal
    | failed refusal => exact .stopped busy more refusal

/-- Every step is of one of the kinds of `Wrote`. -/
theorem wrote_step (work : Work) (now : Instant) : work.Wrote now (work.step now) := by
  unfold step
  split
  · rename_i free
    exact wrote_takeUp free now
  · rename_i cursor busy
    exact wrote_push busy now

end Transmitter.Work

end RemoteCall
