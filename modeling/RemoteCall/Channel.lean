import RemoteCall.Bytes
import RemoteCall.Failure

/-!
# Channels

A channel is a byte stream to a destination, seen by its user through non-blocking calls. The
arriving side holds chunks that have come in; a read takes from the first chunk only. The departing
side accepts bytes up to a budget. Either side may fail or end. Before it is used a channel
connects, and it may ask for handshakes at any time. The channel keeps a log of those calls.
-/
namespace RemoteCall

/-- What a channel is ready for, or what is waited for. -/
structure Readiness where
  read : Bool
  write : Bool
  deriving DecidableEq, Repr

namespace Readiness

def readOnly : Readiness := ⟨true, false⟩

def writeOnly : Readiness := ⟨false, true⟩

def both : Readiness := ⟨true, true⟩

def any (readiness : Readiness) : Bool := readiness.read || readiness.write

/-- The part of a readiness that was asked for. -/
def meet (a b : Readiness) : Readiness := ⟨a.read && b.read, a.write && b.write⟩

def text (readiness : Readiness) : String :=
  (if readiness.read then "r" else "") ++ (if readiness.write then "w" else "")

end Readiness

/-- What one non-blocking read or write did. -/
inductive Transfer (α : Type) where
  | moved (amount : α)
  | wouldBlock
  | ended
  | failed (cause : IoError)
  deriving DecidableEq, Repr

/-- The arriving side of a channel. -/
structure Inbound where
  chunks : List Bytes := []
  failure : Option IoError := none
  ended : Bool := false
  deriving DecidableEq, Repr

namespace Inbound

/-- A chunk arrives; an empty one is nothing. -/
def feed (side : Inbound) (chunk : Bytes) : Inbound :=
  if chunk.isEmpty then side else { side with chunks := side.chunks ++ [chunk] }

/-- The bytes that have arrived and are not yet read. -/
def pending (side : Inbound) : Bytes := side.chunks.flatten

/-- The number of bytes not yet read. -/
def unread (side : Inbound) : Nat := side.pending.length

/-- A read returns at once: with bytes, with an error or with the end of the stream. -/
def isReadable (side : Inbound) : Bool :=
  !side.chunks.isEmpty || side.ended || side.failure.isSome

/-- Take up to `room` bytes from the first chunk. Without a chunk, an error comes before the end. -/
def read (side : Inbound) (room : Nat) : Transfer Bytes × Inbound :=
  match side.chunks with
  | chunk :: later =>
      let left := chunk.drop room
      (.moved (chunk.take room),
        { side with chunks := if left.isEmpty then later else left :: later })
  | [] =>
      match side.failure with
      | some cause => (.failed cause, side)
      | none => (if side.ended then .ended else .wouldBlock, side)

/-- What is left to do with the chunks: their number and their bytes. -/
def weight (side : Inbound) : Nat := side.chunks.length + side.unread

theorem read_weight (side : Inbound) (room : Nat) :
    (side.read room).2.weight ≤ side.weight := by
  obtain ⟨chunks, failure, ended⟩ := side
  cases chunks with
  | nil => cases failure <;> simp [read]
  | cons chunk later =>
    simp only [read, weight, unread]
    split <;>
      simp only [List.length_cons, pending, List.flatten_cons, List.length_append,
        List.length_drop] <;>
      omega

/-- A read with room for a byte that moves something leaves less to do. -/
theorem read_weight_lt (side : Inbound) (room : Nat) (hroom : 0 < room) (moved : Bytes)
    (h : (side.read room).1 = .moved moved) : (side.read room).2.weight < side.weight := by
  obtain ⟨chunks, failure, ended⟩ := side
  cases chunks with
  | nil => cases failure <;> cases ended <;> simp [read] at h
  | cons chunk later =>
    simp only [read, weight, unread]
    split
    · simp only [List.length_cons, pending, List.flatten_cons, List.length_append]; omega
    · rename_i hne
      have : room < chunk.length := by
        by_cases hc : room < chunk.length
        · exact hc
        · exact absurd (by simp [List.drop_eq_nil_of_le (Nat.le_of_not_lt hc)]) hne
      simp only [List.length_cons, pending, List.flatten_cons, List.length_append, List.length_drop]
      omega

/-- A read moves the front of what has arrived and leaves the rest. -/
theorem pending_read (side : Inbound) (room : Nat) (moved : Bytes)
    (h : (side.read room).1 = .moved moved) : side.pending = moved ++ (side.read room).2.pending := by
  obtain ⟨chunks, failure, ended⟩ := side
  cases chunks with
  | nil => cases failure <;> cases ended <;> simp [read] at h
  | cons chunk later =>
    simp only [read, Transfer.moved.injEq] at h ⊢
    subst h
    simp only [pending]
    split
    · rename_i hnil
      have hnil : chunk.drop room = [] := by simpa using hnil
      have := List.take_append_drop room chunk
      rw [hnil, List.append_nil] at this
      simp [this]
    · simp [← List.append_assoc]

/-- A read never moves more than there is room for. -/
theorem length_read_le (side : Inbound) (room : Nat) (moved : Bytes)
    (h : (side.read room).1 = .moved moved) : moved.length ≤ room := by
  obtain ⟨chunks, failure, ended⟩ := side
  cases chunks with
  | nil => cases failure <;> cases ended <;> simp [read] at h
  | cons chunk later =>
    simp only [read, Transfer.moved.injEq] at h
    subst h
    simp only [List.length_take]
    omega

end Inbound

/-- The departing side of a channel. Without a budget it accepts everything. -/
structure Outbound where
  budget : Option Nat := none
  failure : Option IoError := none
  ended : Bool := false
  segments : List Bytes := []
  deriving DecidableEq, Repr

namespace Outbound

/-- All bytes accepted so far, in order. -/
def accepted (side : Outbound) : Bytes := side.segments.reverse.flatten

/-- A write returns at once. -/
def isWritable (side : Outbound) : Bool :=
  side.budget != some 0 || side.ended || side.failure.isSome

/-- Accept what the budget allows of `offer`. An error comes first, then the end of the stream. -/
def write (side : Outbound) (offer : Bytes) : Transfer Nat × Outbound :=
  match side.failure with
  | some cause => (.failed cause, side)
  | none =>
      if side.ended then (.ended, side)
      else
        match side.budget with
        | none => (.moved offer.length, { side with segments := offer :: side.segments })
        | some 0 => (.wouldBlock, side)
        | some (room + 1) =>
            let taken := offer.take (room + 1)
            (.moved taken.length,
              { side with
                budget := some (room + 1 - taken.length)
                segments := taken :: side.segments })

/-- A write adds the front of the offer, as much as it says. -/
theorem accepted_write (side : Outbound) (offer : Bytes) (count : Nat)
    (h : (side.write offer).1 = .moved count) :
    (side.write offer).2.accepted = side.accepted ++ offer.take count := by
  obtain ⟨budget, failure, ended, segments⟩ := side
  cases failure with
  | some cause => simp [write] at h
  | none =>
    cases ended with
    | true => simp [write] at h
    | false =>
      match budget, h with
      | none, h =>
        have h : offer.length = count := by simpa [write] using h
        subst h
        simp [write, accepted]
      | some 0, h => simp [write] at h
      | some (room + 1), h =>
        have h : min (room + 1) offer.length = count := by simpa [write] using h
        subst h
        simp [write, accepted, List.take_eq_take_min]

/-- A write that moves something accepts at least one byte of an offer that has one. -/
theorem pos_of_write (side : Outbound) (offer : Bytes) (hoffer : offer ≠ []) (count : Nat)
    (h : (side.write offer).1 = .moved count) : 0 < count ∧ count ≤ offer.length := by
  have hpos : 0 < offer.length := List.length_pos_iff.2 hoffer
  obtain ⟨budget, failure, ended, segments⟩ := side
  cases failure with
  | some cause => simp [write] at h
  | none =>
    cases ended with
    | true => simp [write] at h
    | false =>
      match budget, h with
      | none, h =>
        have h : offer.length = count := by simpa [write] using h
        omega
      | some 0, h => simp [write] at h
      | some (room + 1), h =>
        have h : min (room + 1) offer.length = count := by simpa [write] using h
        omega

end Outbound

/-- Progress of a handshake. -/
inductive Handshake where
  | done
  | needRead
  | needWrite
  deriving DecidableEq, Repr

namespace Handshake

/-- What to wait for before the next attempt; nothing once done. -/
def interest : Handshake → Option Readiness
  | done => none
  | needRead => some Readiness.readOnly
  | needWrite => some Readiness.writeOnly

def text : Handshake → String
  | done => "done"
  | needRead => "need_read"
  | needWrite => "need_write"

end Handshake

/-- How the connecting of a channel stands. -/
inductive ConnectProgress where
  | pending
  | established
  | failed (cause : IoError)
  deriving DecidableEq, Repr

/-- The calls on a channel that are kept in its log. -/
inductive ChannelCall where
  | connect (destination : String)
  | finishConnect
  | handshake (observed : Readiness) (answer : Except IoError Handshake)
  | close

def ChannelCall.text : ChannelCall → String
  | connect destination => "connect " ++ destination
  | finishConnect => "finish_connect"
  | handshake observed (.ok progress) => "handshake " ++ observed.text ++ " " ++ progress.text
  | handshake observed (.error _) => "handshake " ++ observed.text ++ " error"
  | close => "close"

structure Channel where
  inbound : Inbound := {}
  outbound : Outbound := {}
  /-- Waiting for readiness fails like this. -/
  waitFailure : Option IoError := none
  progress : ConnectProgress := .established
  handshakes : List (Except IoError Handshake) := []
  shuttingDown : Bool := false
  closed : Bool := false
  log : List ChannelCall := []

namespace Channel

/-- The part of what is waited for that the channel is ready for, or why waiting for it fails. -/
def ready (channel : Channel) (interest : Readiness) : Except IoError Readiness :=
  match channel.waitFailure with
  | some cause => .error cause
  | none => .ok (interest.meet ⟨channel.inbound.isReadable, channel.outbound.isWritable⟩)

def record (channel : Channel) (call : ChannelCall) : Channel :=
  { channel with log := call :: channel.log }

def close (channel : Channel) : Channel := { channel.record .close with closed := true }

/-- Take the next planned handshake answer; with none left the handshake is done. -/
def shakeHands (channel : Channel) (observed : Readiness) : Except IoError Handshake × Channel :=
  match channel.handshakes with
  | [] => (.ok .done, channel)
  | answer :: later =>
      (answer, { channel.record (.handshake observed answer) with handshakes := later })

end Channel

end RemoteCall
