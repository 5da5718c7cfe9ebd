import RemoteCall.BufferPool
import RemoteCall.Channel
import RemoteCall.Fragment.Header

/-!
# Reassembly of records

The assembler reads a channel without blocking. It fills the four header bytes, borrows a buffer of
exactly the announced length and fills it; the body of the last fragment completes the record. It
can stop anywhere, for want of bytes or because of an error, and goes on at the same byte. A header
that announces more than the limit is kept and refused again at every call until a reset.
-/
namespace RemoteCall.Fragment

/-- A fragment whose body is arriving: its buffer and the bytes received for it, latest first. -/
structure Arrival where
  buffer : Buffer
  received : Bytes
  filled : Nat
  isLast : Bool
  deriving DecidableEq, Repr

namespace Arrival

def start (buffer : Buffer) (isLast : Bool) : Arrival := ⟨buffer, [], 0, isLast⟩

def size (arrival : Arrival) : Nat := arrival.buffer.size

/-- More bytes of the body have come in. -/
def push (arrival : Arrival) (moved : Bytes) : Arrival :=
  { arrival with
    received := moved.reverse ++ arrival.received
    filled := arrival.filled + moved.length }

/-- The buffer with the received bytes in front of what it held before. -/
def toBuffer (arrival : Arrival) : Buffer := arrival.buffer.write arrival.received.reverse

end Arrival

/-- What the assembler is filling: the header of the next fragment, or a body. -/
inductive Phase where
  | header (bytes : Bytes)
  | body (arrival : Arrival)
  deriving DecidableEq, Repr

structure Assembler where
  limit : UInt32 := defaultLimit
  phase : Phase := .header []
  finished : List Buffer := []
  received : Nat := 0
  deriving DecidableEq, Repr

/-- What reading towards the next record came to. -/
inductive Reading where
  | record (fragments : List Buffer)
  | wouldBlock
  | ended
  | failed (cause : IoError)
  | overLimit (length : UInt32)
  deriving DecidableEq, Repr

namespace Assembler

/-- The buffer of the fragment that is arriving, if one is. -/
def arriving (assembler : Assembler) : Option Buffer :=
  match assembler.phase with
  | .header _ => none
  | .body arrival => some arrival.toBuffer

/-- The buffers that the assembler holds, in order of arrival. -/
def held (assembler : Assembler) : List Buffer :=
  assembler.finished.reverse ++ assembler.arriving.toList

/-- The number of fragments of the record under way, the arriving one included. -/
def pendingFragments (assembler : Assembler) : Nat :=
  assembler.finished.length + assembler.arriving.toList.length

theorem length_held (assembler : Assembler) :
    assembler.held.length = assembler.pendingFragments := by
  simp [held, pendingFragments]

/-- An assembler with the pool it borrows from and the side it reads. -/
structure Work where
  assembler : Assembler
  pool : BufferPool
  side : Inbound

/-- The outcome of one step: an answer, or nothing yet. -/
abbrev Step := Option Reading × Work

namespace Work

/-- The header is complete: refuse it, or borrow the buffer of its fragment. -/
def openFragment (work : Work) (header : Bytes) : Step :=
  let parsed := Header.ofWord (Bytes.toWord header)
  if work.assembler.limit < parsed.length then (some (.overLimit parsed.length), work)
  else
    let (buffer, pool) := work.pool.acquire parsed.length.toNat
    (none,
      { work with
        assembler := { work.assembler with phase := .body (.start buffer parsed.isLast) }
        pool := pool })

/-- Read header bytes. -/
def fillHeader (work : Work) (header : Bytes) : Step :=
  match work.side.read (headerSize - header.length) with
  | (.moved bytes, side) =>
      let filled := header ++ bytes
      let next : Work :=
        { work with
          assembler :=
            { work.assembler with
              phase := .header filled
              received := work.assembler.received + bytes.length }
          side := side }
      if filled.length < headerSize then (none, next) else next.openFragment filled
  | (.wouldBlock, side) => (some .wouldBlock, { work with side := side })
  | (.ended, side) => (some .ended, { work with side := side })
  | (.failed cause, side) => (some (.failed cause), { work with side := side })

/-- The body is complete: hand out the record, or go on to the next header. -/
def closeFragment (work : Work) (arrival : Arrival) : Step :=
  let fragments := arrival.toBuffer :: work.assembler.finished
  if arrival.isLast then
    (some (.record fragments.reverse),
      { work with assembler := { work.assembler with phase := .header [], finished := [] } })
  else
    (none,
      { work with assembler := { work.assembler with phase := .header [], finished := fragments } })

/-- Read body bytes; a body that is full is closed without touching the channel. -/
def fillBody (work : Work) (arrival : Arrival) : Step :=
  if arrival.filled < arrival.size then
    match work.side.read (arrival.size - arrival.filled) with
    | (.moved bytes, side) =>
        (none,
          { work with
            assembler :=
              { work.assembler with
                phase := .body (arrival.push bytes)
                received := work.assembler.received + bytes.length }
            side := side })
    | (.wouldBlock, side) => (some .wouldBlock, { work with side := side })
    | (.ended, side) => (some .ended, { work with side := side })
    | (.failed cause, side) => (some (.failed cause), { work with side := side })
  else work.closeFragment arrival

def step (work : Work) : Step :=
  match work.assembler.phase with
  | .header bytes => work.fillHeader bytes
  | .body arrival => work.fillBody arrival

/-- What is left to do: reads that can still move bytes, and steps between reads. -/
def measure (work : Work) : Nat :=
  3 * work.side.weight +
    match work.assembler.phase with
    | .body _ => 1
    | .header bytes => if bytes.length < headerSize then 0 else 2

theorem measure_openFragment (work : Work) (header : Bytes)
    (h : (work.openFragment header).1 = none) :
    (work.openFragment header).2.measure = 3 * work.side.weight + 1 := by
  unfold openFragment at h ⊢
  simp only at h ⊢
  split at h
  · simp at h
  · rename_i hlimit
    rw [if_neg hlimit]
    rfl

theorem measure_fillHeader_lt (work : Work) (header : Bytes)
    (hphase : work.assembler.phase = .header header) (h : (work.fillHeader header).1 = none) :
    (work.fillHeader header).2.measure < work.measure := by
  have hm : work.measure =
      3 * work.side.weight + if header.length < headerSize then 0 else 2 := by
    simp [measure, hphase]
  have hle := Inbound.read_weight work.side (headerSize - header.length)
  have hlt := Inbound.read_weight_lt work.side (headerSize - header.length)
  rw [hm]
  unfold fillHeader at h ⊢
  cases hread : work.side.read (headerSize - header.length) with
  | mk transfer side =>
    rw [hread] at h hle hlt
    cases transfer with
    | moved bytes =>
      simp only at h hle hlt ⊢
      split at h
      · rename_i hshort
        rw [if_pos hshort]
        have hadd : header.length + bytes.length < headerSize := by simpa using hshort
        have := hlt (by omega) bytes rfl
        simp only [measure, if_pos hshort]
        omega
      · rename_i hfull
        rw [if_neg hfull, measure_openFragment _ _ h]
        by_cases hs : header.length < headerSize
        · have := hlt (by omega) bytes rfl
          simp only
          omega
        · rw [if_neg hs]
          simp only
          omega
    | wouldBlock => simp at h
    | ended => simp at h
    | failed cause => simp at h

theorem measure_fillBody_lt (work : Work) (arrival : Arrival)
    (hphase : work.assembler.phase = .body arrival) (h : (work.fillBody arrival).1 = none) :
    (work.fillBody arrival).2.measure < work.measure := by
  have hm : work.measure = 3 * work.side.weight + 1 := by simp [measure, hphase]
  rw [hm]
  unfold fillBody at h ⊢
  split at h
  · rename_i hfill
    rw [if_pos hfill]
    have hlt := Inbound.read_weight_lt work.side (arrival.size - arrival.filled) (by omega)
    cases hread : work.side.read (arrival.size - arrival.filled) with
    | mk transfer side =>
      rw [hread] at h hlt
      cases transfer with
      | moved bytes =>
        have := hlt bytes rfl
        simp only [measure] at this ⊢
        omega
      | wouldBlock => simp at h
      | ended => simp at h
      | failed cause => simp at h
  · rename_i hfull
    rw [if_neg hfull]
    unfold closeFragment at h ⊢
    simp only at h ⊢
    split at h
    · simp at h
    · rename_i hlast
      rw [if_neg hlast]
      simp [measure, headerSize]

/-- A step without an answer leaves less to do. -/
theorem measure_step_lt (work : Work) (h : work.step.1 = none) :
    work.step.2.measure < work.measure := by
  unfold step at h ⊢
  split
  · rename_i bytes hphase
    rw [hphase] at h
    exact measure_fillHeader_lt work bytes hphase h
  · rename_i arrival hphase
    rw [hphase] at h
    exact measure_fillBody_lt work arrival hphase h

/-- Step until there is an answer. -/
def run (work : Work) : Reading × Work :=
  match _h : work.step with
  | (some reading, next) => (reading, next)
  | (none, next) => run next
termination_by work.measure
decreasing_by
  have := measure_step_lt work (by rw [_h])
  rw [_h] at this
  exact this

end Work

/-- Read towards the next record. -/
def read (assembler : Assembler) (pool : BufferPool) (side : Inbound) : Reading × Work :=
  Work.run ⟨assembler, pool, side⟩

/-- The number of bytes read since this was last asked, and an assembler that starts over. -/
def takeReceived (assembler : Assembler) : Nat × Assembler :=
  (assembler.received, { assembler with received := 0 })

/-- Give up the record under way. Its buffers go back to the pool; the count of bytes stays. -/
def reset (assembler : Assembler) (pool : BufferPool) : Assembler × BufferPool :=
  ({ assembler with phase := .header [], finished := [] }, pool.releaseAll assembler.held)

def debugText (assembler : Assembler) : String :=
  let (state, filled) :=
    match assembler.phase with
    | .header bytes => ("Header", bytes.length)
    | .body arrival =>
        ("Body \x7b filled: " ++ toString arrival.filled ++ ", is_last: "
          ++ (if arrival.isLast then "true" else "false") ++ " \x7d", 0)
  "FragmentReader \x7b state: " ++ state ++ ", header_filled: " ++ toString filled
    ++ ", fragments: " ++ toString assembler.pendingFragments ++ " \x7d"

end Assembler

def Reading.debugText : Reading → String
  | record fragments => "Record(" ++ toString fragments.length ++ " fragments)"
  | wouldBlock => "WouldBlock"
  | _ => "Eof"

/-- The failure behind a reading that failed. -/
def Reading.failure? (limit : UInt32) : Reading → Option Failure
  | failed cause => some (.io cause)
  | overLimit length => some (Header.overLimit length limit)
  | _ => none

end RemoteCall.Fragment
