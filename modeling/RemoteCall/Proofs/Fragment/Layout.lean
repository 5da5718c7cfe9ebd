import RemoteCall.Proofs.Fragment.Delivery

/-!
# An assembler in memory

In memory an assembler has four cells for a header and a list of buffers, the newest last. Counters
say how far the header and the newest buffer are filled, and a read is given what follows of them. A
counter may be beyond the end, and the list may be empty while a body is awaited: then there is
nothing that could be given. Called over any channel, such an assembler takes the same steps as
`Assembler`, which knows no such states.
-/
namespace RemoteCall

/-- Put `new` over the bytes behind the first `offset`; what does not fit is dropped. -/
def Buffer.overwrite (buffer : Buffer) (offset : Nat) (new : Bytes) : Buffer :=
  { buffer with
    stored := (buffer.bytes.take offset ++ new ++ buffer.stored.drop (offset + new.length)).take
      buffer.size }

@[simp] theorem Buffer.size_overwrite (buffer : Buffer) (offset : Nat) (new : Bytes) :
    (buffer.overwrite offset new).size = buffer.size := rfl

/-- What was put in follows what was there before. -/
theorem Buffer.take_bytes_overwrite {buffer : Buffer} {offset : Nat} {new : Bytes}
    (h : offset + new.length ≤ buffer.size) :
    (buffer.overwrite offset new).bytes.take (offset + new.length) =
      buffer.bytes.take offset ++ new := by
  have front : (buffer.bytes.take offset ++ new).length = offset + new.length := by
    simp only [List.length_append, List.length_take, length_bytes]
    omega
  have stored : (buffer.overwrite offset new).stored.take (offset + new.length) =
      buffer.bytes.take offset ++ new := by
    rw [overwrite, List.take_take, Nat.min_eq_left h, ← front, List.take_left]
  have long : offset + new.length ≤ (buffer.overwrite offset new).stored.length := by
    have := congrArg List.length stored
    rw [front, List.length_take] at this
    omega
  rw [bytes, size_overwrite, List.take_append_of_le_length, List.take_take, Nat.min_eq_left h,
    stored]
  rw [List.length_take]
  omega

/-- Bytes that were written follow one another. -/
theorem Buffer.overwrite_write {buffer : Buffer} {first new : Bytes}
    (h : first.length + new.length ≤ buffer.size) :
    (buffer.write first).overwrite first.length new = buffer.write (first ++ new) := by
  have front : (buffer.write first).bytes.take first.length = first := by
    have stored : (buffer.write first).stored.take first.length = first := by
      rw [write, List.take_take, Nat.min_eq_left (by omega), List.take_left]
    have long := congrArg List.length stored
    rw [List.length_take] at long
    rw [bytes, size_write, List.take_append_of_le_length (by rw [List.length_take]; omega),
      List.take_take, Nat.min_eq_left (by omega), stored]
  have back : (buffer.write first).stored.drop (first.length + new.length) =
      (buffer.stored.drop (first.length + new.length)).take
        (buffer.size - (first.length + new.length)) := by
    rw [write, List.drop_take, List.drop_append, List.drop_eq_nil_of_le (Nat.le_add_right _ _),
      Nat.add_sub_cancel_left, List.drop_drop, List.nil_append]
  have whole : (first ++ new).length = first.length + new.length := List.length_append
  have stored : ((first ++ new) ++ (buffer.stored.drop (first.length + new.length)).take
      (buffer.size - (first.length + new.length))).take buffer.size =
      ((first ++ new) ++ buffer.stored.drop (first ++ new).length).take buffer.size := by
    rw [@List.take_append _ (first ++ new), @List.take_append _ (first ++ new), whole,
      List.take_take, Nat.min_self]
  rw [overwrite, front, back]
  exact congrArg (Buffer.mk buffer.serial buffer.size) stored

namespace Fragment

/-- What is being filled: the header, or a body that is filled so far. -/
inductive Stage where
  | header
  | body (filled : Nat) (isLast : Bool)
  deriving DecidableEq, Repr

structure Layout where
  cells : Bytes := [0, 0, 0, 0]
  headerFilled : Nat := 0
  stage : Stage := .header
  /-- The newest comes last. -/
  fragments : List Buffer := []
  limit : UInt32
  received : Nat := 0
  deriving DecidableEq, Repr

/-- The room in cells behind the first `start`, unless there are fewer. -/
def room? (size start : Nat) : Option Nat := if start ≤ size then some (size - start) else none

namespace Layout

/-- More bytes of the header have come in. -/
def fillHeader (layout : Layout) (moved : Bytes) : Layout :=
  { layout with
    cells := layout.cells.take layout.headerFilled ++ moved ++
      layout.cells.drop (layout.headerFilled + moved.length)
    headerFilled := layout.headerFilled + moved.length
    received := layout.received + moved.length }

/-- The header is complete, and its body goes into a buffer. -/
def openBody (layout : Layout) (buffer : Buffer) (isLast : Bool) : Layout :=
  { layout with
    headerFilled := 0
    stage := .body 0 isLast
    fragments := layout.fragments ++ [buffer] }

/-- More bytes of the newest body have come in. -/
def fillBody (layout : Layout) (current : Buffer) (filled : Nat) (isLast : Bool) (moved : Bytes) :
    Layout :=
  { layout with
    stage := .body (filled + moved.length) isLast
    fragments := layout.fragments.dropLast ++ [current.overwrite filled moved]
    received := layout.received + moved.length }

/-- Start over with the count of bytes. -/
def takeReceived (layout : Layout) : Layout := { layout with received := 0 }

/-- Give up the record under way. -/
def reset (layout : Layout) : Layout :=
  { layout with headerFilled := 0, stage := .header, fragments := [] }

end Layout

/-- A laid out assembler with its pool and its channel. -/
structure Bench (σ : Type) where
  layout : Layout
  pool : BufferPool
  channel : σ

/-- What one turn comes to: an answer, another turn, with the bytes of a body that came in, or
nothing, because a read would have to begin beyond the end. -/
inductive Turn (σ : Type) where
  | answered (reading : Reading) (next : Bench σ)
  | again (body : Bytes) (next : Bench σ)
  | outOfRange

namespace Bench

variable {σ : Type} (read : σ → Nat → Transfer Bytes × σ)

/-- The header is complete: refuse it, or borrow a buffer. -/
def openBody (bench : Bench σ) : Turn σ :=
  let parsed := Header.ofWord (Bytes.toWord bench.layout.cells)
  if bench.layout.limit < parsed.length then .answered (.overLimit parsed.length) bench
  else
    let (buffer, pool) := bench.pool.acquire parsed.length.toNat
    .again []
      { bench with layout := bench.layout.openBody (buffer.write []) parsed.isLast, pool := pool }

def headerTurn (bench : Bench σ) : Turn σ :=
  match room? bench.layout.cells.length bench.layout.headerFilled with
  | none => .outOfRange
  | some room =>
      match read bench.channel room with
      | (.moved bytes, channel) =>
          let next : Bench σ :=
            { bench with layout := bench.layout.fillHeader bytes, channel := channel }
          if next.layout.headerFilled < headerSize then .again [] next else next.openBody
      | (.wouldBlock, channel) => .answered .wouldBlock { bench with channel := channel }
      | (.ended, channel) => .answered .ended { bench with channel := channel }
      | (.failed cause, channel) => .answered (.failed cause) { bench with channel := channel }

/-- The newest body is complete: hand out the record, or go on to the next header. -/
def closeBody (bench : Bench σ) (isLast : Bool) : Turn σ :=
  if isLast then
    .answered (.record bench.layout.fragments)
      { bench with layout := { bench.layout with stage := .header, fragments := [] } }
  else .again [] { bench with layout := { bench.layout with stage := .header } }

def bodyTurn (bench : Bench σ) (filled : Nat) (isLast : Bool) : Turn σ :=
  match bench.layout.fragments.getLast? with
  | none => .again [] { bench with layout := { bench.layout with stage := .header } }
  | some current =>
      if filled < current.size then
        match room? current.size filled with
        | none => .outOfRange
        | some room =>
            match read bench.channel room with
            | (.moved bytes, channel) =>
                .again bytes
                  { bench with
                    layout := bench.layout.fillBody current filled isLast bytes
                    channel := channel }
            | (.wouldBlock, channel) => .answered .wouldBlock { bench with channel := channel }
            | (.ended, channel) => .answered .ended { bench with channel := channel }
            | (.failed cause, channel) =>
                .answered (.failed cause) { bench with channel := channel }
      else bench.closeBody isLast

def turn (bench : Bench σ) : Turn σ :=
  match bench.layout.stage with
  | .header => bench.headerTurn read
  | .body filled isLast => bench.bodyTurn read filled isLast

/-- Take turns until there is an answer, at most so many. -/
def callWithin : Nat → Bench σ → Option (Reading × Bench σ)
  | 0, _ => none
  | rounds + 1, bench =>
      match bench.turn read with
      | .answered reading next => some (reading, next)
      | .again _ next => callWithin rounds next
      | .outOfRange => none

end Bench

/-! ## The same assembler -/

/-- A layout of an assembler: the cells behind the header and the buffers behind what was received
hold anything. -/
inductive Lays (layout : Layout) (assembler : Assembler) : Prop where
  | header {bytes : Bytes} (phase : assembler.phase = .header bytes)
      (stage : layout.stage = .header) (filled : layout.headerFilled = bytes.length)
      (cells : layout.cells.take bytes.length = bytes) (whole : layout.cells.length = headerSize)
      (fragments : layout.fragments = assembler.finished.reverse)
      (limit : layout.limit = assembler.limit) (received : layout.received = assembler.received) :
      Lays layout assembler
  | body {arrival : Arrival} (phase : assembler.phase = .body arrival)
      (stage : layout.stage = .body arrival.filled arrival.isLast)
      (filled : layout.headerFilled = 0) (whole : layout.cells.length = headerSize)
      (fragments : layout.fragments = assembler.finished.reverse ++ [arrival.toBuffer])
      (length : arrival.received.length = arrival.filled) (fits : arrival.filled ≤ arrival.size)
      (limit : layout.limit = assembler.limit) (received : layout.received = assembler.received) :
      Lays layout assembler

theorem lays_new (limit : UInt32) : Lays { limit } { limit } :=
  .header rfl rfl rfl rfl rfl rfl rfl rfl

theorem Lays.takeReceived {layout : Layout} {assembler : Assembler} (h : Lays layout assembler) :
    Lays layout.takeReceived assembler.takeReceived.2 := by
  cases h with
  | header phase stage filled cells whole fragments limit received =>
    exact .header phase stage filled cells whole fragments limit rfl
  | body phase stage filled whole fragments length fits limit received =>
    exact .body phase stage filled whole fragments length fits limit rfl

theorem Lays.reset {layout : Layout} {assembler : Assembler} (h : Lays layout assembler)
    (pool : BufferPool) : Lays layout.reset (assembler.reset pool).1 := by
  cases h with
  | header phase stage filled cells whole fragments limit received =>
    exact .header rfl rfl rfl rfl whole rfl limit received
  | body phase stage filled whole fragments length fits limit received =>
    exact .header rfl rfl rfl rfl whole rfl limit received

namespace Bench

/-- A bench with the layout of an assembler, the same pool and the same channel. -/
structure Seats (bench : Bench Inbound) (work : Assembler.Work) : Prop where
  lays : Lays bench.layout work.assembler
  pool : bench.pool = work.pool
  channel : bench.channel = work.side

/-- A turn does what a step does. -/
inductive Matches : Turn Inbound → Assembler.Step → Prop where
  | answered {reading : Reading} {bench : Bench Inbound} {work : Assembler.Work}
      (seats : bench.Seats work) : Matches (.answered reading bench) (some reading, work)
  | again {body : Bytes} {bench : Bench Inbound} {work : Assembler.Work}
      (seats : bench.Seats work) : Matches (.again body bench) (none, work)

variable {bench : Bench Inbound} {work : Assembler.Work}

theorem matches_openBody {header : Bytes} (h : bench.Seats work)
    (phase : work.assembler.phase = .header header) (full : header.length = headerSize) :
    Matches bench.openBody (work.openFragment header) := by
  obtain ⟨lays, pool, channel⟩ := h
  cases lays with
  | body phase' => cases phase.symm.trans phase'
  | header phase' stage filled cells whole fragments limit received =>
    cases phase.symm.trans phase'
    have same : bench.layout.cells = header := by
      rwa [full, ← whole, List.take_length] at cells
    unfold openBody Assembler.Work.openFragment
    simp only [same, limit, pool]
    split
    · exact .answered ⟨.header phase stage filled cells whole fragments limit received, pool,
        channel⟩
    · refine .again ⟨.body rfl rfl rfl whole ?_ rfl (Nat.zero_le _) limit received, rfl, channel⟩
      exact congrArg (· ++ [_]) fragments

theorem matches_headerTurn {header : Bytes} (h : bench.Seats work)
    (phase : work.assembler.phase = .header header) :
    Matches (bench.headerTurn Inbound.read) (work.fillHeader header) := by
  obtain ⟨lays, pool, channel⟩ := h
  cases lays with
  | body phase' => cases phase.symm.trans phase'
  | header phase' stage filled cells whole fragments limit received =>
    cases phase.symm.trans phase'
    have short : header.length ≤ headerSize := by
      rw [← cells, List.length_take, whole]
      exact Nat.min_le_right _ _
    have room : room? bench.layout.cells.length bench.layout.headerFilled =
        some (headerSize - header.length) := by
      rw [whole, filled, room?, if_pos short]
    have reads := work.side.reads_read (headerSize - header.length)
    unfold headerTurn Assembler.Work.fillHeader
    simp only [room, channel]
    generalize work.side.read (headerSize - header.length) = answer at reads
    cases reads with
    | moved split fits stop =>
      rename_i bytes side
      have total : (bench.layout.fillHeader bytes).headerFilled = (header ++ bytes).length := by
        rw [Layout.fillHeader, filled, List.length_append]
      have front : (bench.layout.cells.take header.length ++ bytes).length =
          (header ++ bytes).length := by rw [cells]
      have lays : Lays (bench.layout.fillHeader bytes)
          { work.assembler with
            phase := .header (header ++ bytes)
            received := work.assembler.received + bytes.length } := by
        refine .header rfl stage total ?_ ?_ fragments limit ?_
        · rw [Layout.fillHeader, filled, ← front, List.take_left, cells]
        · rw [Layout.fillHeader, filled]
          simp only [List.length_append, List.length_take, List.length_drop, whole]
          omega
        · rw [Layout.fillHeader, received]
      simp only [total]
      split
      · exact .again ⟨lays, pool, rfl⟩
      · rename_i long
        refine matches_openBody ⟨lays, pool, rfl⟩ rfl ?_
        rw [List.length_append] at long ⊢
        omega
    | wouldBlock empty stop | ended empty stop | failed empty stop =>
      exact .answered ⟨.header phase stage filled cells whole fragments limit received, pool, rfl⟩

theorem matches_bodyTurn {arrival : Arrival} (h : bench.Seats work)
    (phase : work.assembler.phase = .body arrival) :
    Matches (bench.bodyTurn Inbound.read arrival.filled arrival.isLast)
      (work.fillBody arrival) := by
  obtain ⟨lays, pool, channel⟩ := h
  cases lays with
  | header phase' => cases phase.symm.trans phase'
  | body phase' stage filled whole fragments length fits limit received =>
    cases phase.symm.trans phase'
    have newest : bench.layout.fragments.getLast? = some arrival.toBuffer := by
      rw [fragments, List.getLast?_concat]
    have room : room? arrival.size arrival.filled = some (arrival.size - arrival.filled) :=
      if_pos fits
    have size : arrival.toBuffer.size = arrival.size := rfl
    unfold bodyTurn Assembler.Work.fillBody
    simp only [newest, room, channel, size]
    split
    · have reads := work.side.reads_read (arrival.size - arrival.filled)
      generalize work.side.read (arrival.size - arrival.filled) = answer at reads
      cases reads with
      | moved split within stop =>
        rename_i more bytes side
        refine .again ⟨.body rfl rfl filled whole ?_ ?_ ?_ limit ?_, pool, rfl⟩
        · have fits : arrival.received.reverse.length + bytes.length ≤ arrival.buffer.size := by
            rw [List.length_reverse, length]
            have : arrival.size = arrival.buffer.size := rfl
            omega
          have written := Buffer.overwrite_write fits
          rw [List.length_reverse, length] at written
          rw [Layout.fillBody, fragments, List.dropLast_concat, Arrival.toBuffer, written]
          simp [Arrival.push, Arrival.toBuffer]
        · simp only [Arrival.push, List.length_append, List.length_reverse, length]
          exact Nat.add_comm _ _
        · show arrival.filled + bytes.length ≤ arrival.size
          omega
        · rw [Layout.fillBody, received]
      | wouldBlock empty stop | ended empty stop | failed empty stop =>
        exact .answered ⟨.body phase stage filled whole fragments length fits limit received, pool,
          rfl⟩
    · unfold closeBody Assembler.Work.closeFragment
      simp only
      have closed : bench.layout.fragments =
          (arrival.toBuffer :: work.assembler.finished).reverse := by
        rw [fragments, List.reverse_cons]
      split
      · rw [closed]
        exact .answered ⟨.header rfl rfl filled rfl whole rfl limit received, pool, channel⟩
      · exact .again ⟨.header rfl rfl filled rfl whole closed limit received, pool, channel⟩

theorem matches_turn (h : bench.Seats work) : Matches (bench.turn Inbound.read) work.step := by
  unfold turn Assembler.Work.step
  cases phase : work.assembler.phase with
  | header bytes =>
    have stage : bench.layout.stage = .header := by
      cases h.lays with
      | header phase' stage => exact stage
      | body phase' => cases phase.symm.trans phase'
    rw [stage]
    exact matches_headerTurn h phase
  | body arrival =>
    have stage : bench.layout.stage = .body arrival.filled arrival.isLast := by
      cases h.lays with
      | header phase' => cases phase.symm.trans phase'
      | body phase' stage =>
        cases phase.symm.trans phase'
        exact stage
    rw [stage]
    exact matches_bodyTurn h phase

/-- Called over what has arrived, an assembler in memory answers as the assembler does that it is a
layout of, and is again a layout of it. -/
theorem callWithin_seats (h : bench.Seats work) :
    ∃ next, bench.callWithin Inbound.read (work.measure + 1) = some (work.run.1, next) ∧
      next.Seats work.run.2 := by
  have enough (rounds : Nat) (room : work.measure < rounds) :
      ∃ next, bench.callWithin Inbound.read rounds = some (work.run.1, next) ∧
        next.Seats work.run.2 := by
    induction rounds generalizing bench work with
    | zero => exact absurd room (Nat.not_lt_zero _)
    | succ rounds ih =>
      have turned := matches_turn h
      have less := work.measure_step_lt
      rw [callWithin]
      generalize hturn : bench.turn Inbound.read = turn at turned
      generalize hstep : work.step = step at turned less
      cases turned with
      | answered seats =>
        rw [Assembler.Work.run_of_answer hstep]
        exact ⟨_, rfl, seats⟩
      | again seats =>
        rw [Assembler.Work.run_of_step hstep]
        exact ih seats (by have := less rfl; simp only at this; omega)
  exact enough _ (Nat.lt_succ_self _)

end Bench

end Fragment

end RemoteCall
