import Mathlib.Tactic
import RemoteCall.Proofs.Fragment.Layout

/-!
# Bounds of an assembler in memory

In whatever way the channel answers, an assembler in memory never reads beyond the end of a buffer
and never awaits a body without a buffer for it. All buffers but the newest are full of what was
received, so the memory that a peer can claim exceeds what it has sent by one fragment at most.
Every turn takes bytes from the channel or comes nearer to a header, so a call ends, however the
bytes that the channel holds are cut into fragments.
-/
namespace RemoteCall.Fragment

/-- The channel gives no more than there is room for. -/
def Fits {σ : Type} (read : σ → Nat → Transfer Bytes × σ) (channel : σ) : Prop :=
  ∀ room bytes, (read channel room).1 = .moved bytes → bytes.length ≤ room

/-- The bodies of the record under way are gone when it is handed out. -/
def Reading.remaining (bodies : Bytes) : Reading → Bytes
  | record _ => []
  | _ => bodies

/-- Layouts that calls over any channels with any pools lead to, each with the bytes of bodies that
were received for the record under way. -/
inductive Reachable (limit : UInt32) : Layout → Bytes → Prop where
  | new : Reachable limit { limit } []
  | again {σ : Type} {read : σ → Nat → Transfer Bytes × σ} {bench next : Bench σ}
      {bodies body : Bytes} (before : Reachable limit bench.layout bodies)
      (fits : Fits read bench.channel) (turn : bench.turn read = .again body next) :
      Reachable limit next.layout (bodies ++ body)
  | answered {σ : Type} {read : σ → Nat → Transfer Bytes × σ} {bench next : Bench σ}
      {bodies : Bytes} {reading : Reading} (before : Reachable limit bench.layout bodies)
      (fits : Fits read bench.channel) (turn : bench.turn read = .answered reading next) :
      Reachable limit next.layout (reading.remaining bodies)
  | count {layout : Layout} {bodies : Bytes} (before : Reachable limit layout bodies) :
      Reachable limit layout.takeReceived bodies
  | reset {layout : Layout} {bodies : Bytes} (before : Reachable limit layout bodies) :
      Reachable limit layout.reset []

namespace Layout

/-- The fragments are the bodies received so far, the newest one as far as it is filled. -/
inductive Holds (layout : Layout) (bodies : Bytes) : Prop where
  | header (stage : layout.stage = .header)
      (full : (layout.fragments.map Buffer.bytes).flatten = bodies) : Holds layout bodies
  | body {filled : Nat} {isLast : Bool} {earlier : List Buffer} {current : Buffer}
      (stage : layout.stage = .body filled isLast) (fresh : layout.headerFilled = 0)
      (fragments : layout.fragments = earlier ++ [current]) (within : filled ≤ current.size)
      (full : (earlier.map Buffer.bytes).flatten ++ current.bytes.take filled = bodies) :
      Holds layout bodies

/-- What holds of every layout that is reached. -/
structure Sound (layout : Layout) (limit : UInt32) (bodies : Bytes) : Prop where
  bound : layout.limit = limit
  cells : layout.cells.length = headerSize
  header : layout.headerFilled ≤ headerSize
  sizes : ∀ buffer ∈ layout.fragments, buffer.size ≤ limit.toNat
  holds : layout.Holds bodies

theorem sound_new (limit : UInt32) : Sound { limit } limit [] :=
  ⟨rfl, rfl, Nat.zero_le _, List.forall_mem_nil _, .header rfl rfl⟩

variable {layout : Layout} {limit : UInt32} {bodies : Bytes}

theorem Sound.takeReceived (h : layout.Sound limit bodies) :
    layout.takeReceived.Sound limit bodies := by
  refine ⟨h.bound, h.cells, h.header, h.sizes, ?_⟩
  cases h.holds with
  | header stage full => exact .header stage full
  | body stage fresh fragments within full => exact .body stage fresh fragments within full

theorem Sound.reset (h : layout.Sound limit bodies) : layout.reset.Sound limit [] :=
  ⟨h.bound, h.cells, Nat.zero_le _, List.forall_mem_nil _, .header rfl rfl⟩

/-- Between two bodies all buffers are full. -/
theorem Sound.full (h : layout.Sound limit bodies) (stage : layout.stage = .header) :
    (layout.fragments.map Buffer.bytes).flatten = bodies := by
  cases h.holds with
  | header stage full => exact full
  | body stage' => cases stage.symm.trans stage'

theorem Sound.fillHeader (h : layout.Sound limit bodies) (stage : layout.stage = .header)
    {moved : Bytes} (few : moved.length ≤ headerSize - layout.headerFilled) :
    (layout.fillHeader moved).Sound limit bodies := by
  have header := h.header
  refine ⟨h.bound, ?_, ?_, h.sizes, .header stage (h.full stage)⟩
  · simp only [Layout.fillHeader, List.length_append, List.length_take, List.length_drop, h.cells]
    omega
  · simp only [Layout.fillHeader]
    omega

/-- A buffer that is not longer than the limit comes behind full ones, and is empty at first. -/
theorem Sound.openBody (h : layout.Sound limit bodies) (stage : layout.stage = .header)
    {buffer : Buffer} (small : buffer.size ≤ limit.toNat) (isLast : Bool) :
    (layout.openBody buffer isLast).Sound limit bodies := by
  refine ⟨h.bound, h.cells, Nat.zero_le _, ?_, .body rfl rfl rfl (Nat.zero_le _) ?_⟩
  · intro other mem
    rcases List.mem_append.1 mem with early | newest
    · exact h.sizes other early
    · rw [List.mem_singleton.1 newest]
      exact small
  · rw [h.full stage, List.take_zero, List.append_nil]

/-- What was moved is received of the newest body. -/
theorem Sound.fillBody (h : layout.Sound limit bodies) {filled : Nat} {isLast : Bool}
    {earlier : List Buffer} {current : Buffer} (fresh : layout.headerFilled = 0)
    (fragments : layout.fragments = earlier ++ [current])
    (full : (earlier.map Buffer.bytes).flatten ++ current.bytes.take filled = bodies)
    {moved : Bytes} (few : filled + moved.length ≤ current.size) :
    (layout.fillBody current filled isLast moved).Sound limit (bodies ++ moved) := by
  have filling : (layout.fillBody current filled isLast moved).fragments =
      earlier ++ [current.overwrite filled moved] := by
    rw [Layout.fillBody, fragments, List.dropLast_concat]
  refine ⟨h.bound, h.cells, h.header, fun buffer mem => ?_, .body rfl fresh filling few ?_⟩
  · rw [filling] at mem
    rcases List.mem_append.1 mem with early | newest
    · exact h.sizes buffer (by rw [fragments]; exact List.mem_append_left _ early)
    · rw [List.mem_singleton.1 newest, Buffer.size_overwrite]
      exact h.sizes current (by rw [fragments]; exact List.mem_concat_self)
  · rw [Buffer.take_bytes_overwrite few, ← List.append_assoc, full]

/-- A body that is filled to its end is full. -/
theorem Sound.closeBody (h : layout.Sound limit bodies) {filled : Nat} {earlier : List Buffer}
    {current : Buffer} (fragments : layout.fragments = earlier ++ [current])
    (full : (earlier.map Buffer.bytes).flatten ++ current.bytes.take filled = bodies)
    (done : current.size ≤ filled) :
    ({ layout with stage := .header } : Layout).Sound limit bodies := by
  have all : current.bytes.take filled = current.bytes :=
    List.take_of_length_le (by rw [current.length_bytes]; exact done)
  refine ⟨h.bound, h.cells, h.header, h.sizes, .header rfl ?_⟩
  show (layout.fragments.map Buffer.bytes).flatten = bodies
  rw [fragments, List.map_append, List.flatten_append, List.map_singleton, List.flatten_singleton,
    ← all, full]

theorem length_flatten_bytes (buffers : List Buffer) :
    (buffers.map Buffer.bytes).flatten.length = (buffers.map Buffer.size).sum := by
  rw [List.length_flatten, List.map_map]
  exact congrArg List.sum (List.map_congr_left fun buffer _ => buffer.length_bytes)

/-- What the fragments take exceeds what was received for them by one fragment at most. -/
theorem Sound.sum_sizes_le (h : layout.Sound limit bodies) :
    (layout.fragments.map Buffer.size).sum ≤ bodies.length + limit.toNat := by
  cases h.holds with
  | header stage full =>
    rw [← full, length_flatten_bytes]
    exact Nat.le_add_right _ _
  | body stage fresh fragments within full =>
    rename_i filled isLast earlier current
    have size := h.sizes current (by rw [fragments]; exact List.mem_concat_self)
    rw [← full, List.length_append, length_flatten_bytes, fragments, List.map_append,
      List.sum_append]
    simp only [List.map_singleton, List.sum_singleton]
    omega

/-- How far a layout is from the next header. One that was refused comes last. -/
def weight (layout : Layout) : Nat :=
  match layout.stage with
  | .header => if layout.headerFilled < headerSize then 0 else 2
  | .body _ _ => 1

theorem weight_le (layout : Layout) : layout.weight ≤ 2 := by
  unfold weight
  split
  · split <;> decide
  · decide

theorem weight_of_header (stage : layout.stage = .header)
    (short : layout.headerFilled < headerSize) : layout.weight = 0 := by
  rw [weight, stage]
  exact if_pos short

theorem weight_of_body {filled : Nat} {isLast : Bool} (stage : layout.stage = .body filled isLast) :
    layout.weight = 1 := by
  rw [weight, stage]

end Layout

namespace Bench

variable {σ : Type} {read : σ → Nat → Transfer Bytes × σ} {bench next : Bench σ} {limit : UInt32}
  {bodies : Bytes}

/-- The next turn is nearer to a header, or there was room and something has moved. -/
inductive Advances (read : σ → Nat → Transfer Bytes × σ) (bench next : Bench σ) : Prop where
  | lighter (channel : next.channel = bench.channel)
      (less : next.layout.weight < bench.layout.weight)
  | moved {room : Nat} {bytes : Bytes}
      (reads : read bench.channel room = (.moved bytes, next.channel))
      (room : 0 < room ∧ next.layout.weight ≤ 1 ∨ next.layout.weight < bench.layout.weight)

/-- What a turn comes to from a sound layout. -/
inductive Turned (read : σ → Nat → Transfer Bytes × σ) (bench : Bench σ) (limit : UInt32)
    (bodies : Bytes) : Turn σ → Prop where
  | again {body : Bytes} {next : Bench σ} (sound : next.layout.Sound limit (bodies ++ body))
      (advances : Advances read bench next) : Turned read bench limit bodies (.again body next)
  | answered {reading : Reading} {next : Bench σ}
      (sound : next.layout.Sound limit (reading.remaining bodies)) :
      Turned read bench limit bodies (.answered reading next)

/-- A header that is complete is refused, or a buffer is borrowed that the limit allows. -/
theorem turned_openBody (h : next.layout.Sound limit bodies) (stage : next.layout.stage = .header)
    (advances : ∀ opened : Bench σ, opened.channel = next.channel → opened.layout.weight = 1 →
      Advances read bench opened) : Turned read bench limit bodies next.openBody := by
  unfold openBody
  simp only
  split
  · exact .answered h
  · rename_i within
    have size := BufferPool.size_acquire next.pool
      (Header.ofWord (Bytes.toWord next.layout.cells)).length.toNat
    generalize next.pool.acquire _ = lent at size
    obtain ⟨buffer, pool⟩ := lent
    have small : (buffer.write []).size ≤ limit.toNat := by
      rw [Buffer.size_write, size, ← h.bound]
      exact UInt32.not_lt.1 within
    have opened := h.openBody stage small
      (Header.ofWord (Bytes.toWord next.layout.cells)).isLast
    rw [← bodies.append_nil] at opened
    exact .again opened (advances _ rfl (Layout.weight_of_body rfl))

theorem turned_headerTurn (h : bench.layout.Sound limit bodies)
    (stage : bench.layout.stage = .header) (fits : Fits read bench.channel) :
    Turned read bench limit bodies (bench.headerTurn read) := by
  have room : room? bench.layout.cells.length bench.layout.headerFilled =
      some (headerSize - bench.layout.headerFilled) := by
    rw [h.cells, room?, if_pos h.header]
  unfold headerTurn
  simp only [room]
  generalize reads : read bench.channel (headerSize - bench.layout.headerFilled) = answer
  obtain ⟨transfer, channel⟩ := answer
  cases transfer with
  | wouldBlock | ended | failed cause => exact .answered h
  | moved bytes =>
    let next : Bench σ :=
      { bench with layout := bench.layout.fillHeader bytes, channel := channel }
    have sound : next.layout.Sound limit bodies := h.fillHeader stage (fits _ bytes (by rw [reads]))
    -- With a header that was complete before, nothing need move: it is refused, or its body opened.
    have advances (later : Bench σ) (same : later.channel = next.channel)
        (light : later.layout.weight ≤ 1) : Advances read bench later := by
      refine .moved (reads.trans (by rw [same])) ?_
      by_cases short : bench.layout.headerFilled < headerSize
      · exact .inl ⟨Nat.sub_pos_of_lt short, light⟩
      · refine .inr (Nat.lt_of_le_of_lt light ?_)
        rw [Layout.weight, stage]
        simp only [if_neg short]
        decide
    simp only
    split
    · rename_i short
      have light : next.layout.weight = 0 := next.layout.weight_of_header stage short
      rw [← bodies.append_nil] at sound
      exact .again sound (advances next rfl (light.le.trans (Nat.zero_le 1)))
    · exact turned_openBody sound stage fun opened same weight => advances opened same weight.le

/-- A body without a buffer does not occur, and the newest one is filled up to its end at most. -/
theorem turned_bodyTurn (h : bench.layout.Sound limit bodies) {filled : Nat} {isLast : Bool}
    (stage : bench.layout.stage = .body filled isLast) (fits : Fits read bench.channel) :
    Turned read bench limit bodies (bench.bodyTurn read filled isLast) := by
  cases h.holds with
  | header stage' => cases stage.symm.trans stage'
  | body stage' fresh fragments within full =>
    cases stage.symm.trans stage'
    rename_i earlier current
    have newest : bench.layout.fragments.getLast? = some current := by
      rw [fragments, List.getLast?_concat]
    have room : room? current.size filled = some (current.size - filled) := if_pos within
    unfold bodyTurn
    simp only [newest, room]
    split
    · rename_i more
      generalize reads : read bench.channel (current.size - filled) = answer
      obtain ⟨transfer, channel⟩ := answer
      cases transfer with
      | wouldBlock | ended | failed cause => exact .answered h
      | moved bytes =>
        have few : filled + bytes.length ≤ current.size := by
          have := fits _ bytes (congrArg Prod.fst reads)
          omega
        exact .again (h.fillBody fresh fragments full few)
          (.moved reads (.inl ⟨Nat.sub_pos_of_lt more, (Layout.weight_of_body rfl).le⟩))
    · rename_i done
      have closed := h.closeBody fragments full (Nat.le_of_not_lt done)
      unfold closeBody
      split
      · exact .answered ⟨h.bound, h.cells, h.header, List.forall_mem_nil _, .header rfl rfl⟩
      · let next : Layout := { bench.layout with stage := .header }
        have short : next.headerFilled < headerSize := by
          rw [show next.headerFilled = 0 from fresh]
          decide
        have light : next.weight = 0 := next.weight_of_header rfl short
        have heavy : bench.layout.weight = 1 := Layout.weight_of_body stage
        rw [← bodies.append_nil] at closed
        exact .again closed (.lighter rfl (by rw [heavy]; exact light.trans_lt Nat.one_pos))

theorem turned_turn (h : bench.layout.Sound limit bodies) (fits : Fits read bench.channel) :
    Turned read bench limit bodies (bench.turn read) := by
  unfold turn
  split
  · rename_i stage
    exact turned_headerTurn h stage fits
  · rename_i filled isLast stage
    exact turned_bodyTurn h stage fits

end Bench

/-- Every layout that is reached is sound. -/
theorem Reachable.sound {limit : UInt32} {layout : Layout} {bodies : Bytes}
    (h : Reachable limit layout bodies) : layout.Sound limit bodies := by
  induction h with
  | new => exact Layout.sound_new limit
  | again before fits turn ih =>
    have turned := Bench.turned_turn ih fits
    rw [turn] at turned
    cases turned with
    | again sound advances => exact sound
  | answered before fits turn ih =>
    have turned := Bench.turned_turn ih fits
    rw [turn] at turned
    cases turned with
    | answered sound => exact sound
  | count before ih => exact ih.takeReceived
  | reset before ih => exact ih.reset

/-! ## Calls end -/

/-- A channel that holds finitely many bytes. What a read moves is gone from them, and where there
is room it moves at least one byte if it moves any. -/
structure Source (σ : Type) where
  read : σ → Nat → Transfer Bytes × σ
  held : σ → Nat
  fits : ∀ channel, Fits read channel
  spends : ∀ {channel next room bytes}, read channel room = (.moved bytes, next) →
    held next + bytes.length ≤ held channel
  moves : ∀ {channel next room bytes}, 0 < room → read channel room = (.moved bytes, next) →
    bytes ≠ []

namespace Bench

variable {σ : Type} {source : Source σ} {bench next : Bench σ} {limit : UInt32} {bodies : Bytes}

/-- What is left to do: bytes to be read, and turns without them. -/
def work (source : Source σ) (bench : Bench σ) : Nat :=
  3 * source.held bench.channel + bench.layout.weight

theorem Advances.work_lt (h : Advances source.read bench next) :
    next.work source < bench.work source := by
  unfold work
  cases h with
  | lighter channel less =>
    rw [channel]
    omega
  | moved reads room =>
    have spent := source.spends reads
    rcases room with ⟨room, light⟩ | less
    · have some := List.length_pos_of_ne_nil (source.moves room reads)
      omega
    · omega

/-- A call from a layout that is reached takes no more turns than there is work, and leaves such a
layout. -/
theorem exists_callWithin (h : Reachable limit bench.layout bodies) {rounds : Nat}
    (room : bench.work source < rounds) :
    ∃ reading next left, bench.callWithin source.read rounds = some (reading, next) ∧
      Reachable limit next.layout left := by
  induction rounds generalizing bench bodies with
  | zero => exact absurd room (Nat.not_lt_zero _)
  | succ rounds ih =>
    have fits := source.fits bench.channel
    have turned := turned_turn h.sound fits
    rw [callWithin]
    generalize hturn : bench.turn source.read = turn at turned
    cases turned with
    | again sound advances =>
      exact ih (.again h fits hturn) (by have := advances.work_lt; omega)
    | answered sound => exact ⟨_, _, _, rfl, .answered h fits hturn⟩

end Bench

/-- A call that has ended leaves a layout that is reached. -/
theorem Reachable.of_callWithin {σ : Type} {read : σ → Nat → Transfer Bytes × σ}
    (fits : ∀ channel, Fits read channel) {limit : UInt32} {bench next : Bench σ} {bodies : Bytes}
    {rounds : Nat} {reading : Reading} (h : Reachable limit bench.layout bodies)
    (call : bench.callWithin read rounds = some (reading, next)) :
    ∃ left, Reachable limit next.layout left := by
  induction rounds generalizing bench bodies with
  | zero => cases call
  | succ rounds ih =>
    have turned := Bench.turned_turn h.sound (fits bench.channel)
    rw [Bench.callWithin] at call
    generalize hturn : bench.turn read = turn at turned call
    cases turned with
    | again sound advances => exact ih (.again h (fits _) hturn) call
    | answered sound =>
      cases call
      exact ⟨_, .answered h (fits _) hturn⟩

/-! ## The assembler that runs -/

/-- Assemblers that a client can hold. -/
inductive Assembler.Used (limit : UInt32) : Assembler → Prop where
  | new : Used limit { limit }
  | read {assembler : Assembler} (before : Used limit assembler) (pool : BufferPool)
      (side : Inbound) : Used limit (assembler.read pool side).2.assembler
  | count {assembler : Assembler} (before : Used limit assembler) :
      Used limit assembler.takeReceived.2
  | reset {assembler : Assembler} (before : Used limit assembler) (pool : BufferPool) :
      Used limit (assembler.reset pool).1

theorem fits_read (side : Inbound) : Fits Inbound.read side :=
  fun room bytes moved => side.length_read_le room bytes moved

theorem Lays.exists_call {layout : Layout} {assembler : Assembler} (h : Lays layout assembler)
    (pool : BufferPool) (side : Inbound) :
    ∃ rounds next, Bench.callWithin Inbound.read rounds ⟨layout, pool, side⟩ =
        some ((assembler.read pool side).1, next) ∧
      next.Seats (assembler.read pool side).2 := by
  have seats : Bench.Seats ⟨layout, pool, side⟩ ⟨assembler, pool, side⟩ := ⟨h, rfl, rfl⟩
  exact ⟨_, Bench.callWithin_seats seats⟩

/-- Every assembler in use has a layout that is reached. -/
theorem Assembler.Used.exists_layout {limit : UInt32} {assembler : Assembler}
    (h : assembler.Used limit) :
    ∃ layout bodies, Reachable limit layout bodies ∧ Lays layout assembler := by
  induction h with
  | new => exact ⟨_, _, .new, lays_new limit⟩
  | read before pool side ih =>
    obtain ⟨layout, bodies, reached, lays⟩ := ih
    obtain ⟨rounds, next, call, seats⟩ := lays.exists_call pool side
    obtain ⟨left, reached⟩ := reached.of_callWithin fits_read call
    exact ⟨next.layout, left, reached, seats.lays⟩
  | count before ih =>
    obtain ⟨layout, bodies, reached, lays⟩ := ih
    exact ⟨_, _, reached.count, lays.takeReceived⟩
  | reset before pool ih =>
    obtain ⟨layout, bodies, reached, lays⟩ := ih
    exact ⟨_, _, reached.reset, lays.reset pool⟩

/-- In a layout that is reached the fragments are what was received of the bodies, all buffers but
the newest full, none longer than the limit, and a body has its buffer. Together they exceed what was
received by one fragment at most, and no read begins beyond an end. A call from there ends, over any
channel with finitely many bytes. The assembler that runs is one of these in memory and answers the
same. -/
theorem bounded_and_answers (limit : UInt32) :
    (∀ layout bodies, Reachable limit layout bodies →
      layout.Sound limit bodies ∧
      (layout.fragments.map Buffer.size).sum ≤ bodies.length + limit.toNat ∧
      ∀ (σ : Type) (read : σ → Nat → Transfer Bytes × σ) (pool : BufferPool) (channel : σ),
        Fits read channel → Bench.turn read ⟨layout, pool, channel⟩ ≠ .outOfRange) ∧
    (∀ (σ : Type) (source : Source σ) (pool : BufferPool) (channel : σ) layout bodies,
      Reachable limit layout bodies →
      ∃ reading next left,
        Bench.callWithin source.read (3 * source.held channel + 3) ⟨layout, pool, channel⟩ =
          some (reading, next) ∧
        Reachable limit next.layout left) ∧
    ∀ assembler : Assembler, assembler.Used limit →
      ∃ layout bodies, Reachable limit layout bodies ∧ Lays layout assembler ∧
        ∀ (pool : BufferPool) (side : Inbound), ∃ rounds next,
          Bench.callWithin Inbound.read rounds ⟨layout, pool, side⟩ =
            some ((assembler.read pool side).1, next) ∧
          next.Seats (assembler.read pool side).2 := by
  refine ⟨fun layout bodies reached => ⟨reached.sound, reached.sound.sum_sizes_le, ?_⟩, ?_, ?_⟩
  · intro σ read pool channel fits beyond
    let bench : Bench σ := ⟨layout, pool, channel⟩
    have turned : bench.Turned read limit bodies (bench.turn read) :=
      Bench.turned_turn reached.sound fits
    rw [beyond] at turned
    cases turned
  · intro σ source pool channel layout bodies reached
    have light := layout.weight_le
    let bench : Bench σ := ⟨layout, pool, channel⟩
    have room : bench.work source < 3 * source.held channel + 3 := by
      rw [show bench.work source = 3 * source.held channel + layout.weight from rfl]
      omega
    exact Bench.exists_callWithin reached room
  · intro assembler used
    obtain ⟨layout, bodies, reached, lays⟩ := used.exists_layout
    exact ⟨layout, bodies, reached, lays, lays.exists_call⟩

/-- Read bytes that have all come in. -/
def readPending : Bytes → Nat → Transfer Bytes × Bytes
  | [], _ => (.wouldBlock, [])
  | byte :: later, room => (.moved ((byte :: later).take room), (byte :: later).drop room)

def Source.ofBytes : Source Bytes where
  read := readPending
  held := List.length
  fits
    | [], _, _, moved => by cases moved
    | byte :: later, room, _, moved => by
      cases moved
      exact List.length_take_le room _
  spends {pending next room bytes} reads := by
    cases pending with
    | nil => cases reads
    | cons byte later =>
      cases reads
      rw [List.length_take, List.length_drop]
      omega
  moves {pending next room bytes} positive reads := by
    cases pending with
    | nil => cases reads
    | cons byte later =>
      cases reads
      exact fun none => (List.take_eq_nil_iff.1 none).elim positive.ne' (List.cons_ne_nil _ _)

/-- Three empty fragments, none of them the last one, keep no call busy. -/
theorem empty_fragments_answered :
    ∃ reading next left,
      Bench.callWithin Source.ofBytes.read 39 ⟨{ limit := 16 }, {}, List.replicate 12 0⟩ =
        some (reading, next) ∧
      Reachable 16 next.layout left ∧ next.layout.Sound 16 left := by
  obtain ⟨sound, ends, -⟩ := bounded_and_answers 16
  obtain ⟨reading, next, left, call, reached⟩ :=
    ends Bytes Source.ofBytes {} (List.replicate 12 0) { limit := 16 } [] .new
  exact ⟨reading, next, left, call, reached, (sound next.layout left reached).1⟩

end RemoteCall.Fragment
