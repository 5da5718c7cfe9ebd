import RemoteCall.Fragment.Assembler
import RemoteCall.Fragment.Split
import RemoteCall.Proofs.Fragment.Parser

/-!
# Reassembly follows the record grammar

What an assembler has taken of the record under way can be read off its state. Together with what
has arrived and is not yet read it is the part of the stream that is still to be returned; steps
without an answer keep it as it is, so an answer is what the parser makes of it, wherever the steps
before it were interrupted.
-/
namespace RemoteCall

/-- What a read comes to when nothing is there to be read. -/
def Inbound.stop (side : Inbound) : Fragment.Reading :=
  match side.failure with
  | some cause => .failed cause
  | none => if side.ended then .ended else .wouldBlock

/-- A read moves bytes from the front of what has arrived, or finds nothing there. -/
inductive Inbound.Reads (side : Inbound) (room : Nat) : Transfer Bytes × Inbound → Prop where
  | moved {bytes : Bytes} {next : Inbound} (split : bytes ++ next.pending = side.pending)
      (fits : bytes.length ≤ room) (stop : next.stop = side.stop) :
      Reads side room (.moved bytes, next)
  | wouldBlock (empty : side.pending = []) (stop : side.stop = .wouldBlock) :
      Reads side room (.wouldBlock, side)
  | ended (empty : side.pending = []) (stop : side.stop = .ended) : Reads side room (.ended, side)
  | failed {cause : IoError} (empty : side.pending = []) (stop : side.stop = .failed cause) :
      Reads side room (.failed cause, side)

theorem Inbound.reads_read (side : Inbound) (room : Nat) : side.Reads room (side.read room) := by
  cases hchunks : side.chunks with
  | cons chunk later =>
    have read : side.read room = (.moved (chunk.take room), (side.read room).2) := by
      unfold Inbound.read
      rw [hchunks]
    have stop : (side.read room).2.stop = side.stop := by
      unfold Inbound.read
      rw [hchunks]
      rfl
    have moved := congrArg Prod.fst read
    rw [read]
    exact .moved (side.pending_read room _ moved).symm (side.length_read_le room _ moved) stop
  | nil =>
    have empty : side.pending = [] := by rw [pending, hchunks]; rfl
    unfold Inbound.read
    rw [hchunks]
    cases hfailure : side.failure with
    | some cause => exact .failed empty (by simp [stop, hfailure])
    | none =>
      cases hended : side.ended with
      | true => exact .ended empty (by simp [stop, hfailure, hended])
      | false => exact .wouldBlock empty (by simp [stop, hfailure, hended])

namespace Fragment

/-! ## What was taken of a record -/

/-- A body of this size is accepted under the limit. -/
def Admits (limit : UInt32) (size : Nat) : Prop := size ≤ limit.toNat ∧ size ≤ longestBody.toNat

/-- The header of a body of `size` bytes. -/
def bodyHeader (size : Nat) (isLast : Bool) : Header := ⟨UInt32.ofNat size, isLast⟩

theorem Admits.toNat_bodyHeader {limit : UInt32} {size : Nat} (h : Admits limit size)
    (isLast : Bool) : (bodyHeader size isLast).length.toNat = size := by
  have small : size ≤ 2147483647 := h.2
  simp only [bodyHeader, UInt32.toNat_ofNat']
  omega

theorem Admits.bodyHeader_le {limit : UInt32} {size : Nat} (h : Admits limit size)
    (isLast : Bool) : (bodyHeader size isLast).length ≤ limit := by
  show (bodyHeader size isLast).length.toNat ≤ limit.toNat
  rw [h.toNat_bodyHeader]
  exact h.1

theorem Admits.bodyHeader_fits {limit : UInt32} {size : Nat} (h : Admits limit size)
    (isLast : Bool) : (bodyHeader size isLast).length ≤ longestBody := by
  show (bodyHeader size isLast).length.toNat ≤ longestBody.toNat
  rw [h.toNat_bodyHeader]
  exact h.2

/-- The wire form of fragments that others follow. -/
def wireOf (buffers : List Buffer) : Bytes :=
  buffers.flatMap fun buffer => (bodyHeader buffer.size false).encode ++ buffer.bytes

/-- What was taken of the fragment under way. -/
def Phase.taken : Phase → Bytes
  | .header bytes => bytes
  | .body arrival => (bodyHeader arrival.size arrival.isLast).encode ++ arrival.received.reverse

/-- What was taken of the record under way. -/
def Assembler.taken (assembler : Assembler) : Bytes :=
  wireOf assembler.finished.reverse ++ assembler.phase.taken

/-- Pieces before the last go in front of whatever is parsed after them. -/
theorem parseRecord_marked {limit : UInt32} {pieces : List Bytes}
    (admits : ∀ piece ∈ pieces, Admits limit piece.length) (rest : Bytes) :
    parseRecord limit (pieces.flatMap (mark false) ++ rest) =
      (parseRecord limit rest).prepend pieces := by
  induction pieces with
  | nil => rfl
  | cons piece later ih =>
    have first := admits piece List.mem_cons_self
    have full := (first.toNat_bodyHeader false).symm
    have split : (piece :: later).flatMap (mark false) ++ rest =
        (bodyHeader piece.length false).encode ++ (piece ++ (later.flatMap (mark false) ++ rest)) := by
      simp [mark, bodyHeader]
    rw [split, parseRecord_of_body (first.bodyHeader_fits false) (first.bodyHeader_le false) full,
      ih fun other hother => admits other (List.mem_cons_of_mem _ hother)]
    rfl

/-- Fragments before the last go in front of whatever is parsed after them. -/
theorem parseRecord_wireOf {limit : UInt32} {buffers : List Buffer}
    (admits : ∀ buffer ∈ buffers, Admits limit buffer.size) (rest : Bytes) :
    parseRecord limit (wireOf buffers ++ rest) =
      (parseRecord limit rest).prepend (buffers.map Buffer.bytes) := by
  have wire : wireOf buffers = (buffers.map Buffer.bytes).flatMap (mark false) := by
    rw [wireOf, List.flatMap_map]
    simp only [mark, bodyHeader, Buffer.length_bytes]
  rw [wire, parseRecord_marked]
  intro piece mem
  obtain ⟨buffer, held, rfl⟩ := List.mem_map.1 mem
  rw [Buffer.length_bytes]
  exact admits buffer held

/-- The phase of an assembler that has refused nothing. -/
def Phase.Underway (limit : UInt32) : Phase → Prop
  | .header bytes => bytes.length < headerSize
  | .body arrival => arrival.received.length = arrival.filled ∧ arrival.filled ≤ arrival.size ∧
      Admits limit arrival.size

/-- The assembler is within a record, or between two, and has refused nothing. -/
structure Assembler.Underway (assembler : Assembler) : Prop where
  finished : ∀ buffer ∈ assembler.finished, Admits assembler.limit buffer.size
  phase : assembler.phase.Underway assembler.limit

/-- A header is complete that announces `length` bytes, more than the limit. -/
structure Assembler.Stuck (assembler : Assembler) (length : UInt32) : Prop where
  header : ∃ bytes, assembler.phase = .header bytes ∧ headerSize ≤ bytes.length ∧
    (Header.ofWord (Bytes.toWord bytes)).length = length
  exceeds : assembler.limit < length

/-- The assembler keeps a header that announces `length` bytes, more than the limit. -/
structure Assembler.Refused (assembler : Assembler) (length : UInt32) : Prop where
  header : ∃ bytes, assembler.phase = .header bytes ∧ bytes.length = headerSize ∧
    (Header.ofWord (Bytes.toWord bytes)).length = length
  exceeds : assembler.limit < length
  parsed : ∀ more, parseRecord assembler.limit (assembler.taken ++ more) = .overLimit length

namespace Assembler.Work

/-- What is still to be returned of the stream, as far as it has arrived. -/
def unread (work : Work) : Bytes := work.assembler.taken ++ work.side.pending

/-- The kinds of steps of an assembler. -/
inductive Stepped (work : Work) : Step → Prop where
  | went {next : Work} (unread : next.unread = work.unread) (underway : next.assembler.Underway)
      (limit : next.assembler.limit = work.assembler.limit)
      (stop : next.side.stop = work.side.stop) : Stepped work (none, next)
  | completed {next : Work} {fragments : List Buffer}
      (parsed : parseRecord work.assembler.limit work.unread =
        .record (fragments.map Buffer.bytes) next.side.pending)
      (phase : next.assembler.phase = .header []) (finished : next.assembler.finished = [])
      (limit : next.assembler.limit = work.assembler.limit) :
      Stepped work (some (.record fragments), next)
  | refused {next : Work} {length : UInt32} (unread : next.unread = work.unread)
      (refused : next.assembler.Refused length)
      (limit : next.assembler.limit = work.assembler.limit) :
      Stepped work (some (.overLimit length), next)
  | stopped {reading : Reading} (stop : work.side.stop = reading) (empty : work.side.pending = [])
      (parsed : parseRecord work.assembler.limit work.assembler.taken = .incomplete) :
      Stepped work (some reading, work)

section

variable {work : Work}

/-- A header that is complete is refused, or the buffer of its body is borrowed. -/
theorem stepped_openFragment {filled : Work} {header : Bytes}
    (unread : filled.unread = work.unread)
    (limit : filled.assembler.limit = work.assembler.limit)
    (stop : filled.side.stop = work.side.stop)
    (finished : ∀ buffer ∈ filled.assembler.finished, Admits filled.assembler.limit buffer.size)
    (phase : filled.assembler.phase = .header header) (full : header.length = headerSize) :
    work.Stepped (filled.openFragment header) := by
  have fits := Header.length_ofWord_le (Bytes.toWord header)
  have encoded := Header.encode_ofWord_toWord header full
  generalize hparsed : Header.ofWord (Bytes.toWord header) = parsed at fits encoded
  unfold openFragment
  simp only [hparsed]
  split
  · rename_i exceeds
    refine .refused unread ⟨⟨header, phase, full, by rw [hparsed]⟩, exceeds, fun more => ?_⟩ limit
    have admits : ∀ buffer ∈ filled.assembler.finished.reverse,
        Admits filled.assembler.limit buffer.size := by simpa using finished
    rw [taken, phase, Phase.taken, ← encoded, List.append_assoc, parseRecord_wireOf admits,
      parseRecord_of_overLimit fits exceeds, Parsed.prepend_overLimit]
  · rename_i within
    have size := BufferPool.size_acquire filled.pool parsed.length.toNat
    generalize filled.pool.acquire parsed.length.toNat = lent at size
    obtain ⟨buffer, pool⟩ := lent
    have announced : bodyHeader buffer.size parsed.isLast = parsed := by
      have same : UInt32.ofNat buffer.size = parsed.length := by
        rw [size, UInt32.ofNat_toNat]
      rw [bodyHeader, same]
    refine .went ?_ ⟨finished, rfl, Nat.zero_le _, ?_⟩ limit stop
    · rw [← unread, Work.unread, Work.unread, taken, taken, phase]
      simp only [Phase.taken, Arrival.start, Arrival.size, announced, encoded, List.reverse_nil,
        List.append_nil]
    · constructor
      · show buffer.size ≤ filled.assembler.limit.toNat
        rw [size]
        exact UInt32.not_lt.1 within
      · show buffer.size ≤ longestBody.toNat
        rw [size]
        exact fits

theorem stepped_fillHeader {header : Bytes} (h : work.assembler.Underway)
    (phase : work.assembler.phase = .header header) : work.Stepped (work.fillHeader header) := by
  have short : header.length < headerSize := by
    have short := h.phase
    rw [phase] at short
    exact short
  have admits : ∀ buffer ∈ work.assembler.finished.reverse,
      Admits work.assembler.limit buffer.size := by simpa using h.finished
  have parsed : parseRecord work.assembler.limit work.assembler.taken = .incomplete := by
    rw [taken, phase, Phase.taken, parseRecord_wireOf admits, parseRecord_of_short short,
      Parsed.prepend_incomplete]
  have reads := work.side.reads_read (headerSize - header.length)
  unfold fillHeader
  generalize work.side.read (headerSize - header.length) = answer at reads
  cases reads with
  | moved split fits stop =>
    rename_i bytes next
    let filled : Work := { work with
      assembler := { work.assembler with
        phase := .header (header ++ bytes)
        received := work.assembler.received + bytes.length }
      side := next }
    have unread : filled.unread = work.unread := by
      rw [Work.unread, Work.unread, ← split, taken, taken, phase]
      simp only [filled, Phase.taken, List.append_assoc]
    simp only
    split_ifs with more
    · exact .went unread ⟨h.finished, more⟩ rfl stop
    · apply stepped_openFragment unread rfl stop h.finished rfl
      rw [List.length_append] at more ⊢
      omega
  | wouldBlock empty stop => exact .stopped stop empty parsed
  | ended empty stop => exact .stopped stop empty parsed
  | failed empty stop => exact .stopped stop empty parsed

/-- A body that is complete ends a record or is kept with those before it. -/
theorem stepped_closeFragment {arrival : Arrival} (h : work.assembler.Underway)
    (phase : work.assembler.phase = .body arrival) (full : arrival.filled = arrival.size) :
    work.Stepped (work.closeFragment arrival) := by
  obtain ⟨received, -, admits⟩ : arrival.received.length = arrival.filled ∧
      arrival.filled ≤ arrival.size ∧ Admits work.assembler.limit arrival.size := by
    have underway := h.phase
    rw [phase] at underway
    exact underway
  have length : arrival.received.reverse.length = arrival.size := by
    rw [List.length_reverse, received, full]
  have bytes : arrival.toBuffer.bytes = arrival.received.reverse :=
    Buffer.bytes_write arrival.buffer arrival.received.reverse length
  unfold closeFragment
  simp only
  split
  · rename_i last
    refine .completed ?_ rfl rfl rfl
    have earlier : ∀ buffer ∈ work.assembler.finished.reverse,
        Admits work.assembler.limit buffer.size := by simpa using h.finished
    have announced : arrival.received.reverse.length =
        (bodyHeader arrival.size arrival.isLast).length.toNat := by
      rw [length, admits.toNat_bodyHeader]
    have ends : (bodyHeader arrival.size arrival.isLast).isLast = true := last
    rw [Work.unread, taken, phase, Phase.taken, List.append_assoc, List.append_assoc,
      parseRecord_wireOf earlier,
      parseRecord_of_body (admits.bodyHeader_fits _) (admits.bodyHeader_le _) announced,
      if_pos ends, Parsed.prepend_record, List.reverse_cons, List.map_append, List.map_singleton,
      bytes]
  · rename_i more
    have follows : arrival.isLast = false := by simpa using more
    refine .went ?_ ⟨fun buffer hbuffer => ?_, ?_⟩ rfl rfl
    · have kept : wireOf [arrival.toBuffer] =
          (bodyHeader arrival.size arrival.isLast).encode ++ arrival.received.reverse := by
        rw [follows]
        simp only [wireOf, List.flatMap_cons, List.flatMap_nil, List.append_nil, bytes]
        rfl
      have joined : wireOf (arrival.toBuffer :: work.assembler.finished).reverse =
          wireOf work.assembler.finished.reverse ++ wireOf [arrival.toBuffer] := by
        rw [List.reverse_cons, wireOf, List.flatMap_append]
        rfl
      rw [Work.unread, Work.unread, taken, taken, phase]
      simp only [joined, kept, Phase.taken, List.append_nil]
    · rcases List.mem_cons.1 hbuffer with rfl | hbuffer
      · exact admits
      · exact h.finished buffer hbuffer
    · show ([] : Bytes).length < headerSize
      decide

theorem stepped_fillBody {arrival : Arrival} (h : work.assembler.Underway)
    (phase : work.assembler.phase = .body arrival) : work.Stepped (work.fillBody arrival) := by
  obtain ⟨received, le, admits⟩ : arrival.received.length = arrival.filled ∧
      arrival.filled ≤ arrival.size ∧ Admits work.assembler.limit arrival.size := by
    have underway := h.phase
    rw [phase] at underway
    exact underway
  unfold fillBody
  split
  · rename_i hroom
    have earlier : ∀ buffer ∈ work.assembler.finished.reverse,
        Admits work.assembler.limit buffer.size := by simpa using h.finished
    have parsed : parseRecord work.assembler.limit work.assembler.taken = .incomplete := by
      have short : arrival.received.reverse.length <
          (bodyHeader arrival.size arrival.isLast).length.toNat := by
        rw [List.length_reverse, received, admits.toNat_bodyHeader]
        exact hroom
      rw [taken, phase, Phase.taken, parseRecord_wireOf earlier,
        parseRecord_of_partial (admits.bodyHeader_fits _) (admits.bodyHeader_le _) short,
        Parsed.prepend_incomplete]
    have reads := work.side.reads_read (arrival.size - arrival.filled)
    generalize work.side.read (arrival.size - arrival.filled) = answer at reads
    cases reads with
    | moved split fits stop =>
      rename_i bytes next
      refine .went ?_ ⟨h.finished, ?_, ?_, admits⟩ rfl stop
      · rw [Work.unread, Work.unread, ← split, taken, taken, phase]
        simp [Phase.taken, Arrival.push, Arrival.size]
      · show (bytes.reverse ++ arrival.received).length = arrival.filled + bytes.length
        rw [List.length_append, List.length_reverse, received, Nat.add_comm]
      · show arrival.filled + bytes.length ≤ arrival.size
        omega
    | wouldBlock empty stop => exact .stopped stop empty parsed
    | ended empty stop => exact .stopped stop empty parsed
    | failed empty stop => exact .stopped stop empty parsed
  · rename_i hfull
    exact stepped_closeFragment h phase (by omega)

/-- Every step is of one of the kinds of `Stepped`. -/
theorem stepped_step (h : work.assembler.Underway) : work.Stepped work.step := by
  unfold step
  split
  · rename_i header phase
    exact stepped_fillHeader h phase
  · rename_i arrival phase
    exact stepped_fillBody h phase

end

/-- What reading until there is an answer comes to. -/
inductive Answered (work : Work) : Reading × Work → Prop where
  | completed {next : Work} {fragments : List Buffer}
      (parsed : parseRecord work.assembler.limit work.unread =
        .record (fragments.map Buffer.bytes) next.side.pending)
      (phase : next.assembler.phase = .header []) (finished : next.assembler.finished = [])
      (limit : next.assembler.limit = work.assembler.limit) :
      Answered work (.record fragments, next)
  | refused {next : Work} {length : UInt32} (unread : next.unread = work.unread)
      (refused : next.assembler.Refused length)
      (limit : next.assembler.limit = work.assembler.limit) :
      Answered work (.overLimit length, next)
  | stopped {next : Work} {reading : Reading} (unread : next.unread = work.unread)
      (stop : work.side.stop = reading) (empty : next.side.pending = [])
      (parsed : parseRecord work.assembler.limit next.assembler.taken = .incomplete)
      (underway : next.assembler.Underway)
      (limit : next.assembler.limit = work.assembler.limit) : Answered work (reading, next)

/-- Steps without an answer leave the part of the stream alone that is still to be returned, so the
answer is what the parser makes of it. -/
theorem answered_run {work : Work} (h : work.assembler.Underway) : work.Answered work.run := by
  fun_induction run work with
  | case1 work reading next hstep =>
    have stepped := stepped_step h
    rw [hstep] at stepped
    cases stepped with
    | completed parsed phase finished limit => exact .completed parsed phase finished limit
    | refused unread refused limit => exact .refused unread refused limit
    | stopped stop empty parsed => exact .stopped rfl stop empty parsed h rfl
  | case2 work next hstep ih =>
    have stepped := stepped_step h
    rw [hstep] at stepped
    cases stepped with
    | went unread underway limit stop =>
      have answered := ih underway
      generalize run next = answer at answered
      cases answered with
      | completed parsed phase finished limit' =>
        rw [unread, limit] at parsed
        exact .completed parsed phase finished (limit'.trans limit)
      | refused unread' refused limit' =>
        exact .refused (unread'.trans unread) refused (limit'.trans limit)
      | stopped unread' stop' empty parsed underway' limit' =>
        rw [limit] at parsed
        exact .stopped (unread'.trans unread) (stop.symm.trans stop') empty parsed underway'
          (limit'.trans limit)

theorem run_of_answer {work next : Work} {reading : Reading}
    (step : work.step = (some reading, next)) : work.run = (reading, next) := by
  rw [Work.run]
  split
  · rename_i reading' next' step'
    cases step.symm.trans step'
    rfl
  · rename_i next' step'
    cases step.symm.trans step'

theorem run_of_step {work next : Work} (step : work.step = (none, next)) : work.run = next.run := by
  rw [Work.run]
  split
  · rename_i reading' next' step'
    cases step.symm.trans step'
  · rename_i next' step'
    cases step.symm.trans step'
    rfl

/-- A header over the limit is refused again, or nothing is there that prompts it. No byte is taken
and nothing changes. -/
theorem run_of_stuck {work : Work} {length : UInt32} (h : work.assembler.Stuck length) :
    ∃ reading side, work.run = (reading, { work with side := side }) ∧
      (reading = .overLimit length ∨ reading = work.side.stop) ∧
      side.pending = work.side.pending := by
  obtain ⟨header, phase, full, announced⟩ := h.header
  have reads := work.side.reads_read (headerSize - header.length)
  suffices step : ∃ reading side, work.step = (some reading, { work with side := side }) ∧
      (reading = .overLimit length ∨ reading = work.side.stop) ∧
      side.pending = work.side.pending by
    obtain ⟨reading, side, step, answers⟩ := step
    exact ⟨reading, side, run_of_answer step, answers⟩
  have step : work.step = work.fillHeader header := by
    rw [Work.step, phase]
  rw [step]
  unfold fillHeader
  generalize work.side.read (headerSize - header.length) = answer at reads
  cases reads with
  | moved split fits stop =>
    -- There is no room for a byte, so the header is as it was and is refused as it was.
    rename_i bytes side
    rw [Nat.sub_eq_zero_of_le full] at fits
    have none : bytes = [] := List.eq_nil_of_length_eq_zero (Nat.le_zero.1 fits)
    subst none
    have long : ¬ header.length < headerSize := by omega
    have exceeds := h.exceeds
    have same : ({ work.assembler with
        phase := .header header, received := work.assembler.received } : Assembler) =
          work.assembler := by
      rw [← phase]
    simp only [List.append_nil, if_neg long, openFragment, announced, if_pos exceeds,
      List.length_nil, Nat.add_zero, same]
    exact ⟨_, side, rfl, .inl rfl, split⟩
  | wouldBlock empty stop => exact ⟨_, work.side, rfl, .inr stop.symm, rfl⟩
  | ended empty stop => exact ⟨_, work.side, rfl, .inr stop.symm, rfl⟩
  | failed empty stop => exact ⟨_, work.side, rfl, .inr stop.symm, rfl⟩

/-- After a refusal no byte is taken. -/
theorem run_of_refused {work : Work} {length : UInt32} (h : work.assembler.Refused length) :
    (work.run.1 = .overLimit length ∨ work.run.1 = work.side.stop) ∧
      work.run.2.side.pending = work.side.pending ∧
      work.run.2.assembler.taken = work.assembler.taken ∧
      work.run.2.assembler.limit = work.assembler.limit ∧ work.run.2.assembler.Refused length := by
  obtain ⟨header, phase, full, announced⟩ := h.header
  obtain ⟨reading, side, run, answers, pending⟩ :=
    run_of_stuck ⟨⟨header, phase, full.ge, announced⟩, h.exceeds⟩
  rw [run]
  exact ⟨answers, pending, rfl, rfl, h⟩

end Assembler.Work

end Fragment

end RemoteCall
