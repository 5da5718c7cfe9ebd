import RemoteCall.Proofs.Fragment.Reassembly

/-!
# Reassembly under every delivery

Chunks arrive, the channel fails, recovers or ends, and the assembler is asked for the next record
with whatever pool there is, all in any order. Bytes that the channel holds back have not arrived
yet. The answers are those of the parser on everything that has.
-/
namespace RemoteCall

theorem Inbound.pending_feed (side : Inbound) (chunk : Bytes) :
    (side.feed chunk).pending = side.pending ++ chunk := by
  unfold feed
  split
  · rename_i hempty
    rw [List.isEmpty_iff.1 hempty, List.append_nil]
  · simp [pending]

namespace Fragment

/-- The bodies of a record that was returned. -/
def Reading.bodies? : Reading → Option (List Bytes)
  | record fragments => some (fragments.map Buffer.bytes)
  | _ => none

/-- A header was refused. -/
def Reading.refuses : Reading → Bool
  | overLimit _ => true
  | _ => false

theorem stop_bodies? (side : Inbound) : side.stop.bodies? = none := by
  unfold Inbound.stop
  split
  · rfl
  · split <;> rfl

theorem stop_refuses (side : Inbound) : side.stop.refuses = false := by
  unfold Inbound.stop
  split
  · rfl
  · split <;> rfl

/-- What happens to an assembler and to the channel that it reads. -/
inductive Incident where
  | arrive (chunk : Bytes)
  | fail (cause : Option IoError)
  | finish (on : Bool)
  /-- The bytes read are counted, and the count starts over. -/
  | count
  | read (pool : BufferPool)

/-- The bytes that arrive. -/
def Incident.bytes : Incident → Bytes
  | arrive chunk => chunk
  | _ => []

/-- The stream that a schedule delivers. -/
def arrived (schedule : List Incident) : Bytes := schedule.flatMap Incident.bytes

/-- An assembler with its channel, and the answers to the reads so far. -/
structure Receiver where
  assembler : Assembler
  side : Inbound := {}
  answers : List Reading := []

namespace Receiver

def handle (receiver : Receiver) : Incident → Receiver
  | .arrive chunk => { receiver with side := receiver.side.feed chunk }
  | .fail cause => { receiver with side := { receiver.side with failure := cause } }
  | .finish on => { receiver with side := { receiver.side with ended := on } }
  | .count => { receiver with assembler := receiver.assembler.takeReceived.2 }
  | .read pool =>
      let (reading, work) := receiver.assembler.read pool receiver.side
      ⟨work.assembler, work.side, receiver.answers ++ [reading]⟩

/-- A new assembler after a schedule. -/
def after (limit : UInt32) (schedule : List Incident) : Receiver :=
  schedule.foldl handle { assembler := { limit := limit } }

/-- The records that were returned. -/
def records (receiver : Receiver) : List (List Bytes) := receiver.answers.filterMap Reading.bodies?

/-- Some header was refused. -/
def hasRefused (receiver : Receiver) : Bool := receiver.answers.any Reading.refuses

/-- What is still to be returned of the stream, as far as it has arrived. -/
def unread (receiver : Receiver) : Bytes := receiver.assembler.taken ++ receiver.side.pending

/-- The receiver has returned the records at the start of a stream and goes on behind them. -/
structure Follows (receiver : Receiver) (limit : UInt32) (stream : Bytes) : Prop where
  bound : receiver.assembler.limit = limit
  split : ∃ done, stream = done ++ receiver.unread ∧
    parseStream limit done = ⟨receiver.records, [], none⟩
  underway : receiver.hasRefused = false → receiver.assembler.Underway ∧
    parseRecord limit receiver.assembler.taken = .incomplete
  refused : receiver.hasRefused = true → ∃ length, receiver.assembler.Refused length

section

variable {receiver : Receiver} {limit : UInt32} {stream : Bytes}

/-- The part of the stream that is still to be returned is what the parser has to go on with. -/
theorem Follows.parseStream_eq (h : receiver.Follows limit stream) :
    parseStream limit stream = (parseStream limit receiver.unread).prepend receiver.records := by
  obtain ⟨done, hstream, parsed⟩ := h.split
  rw [hstream, parseStream_append parsed]

/-- The receiver with one more answer. -/
def answer (receiver : Receiver) (reading : Reading) (work : Assembler.Work) : Receiver :=
  ⟨work.assembler, work.side, receiver.answers ++ [reading]⟩

theorem records_answer (reading : Reading) (work : Assembler.Work) :
    (receiver.answer reading work).records = receiver.records ++ reading.bodies?.toList := by
  rw [records, answer, List.filterMap_append]
  cases h : reading.bodies? with
  | none => simp [h, records]
  | some bodies => simp [h, records]

theorem hasRefused_answer (reading : Reading) (work : Assembler.Work) :
    (receiver.answer reading work).hasRefused = (receiver.hasRefused || reading.refuses) := by
  simp [hasRefused, answer]

/-- The receiver follows the stream with the answer to a read. -/
theorem Follows.answer (h : receiver.Follows limit stream) {pool : BufferPool}
    {reading : Reading} {next : Assembler.Work} (good : receiver.hasRefused = false)
    (answered : Assembler.Work.Answered ⟨receiver.assembler, pool, receiver.side⟩ (reading, next)) :
    (receiver.answer reading next).Follows limit stream := by
  obtain ⟨done, hstream, parsed⟩ := h.split
  cases answered with
  | completed record phase finished bound =>
    rename_i fragments
    have fresh : next.assembler.taken = [] := by
      rw [Assembler.taken, phase, finished]
      rfl
    obtain ⟨wire, hwire, -, following⟩ := exists_of_parseRecord record
    have whole : receiver.unread = wire ++ next.side.pending := hwire
    rw [h.bound] at following
    have bound := bound.trans h.bound
    refine ⟨bound, ⟨done ++ wire, ?_, ?_⟩, fun _ => ⟨⟨?_, ?_⟩, ?_⟩, fun refused => ?_⟩
    · rw [hstream, whole, unread, Receiver.answer, fresh, List.append_assoc]
      rfl
    · rw [records_answer]
      exact parseStream_concat parsed following
    · show ∀ buffer ∈ next.assembler.finished, Admits next.assembler.limit buffer.size
      rw [finished]
      exact List.forall_mem_nil _
    · show next.assembler.phase.Underway next.assembler.limit
      rw [phase]
      show ([] : Bytes).length < headerSize
      decide
    · show parseRecord limit next.assembler.taken = .incomplete
      rw [fresh]
      exact parseRecord_of_short (by decide)
    · rw [hasRefused_answer, good] at refused
      cases refused
  | refused unread refused bound =>
    refine ⟨bound.trans h.bound, ⟨done, ?_, ?_⟩, fun none => ?_, fun _ => ⟨_, refused⟩⟩
    · rw [hstream]
      exact congrArg (done ++ ·) unread.symm
    · rw [records_answer]
      simpa [Reading.bodies?] using parsed
    · rw [hasRefused_answer, good] at none
      cases none
  | stopped unread stop empty incomplete underway bound =>
    have none : reading.bodies? = none := by
      rw [← stop]
      exact stop_bodies? _
    refine ⟨bound.trans h.bound, ⟨done, ?_, ?_⟩, fun _ => ⟨underway, ?_⟩, fun refused => ?_⟩
    · rw [hstream]
      exact congrArg (done ++ ·) unread.symm
    · rw [records_answer, none]
      simpa using parsed
    · rw [← h.bound]
      exact incomplete
    · rw [hasRefused_answer, good, ← stop, stop_refuses] at refused
      cases refused

/-- After a refusal nothing is taken and nothing returned any more. -/
theorem Follows.read_of_refused (h : receiver.Follows limit stream) (pool : BufferPool)
    (refused : receiver.hasRefused = true) :
    ∃ reading next, receiver.assembler.read pool receiver.side = (reading, next) ∧
      reading.bodies? = none ∧ next.side.pending = receiver.side.pending ∧
      (receiver.answer reading next).Follows limit stream := by
  obtain ⟨done, hstream, parsed⟩ := h.split
  obtain ⟨length, kept⟩ := h.refused refused
  let work : Assembler.Work := ⟨receiver.assembler, pool, receiver.side⟩
  have kept' : work.assembler.Refused length := kept
  obtain ⟨reading, pending, taken, bound, again⟩ := Assembler.Work.run_of_refused kept'
  have none : work.run.1.bodies? = none := by
    rcases reading with reading | reading
    · rw [reading]
      rfl
    · rw [reading]
      exact stop_bodies? _
  refine ⟨work.run.1, work.run.2, rfl, none, pending, bound.trans h.bound, ⟨done, ?_, ?_⟩,
    fun good => ?_, fun _ => ⟨length, again⟩⟩
  · rw [hstream, unread, unread, Receiver.answer, pending, taken]
  · rw [records_answer, none]
    simpa using parsed
  · rw [hasRefused_answer, refused] at good
    cases good

theorem Follows.read (h : receiver.Follows limit stream) (pool : BufferPool) :
    (receiver.handle (.read pool)).Follows limit stream := by
  cases refused : receiver.hasRefused with
  | true =>
    obtain ⟨reading, next, answer, -, -, follows⟩ := h.read_of_refused pool refused
    show (receiver.answer (receiver.assembler.read pool receiver.side).1
      (receiver.assembler.read pool receiver.side).2).Follows limit stream
    rw [answer]
    exact follows
  | false =>
    exact h.answer refused (Assembler.Work.answered_run (h.underway refused).1)

theorem Follows.handle (h : receiver.Follows limit stream) (incident : Incident) :
    (receiver.handle incident).Follows limit (stream ++ incident.bytes) := by
  cases incident with
  | arrive chunk =>
    refine ⟨h.bound, ?_, h.underway, h.refused⟩
    obtain ⟨done, hstream, parsed⟩ := h.split
    refine ⟨done, ?_, parsed⟩
    rw [hstream, unread, unread, List.append_assoc, List.append_assoc]
    show _ = done ++ (receiver.assembler.taken ++ (receiver.side.feed chunk).pending)
    rw [Inbound.pending_feed]
    rfl
  | fail cause =>
    show (receiver.handle (.fail cause)).Follows limit (stream ++ [])
    rw [List.append_nil]
    exact ⟨h.bound, h.split, h.underway, h.refused⟩
  | finish on =>
    show (receiver.handle (.finish on)).Follows limit (stream ++ [])
    rw [List.append_nil]
    exact ⟨h.bound, h.split, h.underway, h.refused⟩
  | count =>
    show (receiver.handle (.count)).Follows limit (stream ++ [])
    rw [List.append_nil]
    refine ⟨h.bound, h.split, fun none => ?_, fun some => ?_⟩
    · obtain ⟨underway, parsed⟩ := h.underway none
      exact ⟨⟨underway.finished, underway.phase⟩, parsed⟩
    · obtain ⟨length, refused⟩ := h.refused some
      exact ⟨length, refused.header, refused.exceeds, refused.parsed⟩
  | read pool =>
    show (receiver.handle (.read pool)).Follows limit (stream ++ [])
    rw [List.append_nil]
    exact h.read pool

/-- Whatever the schedule, the receiver follows the stream that has arrived. -/
theorem follows_after (limit : UInt32) (schedule : List Incident) :
    (after limit schedule).Follows limit (arrived schedule) := by
  have run (schedule : List Incident) : ∀ (receiver : Receiver) (stream : Bytes),
      receiver.Follows limit stream →
      (schedule.foldl Receiver.handle receiver).Follows limit (stream ++ arrived schedule) := by
    induction schedule with
    | nil =>
      intro receiver stream h
      rw [arrived, List.flatMap_nil, List.append_nil]
      exact h
    | cons incident later ih =>
      intro receiver stream h
      have next := ih (receiver.handle incident) _ (h.handle incident)
      rw [List.append_assoc] at next
      exact next
  have empty : ({ assembler := { limit := limit } } : Receiver).Follows limit [] := by
    refine ⟨rfl, ⟨[], rfl, parseStream_nil⟩, fun _ => ?_, fun some => ?_⟩
    · refine ⟨⟨List.forall_mem_nil _, ?_⟩, ?_⟩
      · show ([] : Bytes).length < headerSize
        decide
      · exact parseRecord_of_short (show ([] : Bytes).length < headerSize by decide)
    · cases some
  exact run schedule _ [] empty

/-! ## Answers -/

/-- A read is answered as the parser has it, when nothing was refused before: with the next record
of the stream, and not a byte more is taken; or else with a refusal; or else with the reason why
there is nothing to be read, and all that has arrived is taken and kept. -/
def Agrees (receiver : Receiver) (limit : UInt32) (stream : Bytes) (reading : Reading)
    (next : Assembler.Work) : Prop :=
  let parse := parseStream limit stream
  (∃ bodies, parse.records[receiver.records.length]? = some bodies ∧
    reading.bodies? = some bodies ∧ ∃ taken, stream = taken ++ next.side.pending ∧
      parseStream limit taken = ⟨receiver.records ++ [bodies], [], none⟩) ∨
  receiver.records = parse.records ∧
    ((∃ length, parse.refused = some length ∧ reading = .overLimit length ∧
        reading.failure? limit = some (Header.overLimit length limit)) ∨
      parse.refused = none ∧ reading = receiver.side.stop ∧ next.side.pending = [] ∧
        next.assembler.taken = parse.rest)

theorem Follows.agrees (h : receiver.Follows limit stream) (good : receiver.hasRefused = false)
    {pool : BufferPool} {reading : Reading} {next : Assembler.Work}
    (read : receiver.assembler.read pool receiver.side = (reading, next)) :
    receiver.Agrees limit stream reading next := by
  have answered : Assembler.Work.Answered ⟨receiver.assembler, pool, receiver.side⟩
      (reading, next) := by
    rw [← read]
    exact Assembler.Work.answered_run (h.underway good).1
  have follows := h.answer good answered
  unfold Agrees
  rw [h.parseStream_eq]
  cases answered with
  | completed record phase finished bound =>
    rename_i fragments
    rw [h.bound] at record
    have whole : parseRecord limit receiver.unread =
        .record (fragments.map Buffer.bytes) next.side.pending := record
    obtain ⟨done, hstream, parsed⟩ := follows.split
    refine .inl ⟨fragments.map Buffer.bytes, ?_, rfl, done, ?_, ?_⟩
    · rw [parseStream_of_record whole]
      simp [Parse.prepend]
    · rw [hstream, unread, Receiver.answer, Assembler.taken, phase, finished]
      rfl
    · rw [parsed, records_answer]
      rfl
  | refused same refused bound =>
    rename_i length
    have whole : parseRecord limit receiver.unread = .overLimit length := by
      have parsed := refused.parsed next.side.pending
      rw [bound.trans h.bound] at parsed
      rw [← parsed]
      exact congrArg (parseRecord limit) same.symm
    rw [parseStream_of_overLimit whole]
    exact .inr ⟨by simp [Parse.prepend], .inl ⟨length, rfl, rfl, rfl⟩⟩
  | stopped same stop empty incomplete underway bound =>
    have rest : receiver.unread = next.assembler.taken := by
      have same : next.unread = receiver.unread := same
      rw [← same, Assembler.Work.unread, empty, List.append_nil]
    have whole : parseRecord limit receiver.unread = .incomplete := by
      rw [rest, ← h.bound]
      exact incomplete
    rw [parseStream_of_incomplete whole]
    exact .inr ⟨by simp [Parse.prepend], .inr ⟨rfl, stop.symm, empty, rest.symm⟩⟩

/-- The records that were returned are those that the parser finds at the start of the stream, in
order, and no others have been taken completely. -/
theorem Follows.returned (h : receiver.Follows limit stream) :
    receiver.records <+: (parseStream limit stream).records ∧
      ∃ taken, stream = taken ++ receiver.side.pending ∧
        (parseStream limit taken).records = receiver.records := by
  obtain ⟨done, hstream, parsed⟩ := h.split
  refine ⟨?_, done ++ receiver.assembler.taken, ?_, ?_⟩
  · rw [h.parseStream_eq]
    exact List.prefix_append _ _
  · rw [hstream, unread, List.append_assoc]
  · have none : (parseStream limit receiver.assembler.taken).records = [] := by
      cases refused : receiver.hasRefused with
      | true =>
        obtain ⟨length, kept⟩ := h.refused refused
        have refusal := kept.parsed []
        rw [List.append_nil, h.bound] at refusal
        rw [parseStream_of_overLimit refusal]
      | false => rw [parseStream_of_incomplete (h.underway refused).2]
    rw [parseStream_append parsed]
    show receiver.records ++ (parseStream limit receiver.assembler.taken).records = _
    rw [none, List.append_nil]

end

/-- Under every schedule of chunks, failures, ends and reads, with whatever pools, an assembler
returns the records that the parser finds in the stream, in order, and takes nothing beyond a record
that it returns. It refuses the first header over the limit when all records before it were
returned, and not before. Otherwise it has taken all that has arrived, and keeps it. -/
theorem reads_follow_grammar (limit : UInt32) (schedule : List Incident) :
    let receiver := after limit schedule
    let stream := arrived schedule
    receiver.records <+: (parseStream limit stream).records ∧
    (∃ taken, stream = taken ++ receiver.side.pending ∧
      (parseStream limit taken).records = receiver.records) ∧
    ∀ pool reading next, receiver.assembler.read pool receiver.side = (reading, next) →
      (receiver.hasRefused = false → receiver.Agrees limit stream reading next) ∧
      (receiver.hasRefused = true →
        reading.bodies? = none ∧ next.side.pending = receiver.side.pending) := by
  intro receiver stream
  have follows : receiver.Follows limit stream := follows_after limit schedule
  obtain ⟨inOrder, exactly⟩ := follows.returned
  refine ⟨inOrder, exactly, fun pool reading next read => ⟨fun good => ?_, fun refused => ?_⟩⟩
  · exact follows.agrees good read
  · obtain ⟨reading', next', read', none, pending, -⟩ := follows.read_of_refused pool refused
    cases read.symm.trans read'
    exact ⟨none, pending⟩

end Receiver

end Fragment

end RemoteCall
