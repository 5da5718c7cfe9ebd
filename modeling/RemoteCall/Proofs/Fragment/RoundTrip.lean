import RemoteCall.Proofs.Fragment.Delivery
import RemoteCall.Request

/-!
# Records survive fragmentation

A body that was cut into pieces and marked with headers is parsed as one record of these pieces.
However it arrives, an assembler that admits the pieces returns them as one record and has nothing
left of it. A reply is such a body: its header stands in the first piece, and the response that is
made of the fragments has the body that was sent.
-/
namespace RemoteCall.Fragment

/-! ## Pieces -/

/-- A body is cut into any number of full pieces and a last one, empty only if the body is. -/
structure Cut (size : Nat) (body : Bytes) (full : List Bytes) (last : Bytes) : Prop where
  split : pieces size body = full ++ [last]
  lengths : ∀ piece ∈ full, piece.length = size
  short : last.length ≤ size
  empty : last = [] → body = []

theorem pieces_nil (size : Nat) : pieces size [] = [[]] := by
  rw [pieces, piecesOnto, dif_neg (by simp)]
  rfl

theorem exists_piecesOnto_eq {size : Nat} (pos : 0 < size) (body : Bytes) (done : List Bytes) :
    ∃ (full : List Bytes) (last : Bytes),
      piecesOnto size body done = last :: (full.reverse ++ done) ∧
        (∀ piece ∈ full, piece.length = size) ∧ last.length ≤ size ∧
          (last = [] → body = []) := by
  fun_induction piecesOnto size body done with
  | case1 body done h ih =>
    obtain ⟨full, last, onto, lengths, short, empty⟩ := ih
    have long : ¬ body.length ≤ size := fun le => h.2 (List.drop_eq_nil_of_le le)
    refine ⟨body.take size :: full, last, ?_, ?_, short, fun nothing => absurd (empty nothing) h.2⟩
    · rw [onto, List.reverse_cons, List.append_assoc, List.singleton_append]
    · refine List.forall_mem_cons.2 ⟨?_, lengths⟩
      rw [List.length_take]
      omega
  | case2 body done h =>
    have short : body.drop size = [] := by
      by_contra more
      exact h ⟨pos, more⟩
    exact ⟨[], body, rfl, List.forall_mem_nil _, List.drop_eq_nil_iff.1 short, id⟩

theorem exists_cut {size : Nat} (pos : 0 < size) (body : Bytes) :
    ∃ full last, Cut size body full last := by
  obtain ⟨full, last, onto, lengths, short, empty⟩ := exists_piecesOnto_eq pos body []
  refine ⟨full, last, ?_, lengths, short, empty⟩
  rw [pieces, onto, List.append_nil, List.reverse_cons, List.reverse_reverse]

section

variable {size : Nat} {body last : Bytes} {full : List Bytes}

theorem Cut.flatten (cut : Cut size body full last) : full.flatten ++ last = body := by
  have whole := flatten_pieces size body
  rw [cut.split, List.flatten_append, List.flatten_singleton] at whole
  exact whole

theorem Cut.length (cut : Cut size body full last) :
    body.length = full.length * size + last.length := by
  have same : full.map List.length = List.replicate full.length size :=
    List.eq_replicate_iff.2 ⟨List.length_map _, by simpa using cut.lengths⟩
  rw [← cut.flatten, List.length_append, List.length_flatten, same, List.sum_replicate,
    smul_eq_mul]

/-- The number of pieces is the length of the body by that of a full piece, rounded up. -/
theorem Cut.length_pieces (cut : Cut size body full last) (filled : body ≠ []) :
    (pieces size body).length = (body.length + size - 1) / size := by
  have pos : 0 < last.length := List.length_pos_of_ne_nil fun nothing => filled (cut.empty nothing)
  have short := cut.short
  have room : body.length + size - 1 = (last.length - 1) + size * (full.length + 1) := by
    rw [cut.length, Nat.mul_succ, Nat.mul_comm size]
    omega
  rw [room, Nat.add_mul_div_left _ _ (by omega), Nat.div_eq_of_lt (by omega), Nat.zero_add,
    cut.split, List.length_append, List.length_singleton]

theorem Cut.length_le (cut : Cut size body full last) {piece : Bytes}
    (mem : piece ∈ full ++ [last]) : piece.length ≤ min size body.length := by
  have within : piece.length ≤ body.length := by
    rw [← flatten_pieces size body, cut.split]
    exact (List.sublist_flatten_of_mem mem).length_le
  refine Nat.le_min.2 ⟨?_, within⟩
  rcases List.mem_append.1 mem with early | late
  · exact (cut.lengths piece early).le
  · rw [List.mem_singleton.1 late]
    exact cut.short

end

/-- Marked pieces are parsed as the record of these pieces, whatever follows them. -/
theorem parseRecord_of_pieces {limit : UInt32} {full : List Bytes} {last : Bytes}
    (admits : ∀ piece ∈ full ++ [last], Admits limit piece.length) (more : Bytes) :
    parseRecord limit (full.flatMap (mark false) ++ mark true last ++ more) =
      .record (full ++ [last]) more := by
  have ends := admits last (List.mem_append_right _ (List.mem_singleton_self last))
  have whole : parseRecord limit (mark true last ++ more) = .record [last] more := by
    rw [mark, List.append_assoc]
    exact parseRecord_of_body (ends.bodyHeader_fits true) (ends.bodyHeader_le true)
      (ends.toNat_bodyHeader true).symm
  rw [List.append_assoc,
    parseRecord_marked fun piece mem => admits piece (List.mem_append_left _ mem), whole,
    Parsed.prepend_record]

/-- A body in fragments is parsed as the record of its pieces, whatever follows it. -/
theorem parseRecord_encode_append {limit : UInt32} {body : Bytes} {wanted : Nat}
    (within : min (pieceSize wanted) body.length ≤ limit.toNat) (more : Bytes) :
    parseRecord limit (encode body wanted ++ more) =
      .record (pieces (pieceSize wanted) body) more := by
  obtain ⟨full, last, cut⟩ := exists_cut (pieceSize_pos wanted) body
  have admits : ∀ piece ∈ full ++ [last], Admits limit piece.length := by
    intro piece mem
    have le := cut.length_le mem
    exact ⟨le.trans within, (le.trans (Nat.min_le_left _ _)).trans (pieceSize_le wanted)⟩
  rw [encode_of_pieces cut.split, parseRecord_of_pieces admits, cut.split]

theorem parseStream_encode {limit : UInt32} {body : Bytes} {wanted : Nat}
    (within : min (pieceSize wanted) body.length ≤ limit.toNat) :
    parseStream limit (encode body wanted) = ⟨[pieces (pieceSize wanted) body], [], none⟩ :=
  parseStream_concat parseStream_nil (parseRecord_encode_append within)

/-! ## One record that has arrived -/

theorem parseStream_eq_nil {limit : UInt32} {stream : Bytes}
    (h : parseStream limit stream = ⟨[], [], none⟩) : stream = [] := by
  cases parsed : parseRecord limit stream with
  | record bodies rest =>
    rw [parseStream_of_record parsed] at h
    simp [Parse.prepend] at h
  | overLimit length =>
    rw [parseStream_of_overLimit parsed] at h
    simp at h
  | incomplete =>
    rw [parseStream_of_incomplete parsed] at h
    exact congrArg Parse.rest h

/-- Nothing is taken of the next record only if no byte of a header and no fragment is kept. -/
theorem Assembler.of_taken_eq_nil {assembler : Assembler} (h : assembler.taken = []) :
    assembler.phase = .header [] ∧ assembler.finished = [] := by
  obtain ⟨wire, phase⟩ := List.append_eq_nil_iff.1 h
  constructor
  · cases state : assembler.phase with
    | header bytes =>
      rw [state] at phase
      exact congrArg Phase.header phase
    | body arrival =>
      have long := congrArg List.length phase
      simp [state, Phase.taken, headerSize] at long
  · rw [wireOf, List.flatMap_eq_nil_iff] at wire
    refine List.eq_nil_iff_forall_not_mem.2 fun buffer held => ?_
    have long := congrArg List.length (wire buffer (List.mem_reverse.2 held))
    simp [headerSize] at long

/-- The fragments of a record that was returned. -/
def Reading.fragments? : Reading → Option (List Buffer)
  | record fragments => some fragments
  | _ => none

theorem Reading.bodies?_eq (reading : Reading) :
    reading.bodies? = reading.fragments?.map (List.map Buffer.bytes) := by
  cases reading <;> rfl

namespace Receiver

/-- The records that were returned, in the buffers that hold them. -/
def delivered (receiver : Receiver) : List (List Buffer) :=
  receiver.answers.filterMap Reading.fragments?

theorem records_eq_map_delivered (receiver : Receiver) :
    receiver.records = receiver.delivered.map (List.map Buffer.bytes) := by
  rw [records, delivered, List.map_filterMap]
  exact congrArg (List.filterMap · receiver.answers) (funext Reading.bodies?_eq)

/-- Nothing is refused of a stream that the parser does not refuse. -/
theorem Follows.hasRefused_eq_false {receiver : Receiver} {limit : UInt32} {stream : Bytes}
    (h : receiver.Follows limit stream) (good : (parseStream limit stream).refused = none) :
    receiver.hasRefused = false := by
  rw [Bool.eq_false_iff]
  intro refused
  obtain ⟨length, kept⟩ := h.refused refused
  have parsed : parseRecord limit receiver.unread = .overLimit length := by
    rw [← h.bound]
    exact kept.parsed receiver.side.pending
  rw [h.parseStream_eq, parseStream_of_overLimit parsed] at good
  cases good

/-- Nothing is kept and nothing waits when all records of a complete stream were returned. -/
theorem Follows.unread_eq_nil {receiver : Receiver} {limit : UInt32} {stream : Bytes}
    (h : receiver.Follows limit stream)
    (whole : parseStream limit stream = ⟨receiver.records, [], none⟩) : receiver.unread = [] := by
  rw [h.parseStream_eq] at whole
  obtain ⟨records, rest, refused⟩ := (Parse.mk.injEq ..).mp whole
  have later : (parseStream limit receiver.unread).records = [] := by
    simpa using records
  have nothing : parseStream limit receiver.unread = ⟨[], [], Option.none⟩ := by
    rw [← later, ← rest, ← refused]
  exact parseStream_eq_nil nothing

theorem after_concat (limit : UInt32) (schedule : List Incident) (incident : Incident) :
    after limit (schedule ++ [incident]) = (after limit schedule).handle incident := by
  rw [after, List.foldl_append]
  rfl

/-- When one complete record and nothing else has arrived, one more read makes sure that it is
returned. -/
theorem records_after_read {limit : UInt32} {schedule : List Incident} {bodies : List Bytes}
    (whole : parseStream limit (arrived schedule) = ⟨[bodies], [], none⟩) (pool : BufferPool) :
    (after limit (schedule ++ [.read pool])).records = [bodies] := by
  have before := follows_after limit schedule
  rw [after_concat]
  have follows : ((after limit schedule).handle (.read pool)).Follows limit (arrived schedule) :=
    before.read pool
  generalize after limit schedule = receiver at before follows ⊢
  have good := before.hasRefused_eq_false (congrArg Parse.refused whole)
  have inOrder := follows.returned.1
  have next : (receiver.handle (.read pool)).records =
      receiver.records ++ (receiver.assembler.read pool receiver.side).1.bodies?.toList :=
    records_answer (receiver.assembler.read pool receiver.side).1 _
  rw [whole] at inOrder
  refine inOrder.eq_of_length_le ?_
  rw [next]
  generalize read : receiver.assembler.read pool receiver.side = answered
  obtain ⟨reading, work⟩ := answered
  have agrees := before.agrees good read
  -- Either this read returns a record, or it had been returned before.
  rcases agrees with ⟨found, -, answer, -⟩ | ⟨all, -⟩
  · rw [answer, List.length_append]
    exact Nat.le_add_left _ _
  · rw [all, whole, List.length_append]
    exact Nat.le_add_right _ _

/-- One record was returned, nothing was refused, and nothing is kept or waits. -/
structure HasReturned (receiver : Receiver) (fragments : List Buffer) : Prop where
  delivered : receiver.delivered = [fragments]
  accepted : receiver.hasRefused = false
  pending : receiver.side.pending = []
  phase : receiver.assembler.phase = .header []
  finished : receiver.assembler.finished = []

/-- One complete record that has arrived is returned, and nothing is left of it. -/
theorem exists_hasReturned {limit : UInt32} {schedule : List Incident} {bodies : List Bytes}
    (whole : parseStream limit (arrived schedule) = ⟨[bodies], [], none⟩) (pool : BufferPool) :
    ∃ fragments, (after limit (schedule ++ [.read pool])).HasReturned fragments ∧
      fragments.map Buffer.bytes = bodies := by
  have records := records_after_read whole pool
  have follows := follows_after limit (schedule ++ [.read pool])
  have same : arrived (schedule ++ [.read pool]) = arrived schedule := by
    simp [arrived, Incident.bytes]
  rw [same] at follows
  have unread := follows.unread_eq_nil (by rw [whole, records])
  obtain ⟨taken, pending⟩ := List.append_eq_nil_iff.1 unread
  obtain ⟨phase, finished⟩ := Assembler.of_taken_eq_nil taken
  have good := follows.hasRefused_eq_false (congrArg Parse.refused whole)
  rw [records_eq_map_delivered] at records
  obtain ⟨fragments, delivered, bytes⟩ := List.map_eq_singleton_iff.1 records
  exact ⟨fragments, ⟨delivered, good, pending, phase, finished⟩, bytes⟩

/-- A body that arrives in fragments is returned as one record, and nothing is left of it. -/
theorem hasReturned_of_encode {limit : UInt32} {body : Bytes} {wanted : Nat}
    {schedule : List Incident} (arrives : arrived schedule = encode body wanted)
    (within : min (pieceSize wanted) body.length ≤ limit.toNat) (pool : BufferPool) :
    ∃ fragments, (after limit (schedule ++ [.read pool])).HasReturned fragments ∧
      fragments.map Buffer.bytes = pieces (pieceSize wanted) body := by
  refine exists_hasReturned ?_ pool
  rw [arrives, parseStream_encode within]

/-- Pieces of any lengths that are admitted are returned as they were marked. -/
theorem hasReturned_of_pieces {limit : UInt32} {full : List Bytes} {last : Bytes}
    {schedule : List Incident}
    (arrives : arrived schedule = full.flatMap (mark false) ++ mark true last)
    (admits : ∀ piece ∈ full ++ [last], Admits limit piece.length) (pool : BufferPool) :
    ∃ fragments, (after limit (schedule ++ [.read pool])).HasReturned fragments ∧
      fragments.map Buffer.bytes = full ++ [last] := by
  refine exists_hasReturned ?_ pool
  rw [arrives]
  exact parseStream_concat parseStream_nil (parseRecord_of_pieces admits)

end Receiver

/-! ## Replies -/

/-- The first piece of a reply has the whole header if it is long enough for one. -/
theorem exists_of_reply_pieces {header : ReplyHeader} {body first : Bytes} {later : List Bytes}
    (whole : first ++ later.flatten = header.encode ++ body)
    (long : ReplyHeader.size ≤ first.length) :
    ∃ start, first = header.encode ++ start ∧ start ++ later.flatten = body := by
  have within : header.encode <+: first := by
    refine List.prefix_of_prefix_length_le (List.prefix_append _ body) ?_ ?_
    · exact whole ▸ List.prefix_append first later.flatten
    · rw [ReplyHeader.length_encode]
      exact long
  obtain ⟨start, rfl⟩ := within
  rw [List.append_assoc] at whole
  exact ⟨start, rfl, List.append_cancel_left whole⟩

/-- The pieces of a reply, when they can hold the header, begin with one that does. -/
theorem Cut.exists_first {size : Nat} {header : ReplyHeader} {body last : Bytes}
    {full : List Bytes} (cut : Cut size (header.encode ++ body) full last)
    (room : ReplyHeader.size ≤ size) :
    ∃ start later, full ++ [last] = (header.encode ++ start) :: later ∧
      start ++ later.flatten = body := by
  have whole := cut.flatten
  cases full with
  | nil =>
    have alone : last ++ ([] : List Bytes).flatten = header.encode ++ body := by
      simpa using whole
    have long : ReplyHeader.size ≤ last.length := by
      rw [← List.append_nil last, ← List.flatten_nil, alone, List.length_append,
        ReplyHeader.length_encode]
      exact Nat.le_add_right _ _
    obtain ⟨start, rfl, rest⟩ := exists_of_reply_pieces alone long
    exact ⟨start, [], rfl, rest⟩
  | cons first more =>
    have long : ReplyHeader.size ≤ first.length := by
      rw [cut.lengths first List.mem_cons_self]
      exact room
    have split : first ++ (more ++ [last]).flatten = header.encode ++ body := by
      simpa using whole
    obtain ⟨start, rfl, rest⟩ := exists_of_reply_pieces split long
    exact ⟨start, more ++ [last], rfl, rest⟩

/-- A response leaves out the header of the reply, and nothing else. -/
theorem flatten_chunks {header : ReplyHeader} {start : Bytes} {later : List Bytes}
    {response : Response}
    (bytes : response.fragments.map Buffer.bytes = (header.encode ++ start) :: later) :
    response.chunks.flatten = start ++ later.flatten := by
  obtain ⟨first, rest, fragments, head, tail⟩ := List.map_eq_cons_iff.1 bytes
  rw [Response.chunks, fragments]
  show (first.bytes.drop ReplyHeader.size :: rest.map Buffer.bytes).flatten = _
  rw [head, tail, ← header.length_encode, List.drop_left, List.flatten_cons]

/-- A reply in fragments, whatever their wanted length, arriving in whatever chunks, is returned as
one record of full pieces and a last one, and nothing is left of it. When the pieces can hold the
header it is read from the first, and the response has the body that was sent. An empty record is
one empty last fragment. -/
theorem reply_round_trip :
    (∀ (xid : UInt32) (body : Bytes) (wanted : Nat) (limit : UInt32) (schedule : List Incident)
      (pool : BufferPool),
      let size := max 1 (min wanted 2147483647)
      let reply := (ReplyHeader.mk xid 0).encode ++ body
      arrived schedule = encode reply wanted → min size reply.length ≤ limit.toNat →
      ∃ fragments, (Receiver.after limit (schedule ++ [.read pool])).HasReturned fragments ∧
        fragments.length = (reply.length + size - 1) / size ∧
        (∀ buffer ∈ fragments.dropLast, buffer.bytes.length = size) ∧
        (fragments.map Buffer.bytes).flatten = reply ∧
        (8 ≤ size →
          (∃ first rest, fragments = first :: rest ∧
            ReplyHeader.decode first.bytes = .ok ⟨xid, 0⟩) ∧
          ∀ response : Response, response.fragments = fragments →
            response.body = body ∧ response.bodyLength = body.length ∧
              response.chunks.flatten = body)) ∧
    ∀ (wanted : Nat) (limit : UInt32) (schedule : List Incident) (pool : BufferPool),
      encode [] wanted = (Header.mk 0 true).encode ∧
      (arrived schedule = encode [] wanted →
        ∃ fragment, (Receiver.after limit (schedule ++ [.read pool])).HasReturned [fragment] ∧
          fragment.bytes = []) := by
  constructor
  · intro xid body wanted limit schedule pool size reply arrives within
    obtain ⟨fragments, returned, bytes⟩ := Receiver.hasReturned_of_encode arrives within pool
    obtain ⟨full, last, cut⟩ := exists_cut (pieceSize_pos wanted) reply
    have filled : reply ≠ [] := by
      intro nothing
      have long := congrArg List.length nothing
      simp [reply, ReplyHeader.size] at long
    refine ⟨fragments, returned, ?_, ?_, ?_, fun room => ?_⟩
    · rw [← List.length_map Buffer.bytes, bytes]
      exact cut.length_pieces filled
    · intro buffer mem
      refine cut.lengths _ ?_
      have early : buffer.bytes ∈ (fragments.map Buffer.bytes).dropLast := by
        rw [← List.map_dropLast]
        exact List.mem_map_of_mem mem
      rwa [bytes, cut.split, List.dropLast_concat] at early
    · rw [bytes, flatten_pieces]
    · obtain ⟨start, later, split, rest⟩ := cut.exists_first room
      rw [cut.split, split] at bytes
      refine ⟨?_, fun response kept => ?_⟩
      · obtain ⟨first, others, rfl, head, -⟩ := List.map_eq_cons_iff.1 bytes
        exact ⟨first, others, rfl, by rw [head, ReplyHeader.decode_encode_append]⟩
      · rw [← kept] at bytes
        have chunks : response.chunks.flatten = body := by rw [flatten_chunks bytes, rest]
        refine ⟨chunks, ?_, chunks⟩
        rw [← response.length_body]
        exact congrArg List.length chunks
  · intro wanted limit schedule pool
    have alone : pieces (pieceSize wanted) [] = [] ++ [[]] := pieces_nil _
    refine ⟨?_, fun arrives => ?_⟩
    · rw [encode_of_pieces alone]
      rfl
    · obtain ⟨fragments, returned, bytes⟩ :=
        Receiver.hasReturned_of_encode arrives (by simp) pool
      rw [alone] at bytes
      obtain ⟨fragment, rfl, empty⟩ := List.map_eq_singleton_iff.1 bytes
      exact ⟨fragment, returned, empty⟩

/-- A reply of eleven bytes in pieces of eight, cut within the first header. -/
theorem reply_round_trip_two_pieces :
    let wire := encode ((ReplyHeader.mk 7 0).encode ++ [1, 2, 3]) 8
    let schedule := [.arrive (wire.take 3), .read {}, .arrive (wire.drop 3)]
    (arrived schedule = wire ∧ min 8 11 ≤ (1024 : UInt32).toNat) ∧
      ∃ fragments, (Receiver.after 1024 (schedule ++ [.read {}])).HasReturned fragments ∧
        fragments.length = 2 ∧
        (fragments.map Buffer.bytes).flatten = [0, 0, 0, 7, 0, 0, 0, 0, 1, 2, 3] := by
  intro wire schedule
  have arrives : arrived schedule = wire := by
    simp [schedule, arrived, Incident.bytes]
  obtain ⟨fragments, returned, count, -, whole, -⟩ :=
    reply_round_trip.1 7 [1, 2, 3] 8 1024 schedule {} arrives (by decide)
  exact ⟨⟨arrives, by decide⟩, fragments, returned, count, whole⟩

end RemoteCall.Fragment
