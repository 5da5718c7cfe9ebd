import RemoteCall.PlainChannel
import RemoteCall.Proofs.Transmission.Flushing

/-!
# Progress of writing

What a cursor offers is the rest of the first segment of its record that is not fully written, so
that a channel is never offered nothing. One that accepts at least one byte of every offer that has
one, or refuses, therefore ends every flush, and so does a plain channel, although it answers an
offer of nothing by accepting nothing.
-/
namespace RemoteCall

universe u

/-! ## Where a record goes on -/

namespace Cursor

/-- The segments `before` are fully written and `segment` is not, when `written` bytes are. -/
structure FirstOpen (segments : List Bytes) (written : Nat) (before : List Bytes) (segment : Bytes)
    (after : List Bytes) : Prop where
  split : segments = before ++ segment :: after
  passed : before.flatten.length ≤ written
  reaches : written < before.flatten.length + segment.length

theorem exists_firstOpen {segments : List Bytes} {written : Nat}
    (h : written < segments.flatten.length) :
    ∃ before segment after, FirstOpen segments written before segment after := by
  induction segments generalizing written with
  | nil => cases h
  | cons first later ih =>
    rw [List.flatten_cons, List.length_append] at h
    by_cases within : written < first.length
    · exact ⟨[], first, later, rfl, Nat.zero_le _, by simpa using within⟩
    · have rest : written - first.length < later.flatten.length := by omega
      obtain ⟨before, segment, after, split, passed, reaches⟩ := ih rest
      refine ⟨first :: before, segment, after, by rw [split, List.cons_append], ?_, ?_⟩
      all_goals rw [List.flatten_cons, List.length_append]; omega

theorem FirstOpen.restOf_eq {segments before after : List Bytes} {segment : Bytes} {written : Nat}
    (h : FirstOpen segments written before segment after) :
    restOf segments written = segment.drop (written - before.flatten.length) := by
  obtain ⟨rfl, passed, reaches⟩ := h
  induction before generalizing written with
  | nil =>
    rw [List.flatten_nil, List.length_nil, Nat.zero_add] at reaches
    rw [List.nil_append, restOf, if_pos reaches]
    rfl
  | cons first later ih =>
    rw [List.flatten_cons, List.length_append] at passed reaches
    have beyond : ¬ written < first.length := by omega
    rw [List.cons_append, restOf, if_neg beyond, ih (by omega) (by omega), List.flatten_cons,
      List.length_append, Nat.sub_sub]

/-- From byte number `written` on, the segments go on with the rest of the one that is open. -/
theorem FirstOpen.drop_flatten {segments before after : List Bytes} {segment : Bytes}
    {written : Nat} (h : FirstOpen segments written before segment after) :
    segments.flatten.drop written =
      segment.drop (written - before.flatten.length) ++ after.flatten := by
  obtain ⟨rfl, passed, reaches⟩ := h
  rw [List.flatten_append, List.flatten_cons, List.drop_append, List.drop_eq_nil_of_le passed,
    List.nil_append, List.drop_append_of_le_length (by omega)]

/-- Until its record is complete, a cursor offers the rest of the first segment that is not fully
written, and the record goes on with it. -/
theorem exists_open (cursor : Cursor) (more : cursor.isComplete = false) :
    ∃ before segment after, FirstOpen cursor.segments cursor.written before segment after ∧
      cursor.remainingSegment = segment.drop (cursor.written - before.flatten.length) ∧
      cursor.wire.drop cursor.written = cursor.remainingSegment ++ after.flatten := by
  have short : cursor.written < cursor.segments.flatten.length := by
    have := of_decide_eq_false more
    rw [← wire, length_wire]
    omega
  obtain ⟨before, segment, after, opened⟩ := exists_firstOpen short
  refine ⟨before, segment, after, opened, opened.restOf_eq, ?_⟩
  rw [wire, opened.drop_flatten, remainingSegment, opened.restOf_eq]

end Cursor

/-! ## Partial writes -/

namespace Acceptor

variable {σ : Type u}

/-- Of an offer never more is accepted than it has. -/
def Honest (acceptor : Acceptor σ) : Prop :=
  ∀ side offer count, offer ≠ [] → (acceptor.write side offer).1 = .moved count →
    count ≤ offer.length

/-- Of an offer that has a byte at least one is accepted, or the offer is refused. -/
def Yields (acceptor : Acceptor σ) : Prop :=
  ∀ side offer count, offer ≠ [] → (acceptor.write side offer).1 = .moved count → 0 < count

/-- What a transmitter can come to that has not begun anything: it takes steps, and between any two
of them requests are queued or removed, the channel changes, the count of bytes is asked for and the
request under way is given up. -/
inductive Reached (acceptor : Acceptor σ) : Writing σ → Prop where
  | new (queue : List Request) (side : σ) : Reached acceptor { queue, side }
  | step {work : Writing σ} (now : Instant) (before : Reached acceptor work) :
      Reached acceptor (acceptor.step work now).2
  | elsewhere {work : Writing σ} (queue : List Request) (side : σ)
      (before : Reached acceptor work) : Reached acceptor { work with queue, side }
  | count {work : Writing σ} (before : Reached acceptor work) :
      Reached acceptor { work with transmitter := work.transmitter.takeSent.2 }
  | giveUp {work : Writing σ} (before : Reached acceptor work) :
      Reached acceptor { work with transmitter := work.transmitter.takeCurrent.2 }

/-- What holds of a cursor at the first byte of a record and is kept by every partial write holds of
each cursor that is reached. -/
theorem Reached.cursor {acceptor : Acceptor σ} {work : Writing σ} (h : acceptor.Reached work)
    {P : Cursor → Prop} (fresh : ∀ request, request.fits = true → P (.fresh request))
    (advance : ∀ (cursor : Cursor) (side : σ) (count : Nat), P cursor →
      cursor.isComplete = false →
      (acceptor.write side cursor.remainingSegment).1 = .moved count → P (cursor.advance count)) :
    ∀ cursor, work.transmitter.current = some cursor → P cursor := by
  induction h with
  | new queue side => rintro cursor ⟨⟩
  | @step work now before ih =>
    have wrote := acceptor.wrote_step work now
    generalize acceptor.step work now = result at wrote
    cases wrote with
    | idle | refused | stopped => exact ih
    | started free queue fits =>
      rintro cursor ⟨⟩
      exact fresh _ fits
    | transmitted => rintro cursor ⟨⟩
    | moved busy more answer =>
      rintro cursor ⟨⟩
      exact advance _ _ _ (ih _ busy) more (by rw [answer])
  | elsewhere queue side before ih => exact ih
  | count before ih => exact ih
  | giveUp before ih => rintro cursor ⟨⟩

/-- A cursor that is reached began at the first byte of a record that fits. -/
theorem Reached.began {acceptor : Acceptor σ} {work : Writing σ} (h : acceptor.Reached work) :
    ∀ cursor, work.transmitter.current = some cursor →
      ({ cursor with written := 0 } : Cursor).Valid :=
  h.cursor (fun _ fits => Cursor.valid_fresh fits) (fun _ _ _ began _ _ => began)

/-- A channel that accepts no more than it is offered keeps the cursor within the record. -/
theorem Reached.valid {acceptor : Acceptor σ} {work : Writing σ} (h : acceptor.Reached work)
    (honest : acceptor.Honest) :
    ∀ cursor, work.transmitter.current = some cursor → cursor.Valid :=
  h.cursor (fun _ fits => Cursor.valid_fresh fits) fun _ side _ valid more answer =>
    valid.advance (honest side _ _ (Cursor.remainingSegment_ne_nil more) answer)

end Acceptor

/-! ## Offers -/

namespace Writing

variable {σ : Type u}

/-- The same work on a channel that has kept no offer yet. -/
def recorded (work : Writing σ) : Writing (σ × List Bytes) :=
  ⟨work.transmitter, work.queue, (work.side, [])⟩

/-- The same work without the record of offers. -/
def unrecorded (work : Writing (σ × List Bytes)) : Writing σ :=
  ⟨work.transmitter, work.queue, work.side.1⟩

end Writing

namespace Acceptor

variable {σ : Type u}

/-- The same channel, which also keeps what it was offered. -/
def recording (acceptor : Acceptor σ) : Acceptor (σ × List Bytes) where
  write side offer :=
    let (answer, next) := acceptor.write side.1 offer
    (answer, (next, side.2 ++ [offer]))

theorem write_recording (acceptor : Acceptor σ) (side : σ × List Bytes) (offer : Bytes) :
    acceptor.recording.write side offer =
      ((acceptor.write side.1 offer).1, ((acceptor.write side.1 offer).2, side.2 ++ [offer])) := rfl

theorem offers_step (acceptor : Acceptor σ) (work : Writing (σ × List Bytes)) (now : Instant)
    (h : ∀ offer ∈ work.side.2, offer ≠ []) :
    ∀ offer ∈ (acceptor.recording.step work now).2.side.2, offer ≠ [] := by
  have concat {cursor : Cursor} (more : cursor.isComplete = false) :
      ∀ offer ∈ work.side.2 ++ [cursor.remainingSegment], offer ≠ [] := by
    intro offer mem
    rcases List.mem_append.1 mem with early | last
    · exact h offer early
    · rw [List.mem_singleton.1 last]
      exact Cursor.remainingSegment_ne_nil more
  have wrote := acceptor.recording.wrote_step work now
  generalize acceptor.recording.step work now = result at wrote
  cases wrote with
  | idle | started | refused | transmitted => exact h
  | moved busy more answer =>
    obtain ⟨-, rfl⟩ := Prod.mk.inj answer
    exact concat more
  | stopped busy more answer =>
    subst answer
    exact concat more

theorem offers_iterate (acceptor : Acceptor σ) (now : Instant) (n : Nat) (work : Writing σ) :
    ∀ offer ∈ ((acceptor.recording.next now)^[n] work.recorded).side.2, offer ≠ [] := by
  induction n with
  | zero => exact List.forall_mem_nil _
  | succ n ih =>
    rw [Function.iterate_succ_apply']
    exact acceptor.offers_step _ now ih

/-- That offers are kept makes no difference to the writing. -/
theorem unrecorded_next (acceptor : Acceptor σ) (now : Instant)
    (work : Writing (σ × List Bytes)) :
    (acceptor.recording.next now work).unrecorded = acceptor.next now work.unrecorded := by
  unfold next step
  rw [show work.unrecorded.transmitter = work.transmitter from rfl]
  split
  · rfl
  · unfold push
    split
    · rfl
    · rw [write_recording, show work.unrecorded.side = work.side.1 from rfl]
      rcases acceptor.write work.side.1 _ with ⟨_ | _ | _ | _, side⟩ <;> rfl

theorem unrecorded_iterate (acceptor : Acceptor σ) (now : Instant) (n : Nat) (work : Writing σ) :
    ((acceptor.recording.next now)^[n] work.recorded).unrecorded = (acceptor.next now)^[n] work :=
  (Function.Semiconj.iterate_right (acceptor.unrecorded_next now) n).eq work.recorded

end Acceptor

/-! ## The end of a flush -/

/-- A bound on the steps until writing stops. -/
def Writing.measure {σ : Type u} (work : Writing σ) : Nat := work.detached.measure

namespace Acceptor

variable {σ : Type u}

/-- A step that does not stop leaves less to do, if the channel yields. -/
theorem measure_step_lt {acceptor : Acceptor σ} (yields : acceptor.Yields) {work : Writing σ}
    {now : Instant} (h : ∀ why, (acceptor.step work now).1 ≠ .stopped why) :
    (acceptor.step work now).2.measure < work.measure := by
  have wrote := acceptor.wrote_step work now
  generalize acceptor.step work now = result at wrote h
  simp only [Writing.measure, Writing.detached, Transmitter.Work.measure]
  cases wrote with
  | idle | stopped => exact absurd rfl (h _)
  | started free queue | refused free queue =>
    simp only [free, queue, Transmitter.Work.queueCost, Transmitter.Work.cost, Cursor.totalLength,
      Cursor.fresh]
    omega
  | transmitted busy =>
    simp only [busy]
    omega
  | moved busy more answer =>
    have pos := yields _ _ _ (Cursor.remainingSegment_ne_nil more) (congrArg Prod.fst answer)
    have within := of_decide_eq_false more
    simp only [busy, Cursor.advance, Cursor.totalLength] at within ⊢
    omega

/-- Every flush comes to its end, if the channel yields. -/
theorem exists_flushes {acceptor : Acceptor σ} (yields : acceptor.Yields) (work : Writing σ)
    (now : Instant) : ∃ ending, acceptor.Flushes now work ending := by
  -- The induction is on what is left to do, of which each step that goes on leaves less.
  induction size : work.measure using Nat.strong_induction_on generalizing work with
  | _ n ih =>
    by_cases goes : ∀ why, (acceptor.step work now).1 ≠ .stopped why
    · have less : (acceptor.step work now).2.measure < n := size ▸ measure_step_lt yields goes
      obtain ⟨later, rest⟩ := ih _ less _ rfl
      exact ⟨_, .goOn rfl goes rest⟩
    · push Not at goes
      obtain ⟨why, stops⟩ := goes
      exact ⟨_, .stop (Prod.ext stops rfl)⟩

theorem existsUnique_flushes {acceptor : Acceptor σ} (yields : acceptor.Yields) (work : Writing σ)
    (now : Instant) : ∃! ending, acceptor.Flushes now work ending := by
  obtain ⟨ending, flushes⟩ := exists_flushes yields work now
  exact ⟨ending, flushes, fun _ again => flushes.unique again⟩

theorem Reached.iterate {acceptor : Acceptor σ} {work : Writing σ} (h : acceptor.Reached work)
    (now : Instant) (n : Nat) : acceptor.Reached ((acceptor.next now)^[n] work) := by
  induction n with
  | zero => exact h
  | succ n ih =>
    rw [Function.iterate_succ_apply']
    exact ih.step now

/-- What a flush leaves is reached, wherever it stopped. -/
theorem Reached.flushes {acceptor : Acceptor σ} {work : Writing σ} (h : acceptor.Reached work)
    {now : Instant} {ending : Ending σ} (flushes : acceptor.Flushes now work ending) :
    acceptor.Reached ending.work := by
  obtain ⟨n, steps⟩ := flushes.exists_steps
  rw [steps]
  exact h.iterate now n

/-- A channel that accepts nothing of an offer and stays as it was is offered the same for ever. -/
theorem not_flushes_of_still {acceptor : Acceptor σ} {work : Writing σ} {cursor : Cursor}
    (busy : work.transmitter.current = some cursor) (more : cursor.isComplete = false)
    (still : acceptor.write work.side cursor.remainingSegment = (.moved 0, work.side))
    (now : Instant) (ending : Ending σ) : ¬ acceptor.Flushes now work ending := by
  have incomplete : ¬ cursor.isComplete = true := by simp [more]
  have same : acceptor.step work now = (.moved, work) := by
    obtain ⟨⟨current, sent⟩, queue, side⟩ := work
    obtain rfl : current = some cursor := busy
    simp only [step, push, if_neg incomplete, still]
    rfl
  -- The rest of the flush is this flush again, so that no number of steps finishes it.
  intro flushes
  induction flushes with
  | stop step => cases same.symm.trans step
  | goOn step goes rest ih =>
    cases same.symm.trans step
    exact ih busy still same

end Acceptor

/-! ## Plain channels -/

namespace PlainChannel

/-- A plain channel accepts nothing of an offer of nothing, whatever its state. -/
theorem write_nil (channel : PlainChannel) (answer : Except SocketFault Nat) :
    channel.write [] answer = .ok (.moved 0) := rfl

/-- The departing side of a plain channel over a socket of any kind. The socket is asked when the
channel is connected and something is offered; a fault is told by its cause. -/
def acceptor {τ : Type u} (cause : SocketFault → IoError)
    (socket : τ → Bytes → Except SocketFault Nat × τ) : Acceptor (PlainChannel × τ) where
  write side offer :=
    let (answer, next) := socket side.2 offer
    let asked := side.1.access offer.length = .socket
    (match side.1.write offer answer with
      | .ok transfer => transfer
      | .error fault => .failed (cause fault),
      (side.1, if asked then next else side.2))

/-- What is moved of an offer the socket has taken. One that takes nothing has ended. -/
theorem taken_of_write {channel : PlainChannel} {offer : Bytes} {answer : Except SocketFault Nat}
    {count : Nat} (offered : offer ≠ []) (h : channel.write offer answer = .ok (.moved count)) :
    answer = .ok count ∧ 0 < count := by
  unfold write access at h
  rw [if_neg (by simpa using offered)] at h
  split_ifs at h with connected
  · cases answer with
    | ok taken =>
      dsimp only at h
      split_ifs at h with none
      · cases h
      · cases h
        exact ⟨rfl, Nat.pos_of_ne_zero none⟩
    | error fault => cases fault <;> cases h

variable {τ : Type u} {cause : SocketFault → IoError}
  {socket : τ → Bytes → Except SocketFault Nat × τ}

theorem taken_of_acceptor {side : PlainChannel × τ} {offer : Bytes} {count : Nat}
    (offered : offer ≠ []) (h : ((acceptor cause socket).write side offer).1 = .moved count) :
    (socket side.2 offer).1 = .ok count ∧ 0 < count := by
  simp only [acceptor] at h
  split at h
  · rename_i transfer answer
    rw [h] at answer
    exact taken_of_write offered answer
  · cases h

/-- A plain channel accepts no more than it is offered, if its socket takes no more. -/
theorem honest_acceptor
    (h : ∀ side offer count, (socket side offer).1 = .ok count → count ≤ offer.length) :
    (acceptor cause socket).Honest :=
  fun _ _ _ offered moved => h _ _ _ (taken_of_acceptor offered moved).1

theorem yields_acceptor : (acceptor cause socket).Yields :=
  fun _ _ _ offered moved => (taken_of_acceptor offered moved).2

end PlainChannel

/-! ## Progress -/

namespace Acceptor

/-- A cursor offers the rest of the first segment that is not fully written, and nothing just if its
record is complete. Wherever the transmitter can be, also after a flush, the segments are those of
its request, and the cursor is within the record if the channel accepts no more than it is offered.
However long it writes, it makes no empty offer to a channel of any kind, so that a flush comes to
its end if the channel accepts at least one byte of each offer or refuses it. A plain channel accepts
nothing of an offer of nothing, and yet every flush to it comes to its end, whatever its socket does.
The flush of the client is such a flush to a scripted channel. -/
theorem writing_progresses {σ : Type u} (acceptor : Acceptor σ) (work : Writing σ)
    (now : Instant) :
    (∀ cursor : Cursor, (cursor.remainingSegment = [] ↔ cursor.isComplete = true) ∧
      (cursor.isComplete = false → ∃ before segment after,
        Cursor.FirstOpen cursor.segments cursor.written before segment after ∧
        cursor.remainingSegment = segment.drop (cursor.written - before.flatten.length) ∧
        cursor.wire.drop cursor.written = cursor.remainingSegment ++ after.flatten)) ∧
    (acceptor.Reached work →
      (∀ cursor, work.transmitter.current = some cursor →
        cursor.segments = [Bytes.bigEndian 4 (2147483648 + cursor.request.bodyLength),
          cursor.request.header, cursor.request.payload] ∧
        (acceptor.Honest → cursor.written ≤ cursor.totalLength)) ∧
      ∀ ending, acceptor.Flushes now work ending → acceptor.Reached ending.work) ∧
    (∀ n, let kept := (acceptor.recording.next now)^[n] work.recorded
      kept.unrecorded = (acceptor.next now)^[n] work ∧ ∀ offer ∈ kept.side.2, offer ≠ []) ∧
    (∀ ending, acceptor.Flushes now work ending →
      ∃ n, ending.work = (acceptor.next now)^[n] work) ∧
    (acceptor.Yields → ∃! ending, acceptor.Flushes now work ending) ∧
    (∀ (channel : PlainChannel) (answer : Except SocketFault Nat),
      channel.write [] answer = .ok (.moved 0)) ∧
    (∀ {τ : Type u} (cause : SocketFault → IoError)
      (socket : τ → Bytes → Except SocketFault Nat × τ) (work : Writing (PlainChannel × τ)),
      ∃! ending, (PlainChannel.acceptor cause socket).Flushes now work ending) ∧
    ∀ work : Transmitter.Work,
      Outbound.acceptor.Flushes now work.writing (Transmitter.flush work now).ending := by
  refine ⟨fun cursor => ⟨cursor.remainingSegment_eq_nil_iff, cursor.exists_open⟩,
    fun reached => ⟨fun cursor busy => ⟨(reached.began cursor busy).segments_eq,
      fun honest => (reached.valid honest cursor busy).within⟩,
      fun ending flushes => reached.flushes flushes⟩,
    fun n => ⟨acceptor.unrecorded_iterate now n work, acceptor.offers_iterate now n work⟩,
    fun ending flushes => flushes.exists_steps, fun yields => existsUnique_flushes yields work now,
    PlainChannel.write_nil, fun cause socket work =>
      existsUnique_flushes PlainChannel.yields_acceptor work now,
    fun work => Transmitter.flushes_writing work now⟩

/-- A socket that takes up to three bytes at a time while it has room. -/
def narrow (room : Nat) (offer : Bytes) : Except SocketFault Nat × Nat :=
  if room = 0 then (.error .wouldBlock, 0)
  else
    let taken := min (min 3 room) offer.length
    (.ok taken, room - taken)

theorem le_of_narrow (room : Nat) (offer : Bytes) (count : Nat)
    (h : (narrow room offer).1 = .ok count) : count ≤ offer.length := by
  unfold narrow at h
  split_ifs at h
  cases h
  exact Nat.min_le_right _ _

/-- A request with a payload of three bytes and no call header. -/
def bare : Request :=
  { ticket := 0
    info := ⟨7, ⟨.v4 127 0 0 1, 2049⟩, 1, 2, 3⟩
    delivery := .callback
    header := []
    payload := [1, 2, 3]
    queuedAt := 0
    recordsTimings := false }

/-- The fragment header goes out in two writes, the empty call header is passed over, and the next
offer is the payload. The channel has room for one byte of it, and then the flush stops. -/
theorem writing_progresses_narrow :
    let acceptor := PlainChannel.acceptor (fun _ => ⟨"refused"⟩) narrow
    let start : Writing (PlainChannel × Nat) := ⟨{}, [bare], ⟨true, .connected⟩, 5⟩
    let work := (acceptor.next 0)^[3] start
    acceptor.Reached work ∧ acceptor.Honest ∧ acceptor.Yields ∧
      ∃ cursor, work.transmitter.current = some cursor ∧ cursor.isComplete = false ∧
        (∃ before segment after,
          Cursor.FirstOpen cursor.segments cursor.written before segment after ∧
          cursor.remainingSegment = segment.drop (cursor.written - before.flatten.length)) ∧
        cursor.segments = [[128, 0, 0, 3], [], [1, 2, 3]] ∧ cursor.remainingSegment = [1, 2, 3] ∧
        cursor.written ≤ cursor.totalLength ∧
        ∃ ending, acceptor.Flushes 0 work ending ∧
          acceptor.Reached ending.work ∧ ∃ n, ending.work = (acceptor.next 0)^[n] work := by
  intro acceptor start work
  have reached : acceptor.Reached work := (Reached.new [bare] _).iterate 0 3
  have honest : acceptor.Honest := PlainChannel.honest_acceptor le_of_narrow
  have yields : acceptor.Yields := PlainChannel.yields_acceptor
  have busy : work.transmitter.current = some ((Cursor.fresh bare).advance 4) := by decide
  have more : ((Cursor.fresh bare).advance 4).isComplete = false := by decide
  obtain ⟨offers, writes, -, steps, ends, -⟩ := writing_progresses acceptor work 0
  obtain ⟨before, segment, after, opened, rest, -⟩ := (offers _).2 more
  obtain ⟨segments, within⟩ := (writes reached).1 _ busy
  obtain ⟨ending, flushes, -⟩ := ends yields
  have left : acceptor.Reached ending.work := (writes reached).2 ending flushes
  exact ⟨reached, honest, yields, _, busy, more, ⟨before, segment, after, opened, rest⟩, segments,
    by decide, within honest, ending, flushes, left, steps ending flushes⟩

end Acceptor

end RemoteCall
