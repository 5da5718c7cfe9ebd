import RemoteCall.Proofs.Fragment.Counting
import RemoteCall.Proofs.Fragment.Delivery

/-!
# Refusal and renewal

A header over the limit stays in the assembler and is in the way of all that follows, whatever
arrives and however often the assembler is asked. A reset takes it away, together with the record
under way. It does so in any state, and what the state was shows in nothing but the count of bytes.
-/
namespace RemoteCall.Fragment

namespace Assembler.Work

variable {work next : Work} {length : UInt32}

theorem stuck_of_openFragment {header : Bytes} (phase : work.assembler.phase = .header header)
    (full : headerSize ≤ header.length)
    (opened : work.openFragment header = (some (.overLimit length), next)) :
    next.assembler.Stuck length := by
  unfold openFragment at opened
  simp only at opened
  split at opened
  · rename_i exceeds
    cases opened
    exact ⟨⟨header, phase, full, rfl⟩, exceeds⟩
  · cases opened

/-- A refusal leaves the header that was refused in the assembler. -/
theorem stuck_of_step (step : work.step = (some (.overLimit length), next)) :
    next.assembler.Stuck length := by
  unfold Work.step at step
  split at step
  · rename_i header phase
    unfold fillHeader at step
    split at step
    · simp only at step
      split at step
      · cases step
      · rename_i full
        exact stuck_of_openFragment rfl (Nat.le_of_not_lt full) step
    all_goals cases step
  · rename_i arrival phase
    unfold fillBody closeFragment at step
    split at step
    · split at step <;> cases step
    · simp only at step
      split at step <;> cases step

theorem stuck_of_run (run : work.run = (.overLimit length, next)) : next.assembler.Stuck length := by
  fun_induction Work.run work with
  | case1 work reading next' step =>
    cases run
    exact stuck_of_step step
  | case2 work next' step ih => exact ih run

end Assembler.Work

/-- The bytes read are counted, and the count starts over. -/
def Incident.counts : Incident → Bool
  | count => true
  | _ => false

namespace Receiver

/-! ## Refusal -/

/-- Nothing was taken and nothing was returned: what has arrived is there, and but for its count the
assembler is the same. -/
structure Waits (receiver later : Receiver) (stream : Bytes) : Prop where
  assembler : later.assembler = { receiver.assembler with received := later.assembler.received }
  pending : later.side.pending = receiver.side.pending ++ stream
  records : later.records = receiver.records

section

variable {receiver middle later : Receiver} {first second : Bytes} {length : UInt32}

theorem Waits.trans (before : receiver.Waits middle first) (after : middle.Waits later second) :
    receiver.Waits later (first ++ second) := by
  refine ⟨?_, ?_, after.records.trans before.records⟩
  · rw [after.assembler, before.assembler]
  · rw [after.pending, before.pending, List.append_assoc]

theorem Waits.stuck (waits : receiver.Waits later first)
    (stuck : receiver.assembler.Stuck length) : later.assembler.Stuck length := by
  rw [waits.assembler]
  exact ⟨stuck.header, stuck.exceeds⟩

/-- With a header over the limit in the way no read takes or returns anything. -/
theorem waits_handle (stuck : receiver.assembler.Stuck length) (incident : Incident) :
    receiver.Waits (receiver.handle incident) incident.bytes := by
  cases incident with
  | arrive chunk => exact ⟨rfl, receiver.side.pending_feed chunk, rfl⟩
  | fail cause => exact ⟨rfl, (List.append_nil _).symm, rfl⟩
  | finish on => exact ⟨rfl, (List.append_nil _).symm, rfl⟩
  | count => exact ⟨rfl, (List.append_nil _).symm, rfl⟩
  | read pool =>
    let work : Assembler.Work := ⟨receiver.assembler, pool, receiver.side⟩
    have stuck' : work.assembler.Stuck length := stuck
    obtain ⟨reading, side, run, answers, pending⟩ := Assembler.Work.run_of_stuck stuck'
    have handled : receiver.handle (.read pool) =
        receiver.answer reading { work with side := side } := by
      rw [handle, Assembler.read, run]
      rfl
    have none : reading.bodies? = none := by
      rcases answers with rfl | rfl
      · rfl
      · exact stop_bodies? _
    rw [handled]
    refine ⟨rfl, ?_, ?_⟩
    · exact pending.trans (List.append_nil _).symm
    · rw [records_answer, none]
      exact List.append_nil _

/-- Whatever happens, a header over the limit stays in the way. -/
theorem waits_foldl (stuck : receiver.assembler.Stuck length) (schedule : List Incident) :
    receiver.Waits (schedule.foldl handle receiver) (arrived schedule) := by
  induction schedule generalizing receiver with
  | nil => exact ⟨rfl, (List.append_nil _).symm, rfl⟩
  | cons incident later ih =>
    have first := waits_handle stuck incident
    exact first.trans (ih (first.stuck stuck))

end

/-! ## Renewal -/

/-- The same receiver with more bytes counted by its assembler. -/
def ahead (receiver : Receiver) (more : Nat) : Receiver :=
  { receiver with
    assembler := { receiver.assembler with received := receiver.assembler.received + more } }

theorem read_ahead (receiver : Receiver) (more : Nat) (pool : BufferPool) :
    (receiver.ahead more).assembler.read pool (receiver.ahead more).side =
      ((receiver.assembler.read pool receiver.side).1,
        (receiver.assembler.read pool receiver.side).2.ahead more) :=
  Assembler.Work.run_ahead ⟨receiver.assembler, pool, receiver.side⟩ more

theorem handle_ahead (receiver : Receiver) (more : Nat) (incident : Incident) :
    (receiver.ahead more).handle incident =
      (receiver.handle incident).ahead (if incident.counts then 0 else more) := by
  cases incident with
  | arrive chunk | fail cause | finish on | count => rfl
  | read pool =>
    simp only [handle, read_ahead]
    rfl

/-- What was counted before shows until the bytes are counted, and makes no other difference. -/
theorem foldl_handle_ahead (receiver : Receiver) (more : Nat) (schedule : List Incident) :
    schedule.foldl handle (receiver.ahead more) =
      (schedule.foldl handle receiver).ahead (if schedule.any Incident.counts then 0 else more) := by
  induction schedule generalizing receiver more with
  | nil => rfl
  | cons incident later ih =>
    rw [List.foldl_cons, List.foldl_cons, handle_ahead, ih, List.any_cons]
    cases incident.counts <;> simp

/-- An assembler that was reset is a new one with more bytes counted. -/
theorem reset_eq_ahead (assembler : Assembler) (pool : BufferPool) (side : Inbound) :
    (⟨(assembler.reset pool).1, side, []⟩ : Receiver) =
      ({ assembler := { limit := assembler.limit }, side } : Receiver).ahead assembler.received := by
  simp [Assembler.reset, ahead]

/-- Once a header over the limit was refused nothing more is taken, borrowed or returned and no
fragment is let go of, whatever arrives and however often the assembler is asked. A reset gives back
every buffer of the record under way, once, in whatever state the assembler is. From then on it
answers as a new one does whatever happens: with the same records in the same buffers, if the pool
lends both the same. It only has the bytes in addition that were read before and not yet counted. -/
theorem refusal_sticks_until_reset :
    (∀ (assembler : Assembler) (pool : BufferPool) (side : Inbound) (length : UInt32)
        (work : Assembler.Work), assembler.read pool side = (.overLimit length, work) →
      ∀ schedule : List Incident,
        let later : Receiver := schedule.foldl handle ⟨work.assembler, work.side, []⟩
        later.side.pending = work.side.pending ++ arrived schedule ∧
        later.records = [] ∧
        later.assembler.held = work.assembler.held ∧
        later.assembler.pendingFragments = work.assembler.pendingFragments ∧
        ∀ pool reading next, later.assembler.read pool later.side = (reading, next) →
          next.pool = pool ∧ next.side.pending = later.side.pending ∧
            (reading = .overLimit length ∨ reading = later.side.stop)) ∧
    ∀ (assembler : Assembler) (pool : BufferPool),
      (assembler.reset pool).1.held = [] ∧
      (assembler.reset pool).2 = pool.releaseAll assembler.held ∧
      (assembler.reset pool).2.released = pool.released + assembler.pendingFragments ∧
      ∀ (side : Inbound) (schedule : List Incident),
        let later : Receiver := schedule.foldl handle ⟨(assembler.reset pool).1, side, []⟩
        let new : Receiver :=
          schedule.foldl handle { assembler := { limit := assembler.limit }, side }
        later.answers = new.answers ∧
        later.side = new.side ∧
        (∀ pool, (later.assembler.read pool later.side).1 = (new.assembler.read pool new.side).1 ∧
          (later.assembler.read pool later.side).2.pool =
            (new.assembler.read pool new.side).2.pool) ∧
        later.assembler = { new.assembler with
          received := new.assembler.received +
            if schedule.any Incident.counts then 0 else assembler.received } := by
  refine ⟨fun assembler pool side length work read schedule => ?_, fun assembler pool =>
    ⟨rfl, rfl, ?_, fun side schedule => ?_⟩⟩
  · have stuck : work.assembler.Stuck length := Assembler.Work.stuck_of_run read
    let refused : Receiver := ⟨work.assembler, work.side, []⟩
    have stuck' : refused.assembler.Stuck length := stuck
    have waits := waits_foldl stuck' schedule
    intro later
    have same : later.assembler = { work.assembler with received := later.assembler.received } :=
      waits.assembler
    refine ⟨waits.pending, waits.records, ?_, ?_, fun pool reading next read => ?_⟩
    · rw [same]
      rfl
    · rw [same]
      rfl
    · let asked : Assembler.Work := ⟨later.assembler, pool, later.side⟩
      have still : asked.assembler.Stuck length := waits.stuck stuck'
      obtain ⟨reading', side', run, answers, pending⟩ := Assembler.Work.run_of_stuck still
      cases read.symm.trans run
      exact ⟨rfl, pending, answers⟩
  · show (pool.releaseAll assembler.held).released = _
    rw [BufferPool.released_releaseAll, Assembler.length_held]
  · intro later new
    have same : later =
        new.ahead (if schedule.any Incident.counts then 0 else assembler.received) := by
      show schedule.foldl handle _ = _
      rw [reset_eq_ahead, foldl_handle_ahead]
    rw [same]
    refine ⟨rfl, rfl, fun pool => ?_, rfl⟩
    rw [read_ahead]
    exact ⟨rfl, rfl⟩

/-- The second fragment of a record is announced with one byte more than the limit. -/
theorem refusal_sticks_until_reset_second_fragment :
    let side : Inbound := { chunks := [[0, 0, 0, 2, 97, 98, 0x80, 0, 0, 17]] }
    let read : Reading × Assembler.Work := ({ limit := 16 } : Assembler).read {} side
    let schedule : List Incident := [.arrive [1, 2, 3], .read {}, .finish true, .read {}]
    let later : Receiver := schedule.foldl handle ⟨read.2.assembler, read.2.side, []⟩
    read.1 = .overLimit 17 ∧ later.side.pending = [1, 2, 3] ∧
      later.assembler.pendingFragments = 1 ∧ (later.assembler.reset {}).2.released = 1 := by
  intro side read schedule later
  have refused : read.1 = .overLimit 17 := by decide +kernel
  have fragments : read.2.assembler.pendingFragments = 1 := by decide +kernel
  have nothing : read.2.side.pending = [] := by decide +kernel
  obtain ⟨sticks, renews⟩ := refusal_sticks_until_reset
  obtain ⟨pending, -, -, same, -⟩ := sticks { limit := 16 } {} side 17 read.2 (Prod.ext refused rfl)
    schedule
  have one : later.assembler.pendingFragments = 1 := same.trans fragments
  refine ⟨refused, ?_, one, ?_⟩
  · rw [pending, nothing]
    rfl
  · rw [(renews later.assembler {}).2.2.1, one]

end Receiver

end RemoteCall.Fragment
