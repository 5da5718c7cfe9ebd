import RemoteCall.Proofs.Fragment.Reassembly

/-!
# Counting what is read

An assembler counts the bytes that it takes from the channel, whatever becomes of them: those of
headers and bodies, also of records that are never completed and of headers that are refused.
-/
namespace RemoteCall.Fragment.Assembler.Work

/-- Bytes were taken from the front of what has arrived, and counted. What is accepted stays. -/
structure Takes (work next : Work) : Prop where
  taken : ∃ bytes, work.side.pending = bytes ++ next.side.pending ∧
    next.assembler.received = work.assembler.received + bytes.length
  limit : next.assembler.limit = work.assembler.limit

variable {work middle next : Work}

theorem Takes.of_same (side : next.side = work.side)
    (received : next.assembler.received = work.assembler.received)
    (limit : next.assembler.limit = work.assembler.limit) : work.Takes next :=
  ⟨⟨[], by rw [side, List.nil_append], received⟩, limit⟩

theorem Takes.trans (first : work.Takes middle) (second : middle.Takes next) : work.Takes next := by
  obtain ⟨⟨bytes, pending, received⟩, limit⟩ := first
  obtain ⟨⟨more, pending', received'⟩, limit'⟩ := second
  refine ⟨⟨bytes ++ more, ?_, ?_⟩, limit'.trans limit⟩
  · rw [pending, pending', List.append_assoc]
  · rw [received', received, List.length_append, Nat.add_assoc]

/-- Bytes that are gone from what has arrived are not unread any more. -/
theorem unread_of_taken {side rest : Inbound} {bytes : Bytes}
    (taken : side.pending = bytes ++ rest.pending) : side.unread = rest.unread + bytes.length := by
  rw [Inbound.unread, Inbound.unread, taken, List.length_append, Nat.add_comm]

theorem takes_openFragment (work : Work) (header : Bytes) :
    work.Takes (work.openFragment header).2 := by
  unfold openFragment
  simp only
  split <;> exact .of_same rfl rfl rfl

theorem takes_fillHeader (work : Work) (header : Bytes) :
    work.Takes (work.fillHeader header).2 := by
  have reads := work.side.reads_read (headerSize - header.length)
  unfold fillHeader
  generalize work.side.read (headerSize - header.length) = answer at reads
  cases reads with
  | @moved bytes side split fits stop =>
    let filled : Work := { work with
      assembler := { work.assembler with
        phase := .header (header ++ bytes)
        received := work.assembler.received + bytes.length }
      side := side }
    have moved : work.Takes filled := ⟨⟨bytes, split.symm, rfl⟩, rfl⟩
    simp only
    split
    · exact moved
    · exact moved.trans (takes_openFragment filled _)
  | wouldBlock empty stop | ended empty stop | failed empty stop => exact .of_same rfl rfl rfl

theorem takes_fillBody (work : Work) (arrival : Arrival) :
    work.Takes (work.fillBody arrival).2 := by
  have reads := work.side.reads_read (arrival.size - arrival.filled)
  unfold fillBody
  split
  · generalize work.side.read (arrival.size - arrival.filled) = answer at reads
    cases reads with
    | @moved bytes side split fits stop => exact ⟨⟨bytes, split.symm, rfl⟩, rfl⟩
    | wouldBlock empty stop | ended empty stop | failed empty stop => exact .of_same rfl rfl rfl
  · unfold closeFragment
    simp only
    split <;> exact .of_same rfl rfl rfl

theorem takes_step (work : Work) : work.Takes work.step.2 := by
  unfold step
  split
  · exact takes_fillHeader work _
  · exact takes_fillBody work _

/-- Whatever reading comes to, what it took was counted. -/
theorem takes_run (work : Work) : work.Takes work.run.2 := by
  fun_induction run work with
  | case1 work reading next hstep =>
    have first := takes_step work
    rw [hstep] at first
    exact first
  | case2 work next hstep ih =>
    have first := takes_step work
    rw [hstep] at first
    exact first.trans ih

theorem takes_of_read {assembler : Assembler} {pool : BufferPool} {side : Inbound}
    {reading : Reading} {work : Work} (read : assembler.read pool side = (reading, work)) :
    Takes ⟨assembler, pool, side⟩ work := by
  have takes := takes_run ⟨assembler, pool, side⟩
  rw [← Assembler.read, read] at takes
  exact takes

/-! ## What the count does not change -/

/-- The same work with more bytes counted. -/
def ahead (work : Work) (more : Nat) : Work :=
  { work with
    assembler := { work.assembler with received := work.assembler.received + more } }

theorem openFragment_ahead (work : Work) (more : Nat) (header : Bytes) :
    (work.ahead more).openFragment header =
      ((work.openFragment header).1, (work.openFragment header).2.ahead more) := by
  unfold openFragment
  simp only
  split
  · rename_i exceeds
    rw [if_pos (show work.assembler.limit < _ from exceeds)]
  · rename_i admitted
    rw [if_neg (show ¬ work.assembler.limit < _ from admitted)]
    rfl

theorem fillHeader_ahead (work : Work) (more : Nat) (header : Bytes) :
    (work.ahead more).fillHeader header =
      ((work.fillHeader header).1, (work.fillHeader header).2.ahead more) := by
  unfold fillHeader
  have side : (work.ahead more).side = work.side := rfl
  rw [side]
  cases work.side.read (headerSize - header.length) with
  | mk transfer side =>
    cases transfer with
    | moved bytes =>
      let filled : Work := { work with
        assembler := { work.assembler with
          phase := .header (header ++ bytes)
          received := work.assembler.received + bytes.length }
        side := side }
      have counted : { work.ahead more with
          assembler := { (work.ahead more).assembler with
            phase := .header (header ++ bytes)
            received := (work.ahead more).assembler.received + bytes.length }
          side := side } = filled.ahead more := by
        simp only [ahead, filled, Nat.add_right_comm]
      by_cases short : (header ++ bytes).length < headerSize
      · simp only [if_pos short]
        exact congrArg (Prod.mk none) counted
      · simp only [if_neg short]
        exact (congrArg (openFragment · _) counted).trans (openFragment_ahead filled more _)
    | wouldBlock | ended | failed cause => rfl

theorem closeFragment_ahead (work : Work) (more : Nat) (arrival : Arrival) :
    (work.ahead more).closeFragment arrival =
      ((work.closeFragment arrival).1, (work.closeFragment arrival).2.ahead more) := by
  unfold closeFragment
  cases last : arrival.isLast <;> simp [ahead]

theorem fillBody_ahead (work : Work) (more : Nat) (arrival : Arrival) :
    (work.ahead more).fillBody arrival =
      ((work.fillBody arrival).1, (work.fillBody arrival).2.ahead more) := by
  unfold fillBody
  split
  · have side : (work.ahead more).side = work.side := rfl
    rw [side]
    cases work.side.read (arrival.size - arrival.filled) with
    | mk transfer side =>
      cases transfer with
      | moved bytes =>
        have counted := Nat.add_right_comm work.assembler.received more bytes.length
        simp only [ahead, counted]
      | wouldBlock | ended | failed cause => rfl
  · exact closeFragment_ahead work more arrival

theorem step_ahead (work : Work) (more : Nat) :
    (work.ahead more).step = (work.step.1, work.step.2.ahead more) := by
  unfold step
  have phase : (work.ahead more).assembler.phase = work.assembler.phase := rfl
  rw [phase]
  cases work.assembler.phase with
  | header bytes => exact fillHeader_ahead work more bytes
  | body arrival => exact fillBody_ahead work more arrival

/-- What was counted before makes no difference to anything but the count. -/
theorem run_ahead (work : Work) (more : Nat) :
    (work.ahead more).run = (work.run.1, work.run.2.ahead more) := by
  fun_induction run work with
  | case1 work reading next step =>
    have ahead := work.step_ahead more
    rw [step] at ahead
    exact run_of_answer ahead
  | case2 work next step ih =>
    have ahead := work.step_ahead more
    rw [step] at ahead
    rw [run_of_step ahead]
    exact ih

end RemoteCall.Fragment.Assembler.Work
