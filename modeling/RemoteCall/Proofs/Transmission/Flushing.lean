import RemoteCall.Proofs.Transmission.Wire

/-!
# Flushing a channel of any kind

A channel of any kind answers an offer by accepting a number of bytes or by refusing, and is another
one afterwards. The transmitter writes to it in steps, and a flush is finished by a step that stops;
that there is such a step is not taken for granted. A flush comes to at most one end, and the flush
of the client is the one to a scripted channel.
-/
namespace RemoteCall

universe u

/-! ## Channels of any kind -/

/-- The departing side of a channel of any kind: what it answers to an offer, and what it is then. -/
structure Acceptor (σ : Type u) where
  write : σ → Bytes → Transfer Nat × σ

/-- A transmitter with the queue it takes from and the channel it writes to. -/
structure Writing (σ : Type u) where
  transmitter : Transmitter := {}
  queue : List Request
  side : σ

/-- What a flush comes to. -/
structure Ending (σ : Type u) where
  why : Flushed
  transmitted : List Request
  notices : List Notice
  work : Writing σ

namespace Writing

variable {σ : Type u}

/-- The transmitter and its queue, detached from the channel. -/
def detached (work : Writing σ) : Transmitter.Work := ⟨work.transmitter, work.queue, {}⟩

/-- Take up the head of the queue, which does not concern the channel. -/
def takeUp (work : Writing σ) : Transmitter.Effect × Writing σ :=
  let (effect, next) := work.detached.takeUp
  (effect, ⟨next.transmitter, next.queue, work.side⟩)

end Writing

namespace Acceptor

variable {σ : Type u}

/-- Offer the next segment to the channel, or let go of a request that is written completely. -/
def push (acceptor : Acceptor σ) (work : Writing σ) (cursor : Cursor) (now : Instant) :
    Transmitter.Effect × Writing σ :=
  if cursor.isComplete then
    (.transmitted (cursor.request.markSent now),
      { work with transmitter := { work.transmitter with current := none } })
  else
    match acceptor.write work.side cursor.remainingSegment with
    | (.moved count, side) =>
        (.moved,
          { work with
            transmitter := ⟨some (cursor.advance count), work.transmitter.sent + count⟩
            side := side })
    | (.wouldBlock, side) => (.stopped .wouldBlock, { work with side := side })
    | (.ended, side) => (.stopped .ended, { work with side := side })
    | (.failed cause, side) => (.stopped (.failed cause), { work with side := side })

def step (acceptor : Acceptor σ) (work : Writing σ) (now : Instant) :
    Transmitter.Effect × Writing σ :=
  match work.transmitter.current with
  | none => work.takeUp
  | some cursor => acceptor.push work cursor now

/-- A flush is finished by a step that stops; before it, each step adds what it passed on or refused
to what the rest of the flush comes to. A flush that goes on for ever comes to nothing. -/
inductive Flushes (acceptor : Acceptor σ) (now : Instant) : Writing σ → Ending σ → Prop where
  | stop {work next : Writing σ} {why : Flushed}
      (step : acceptor.step work now = (.stopped why, next)) :
      Flushes acceptor now work ⟨why, [], [], next⟩
  | goOn {work next : Writing σ} {effect : Transmitter.Effect} {later : Ending σ}
      (step : acceptor.step work now = (effect, next)) (goes : ∀ why, effect ≠ .stopped why)
      (rest : Flushes acceptor now next later) :
      Flushes acceptor now work
        { later with
          transmitted := effect.passed ++ later.transmitted
          notices := effect.notices ++ later.notices }

/-- The work after a step, whatever the step did. -/
def next (acceptor : Acceptor σ) (now : Instant) (work : Writing σ) : Writing σ :=
  (acceptor.step work now).2

/-- The kinds of steps of writing to a channel of any kind. -/
inductive Wrote (acceptor : Acceptor σ) (work : Writing σ) (now : Instant) :
    Transmitter.Effect × Writing σ → Prop where
  | idle (free : work.transmitter.current = none) (queue : work.queue = []) :
      Wrote acceptor work now (.stopped .idle, work)
  | started {request : Request} {later : List Request} (free : work.transmitter.current = none)
      (queue : work.queue = request :: later) (fits : request.fits = true) :
      Wrote acceptor work now (.started,
        { work with
          transmitter := { work.transmitter with current := some (.fresh request) }
          queue := later })
  | refused {request : Request} {later : List Request} (free : work.transmitter.current = none)
      (queue : work.queue = request :: later) (large : request.fits = false) :
      Wrote acceptor work now (.refused request request.oversize, { work with queue := later })
  | transmitted {cursor : Cursor} (busy : work.transmitter.current = some cursor)
      (complete : cursor.isComplete = true) :
      Wrote acceptor work now (.transmitted (cursor.request.markSent now),
        { work with transmitter := { work.transmitter with current := none } })
  | moved {cursor : Cursor} {count : Nat} {side : σ}
      (busy : work.transmitter.current = some cursor) (more : cursor.isComplete = false)
      (answer : acceptor.write work.side cursor.remainingSegment = (.moved count, side)) :
      Wrote acceptor work now (.moved,
        { work with
          transmitter := ⟨some (cursor.advance count), work.transmitter.sent + count⟩
          side := side })
  | stopped {cursor : Cursor} {why : Flushed} {side : σ}
      (busy : work.transmitter.current = some cursor) (more : cursor.isComplete = false)
      (answer : (acceptor.write work.side cursor.remainingSegment).2 = side) :
      Wrote acceptor work now (.stopped why, { work with side := side })

theorem wrote_takeUp (acceptor : Acceptor σ) {work : Writing σ}
    (free : work.transmitter.current = none) (now : Instant) :
    acceptor.Wrote work now work.takeUp := by
  have idle : work.detached.transmitter.current = none := free
  have wrote := Transmitter.Work.wrote_takeUp idle now
  unfold Writing.takeUp
  generalize work.detached.takeUp = result at wrote
  cases wrote with
  | idle free queue => exact .idle free queue
  | started free queue fits => exact .started free queue fits
  | refused free queue large => exact .refused free queue large
  | transmitted busy | moved busy | stopped busy => cases free.symm.trans busy

theorem wrote_push (acceptor : Acceptor σ) {work : Writing σ} {cursor : Cursor}
    (busy : work.transmitter.current = some cursor) (now : Instant) :
    acceptor.Wrote work now (acceptor.push work cursor now) := by
  unfold push
  split
  · rename_i complete
    exact .transmitted busy complete
  · rename_i more
    rw [Bool.not_eq_true] at more
    split
    · rename_i count side answer
      exact .moved busy more answer
    all_goals
      rename_i answer
      exact .stopped busy more (by rw [answer])

/-- Every step is of one of the kinds of `Wrote`. -/
theorem wrote_step (acceptor : Acceptor σ) (work : Writing σ) (now : Instant) :
    acceptor.Wrote work now (acceptor.step work now) := by
  unfold step
  split
  · rename_i free
    exact acceptor.wrote_takeUp free now
  · rename_i cursor busy
    exact acceptor.wrote_push busy now

/-- A flush comes to one end. -/
theorem Flushes.unique {acceptor : Acceptor σ} {now : Instant} {work : Writing σ}
    {one other : Ending σ} (h : acceptor.Flushes now work one)
    (h' : acceptor.Flushes now work other) : other = one := by
  induction h generalizing other with
  | stop step =>
    cases h' with
    | stop step' =>
      cases step.symm.trans step'
      rfl
    | goOn step' goes =>
      cases step.symm.trans step'
      exact absurd rfl (goes _)
  | goOn step goes rest ih =>
    cases h' with
    | stop step' =>
      cases step.symm.trans step'
      exact absurd rfl (goes _)
    | goOn step' goes' rest' =>
      cases step.symm.trans step'
      rw [ih rest']

/-- What a flush leaves is what a number of steps leave. -/
theorem Flushes.exists_steps {acceptor : Acceptor σ} {now : Instant} {work : Writing σ}
    {ending : Ending σ} (h : acceptor.Flushes now work ending) :
    ∃ n, ending.work = (acceptor.next now)^[n] work := by
  induction h with
  | stop step => exact ⟨1, by rw [Function.iterate_one, next, step]⟩
  | goOn step goes rest ih =>
    obtain ⟨n, steps⟩ := ih
    exact ⟨n + 1, by rw [steps, Function.iterate_succ_apply, next, step]⟩

end Acceptor

/-! ## Scripted channels -/

/-- The departing side of a scripted channel. -/
def Outbound.acceptor : Acceptor Outbound := ⟨Outbound.write⟩

namespace Transmitter

/-- Work on a scripted channel, as work on a channel. -/
def Work.writing (work : Work) : Writing Outbound := ⟨work.transmitter, work.queue, work.side⟩

/-- A finished flush of a scripted channel, as one of a channel. -/
def Flush.ending (flush : Flush) : Ending Outbound :=
  ⟨flush.why, flush.transmitted, flush.notices, flush.work.writing⟩

theorem Work.takeUp_writing (work : Work) :
    work.writing.takeUp = (work.takeUp.1, work.takeUp.2.writing) := by
  obtain ⟨transmitter, queue, side⟩ := work
  cases queue with
  | nil => rfl
  | cons request later =>
    simp only [Writing.takeUp, takeUp, Writing.detached, writing]
    cases Cursor.start request <;> rfl

theorem Work.push_writing (work : Work) (cursor : Cursor) (now : Instant) :
    Outbound.acceptor.push work.writing cursor now =
      ((work.push cursor now).1, (work.push cursor now).2.writing) := by
  simp only [Acceptor.push, push, Outbound.acceptor, writing]
  cases cursor.isComplete with
  | true => rfl
  | false => rcases work.side.write _ with ⟨_ | _ | _ | _, side⟩ <;> rfl

theorem Work.step_writing (work : Work) (now : Instant) :
    Outbound.acceptor.step work.writing now = ((work.step now).1, (work.step now).2.writing) := by
  rw [Acceptor.step, step, show work.writing.transmitter = work.transmitter from rfl]
  cases work.transmitter.current with
  | none => exact work.takeUp_writing
  | some cursor => exact work.push_writing cursor now

/-- The client's flush is that of a channel of any kind on a scripted one. -/
theorem flushes_writing (work : Work) (now : Instant) :
    Outbound.acceptor.Flushes now work.writing (flush work now).ending := by
  have step {work : Work} {result : Effect × Work} (h : work.step now = result) :
      Outbound.acceptor.step work.writing now = (result.1, result.2.writing) := by
    rw [work.step_writing, h]
  fun_induction flush work now with
  | case1 work why next h => exact .stop (step h)
  | case2 work next h ih | case3 work next h ih | case4 work request failure next h later ih
  | case5 work request next h later ih =>
    exact .goOn (step h) (fun _ => Effect.noConfusion) ih

end Transmitter

end RemoteCall
