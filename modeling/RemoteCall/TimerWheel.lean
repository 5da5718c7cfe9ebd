/-!
# Timer wheels

Timers that are far away need not be told apart yet. A wheel keeps them on six levels of 64 slots
each, arranged in a circle: a slot of the lowest level is one millisecond wide, and on every other
level a slot is as wide as the whole circle below. A timer stands on the lowest level whose circle
reaches it from the millisecond served, or else on the highest. When its slot is reached it goes off
if it is due, and otherwise moves to a level below or waits for the next round. On a level the slots
are looked through from the one that was served last, so a timer in that very slot comes first and
waits for a whole round.
-/
namespace RemoteCall

structure Timer (α : Type) where
  owner : α
  /-- When it is due, in milliseconds. -/
  deadline : Nat
  level : Nat
  deriving DecidableEq, Repr

/-- Timers in the order in which they came to their slots. -/
structure TimerWheel (α : Type) where
  /-- The millisecond up to which timers were served. -/
  served : Nat := 0
  timers : List (Timer α) := []
  deriving DecidableEq, Repr

namespace TimerWheel

variable {α : Type}

/-- The width of the slots of a level. -/
def width : Nat → Nat
  | 0 => 1
  | level + 1 => 64 * width level

/-- The highest level. -/
def top : Nat := 5

/-- The lowest level, from this one on, whose circle reaches the deadline. -/
def levelFrom (served deadline : Nat) : Nat → Nat → Nat
  | 0, level => level
  | higher + 1, level =>
      if served / width (level + 1) = deadline / width (level + 1) then level
      else levelFrom served deadline higher (level + 1)

def levelFor (served deadline : Nat) : Nat := levelFrom served deadline top 0

def insert (wheel : TimerWheel α) (owner : α) (deadline : Nat) : TimerWheel α :=
  { wheel with timers := wheel.timers ++ [⟨owner, deadline, levelFor wheel.served deadline⟩] }

/-- Take out the timers of an owner. -/
def cancel [BEq α] (wheel : TimerWheel α) (owner : α) : TimerWheel α :=
  { wheel with timers := wheel.timers.filter (·.owner != owner) }

/-- The first slot behind `now` at the place of `slot` in the circle. -/
def inCircle (now slot : Nat) : Nat :=
  let place := now / 64 * 64 + slot % 64
  if place ≤ now then place + 64 else place

/-- When the slot of a timer is reached. -/
def reachedAt (wheel : TimerWheel α) (timer : Timer α) : Nat :=
  inCircle (wheel.served / width timer.level) (timer.deadline / width timer.level)
    * width timer.level

/-- How many slots lie between the one that was served last and that of a timer. -/
def distance (wheel : TimerWheel α) (timer : Timer α) : Nat :=
  (timer.deadline / width timer.level + 64 - wheel.served / width timer.level % 64) % 64

/-- The slot of one timer is looked at before that of another. -/
def precedes (wheel : TimerWheel α) (a b : Timer α) : Bool :=
  a.level < b.level || a.level == b.level && wheel.distance a < wheel.distance b

/-- A timer of the slot that is looked at first. -/
def first? (wheel : TimerWheel α) : Option (Timer α) :=
  wheel.timers.foldl (fun first timer =>
    match first with
    | none => some timer
    | some best => some (if wheel.precedes timer best then timer else best)) none

/-- When the next slot is reached. -/
def alarm? (wheel : TimerWheel α) : Option Nat := wheel.first?.map wheel.reachedAt

/-- Serve the slot of a timer: the owners whose timers go off, and the wheel with the others. -/
def serveSlot (wheel : TimerWheel α) (timer : Timer α) : List α × TimerWheel α :=
  let moment := wheel.reachedAt timer
  let (here, others) := wheel.timers.partition fun t =>
    t.level == timer.level && wheel.distance t == wheel.distance timer
  let (due, early) := here.partition (·.deadline ≤ moment)
  let moved := early.map fun t => { t with level := levelFor moment t.deadline }
  (due.map (·.owner), ⟨moment, others ++ moved⟩)

/-- Serve at most so many slots up to a millisecond. -/
def serveIn : Nat → TimerWheel α → Nat → List α × TimerWheel α
  | 0, wheel, now => ([], { wheel with served := now })
  | slots + 1, wheel, now =>
      match wheel.first? with
      | none => ([], { wheel with served := now })
      | some timer =>
          if wheel.reachedAt timer ≤ now then
            let (due, wheel) := wheel.serveSlot timer
            let (later, wheel) := serveIn slots wheel now
            (due ++ later, wheel)
          else ([], { wheel with served := now })

/-- Serve every slot up to a millisecond: the owners whose timers go off, in order. Each slot lies
behind the one before, so there are no more of them than milliseconds. -/
def serve (wheel : TimerWheel α) (now : Nat) : List α × TimerWheel α :=
  serveIn (now - wheel.served) wheel now

end TimerWheel

end RemoteCall
