import RemoteCall.Clock
import RemoteCall.TimerWheel

/-!
# The thread of a client

The loop and the drivers of a client share one thread. The thread looks for a driver that was woken,
lets it run and looks again; when it finds none it sleeps until it is called or until its alarm.
Drivers woken on the thread itself come before those woken by callers and peers, except at every
31st look, and after 61 drivers in a row the thread turns to the loop and to its timers. It counts
time in whole milliseconds from its start. However far its alarm is, it sleeps less than `2 ^ 31`
milliseconds at a time.
-/
namespace RemoteCall

/-- Who waits for a timer. -/
inductive Sleeper where
  | loop
  | driver (session : Nat)
  deriving DecidableEq, Repr

structure Thread where
  /-- When the thread started. -/
  origin : Instant := 0
  /-- How often it has looked for a woken driver. -/
  looks : Nat := 0
  /-- It was called since it last woke, so it will not sleep. -/
  called : Bool := false
  timers : TimerWheel Sleeper := {}
  /-- The millisecond for which the alarm is set. -/
  alarm : Option Nat := none
  deriving DecidableEq, Repr

namespace Thread

/-- The longest row of drivers that run before the thread turns to the loop. -/
def longestRow : Nat := 61

/-- Of so many looks one prefers the drivers that were woken from outside. -/
def outsideTurn : Nat := 31

/-- The longest time that it sleeps, in milliseconds. -/
def longestSleep : Nat := 2147483647

def callIf (thread : Thread) (reason : Bool) : Thread :=
  { thread with called := thread.called || reason }

def look (thread : Thread) : Thread := { thread with looks := thread.looks + 1 }

/-- The look that was just taken prefers the drivers that were woken from outside. -/
def prefersOutside (thread : Thread) : Bool := thread.looks % outsideTurn == 0

/-- The first whole millisecond at or after a moment. -/
def millis (thread : Thread) (moment : Instant) : Nat :=
  (moment - thread.origin + 999999) / 1000000

/-- Set the timer of a sleeper, in place of the one that it had. The thread is called if its alarm
would come too late for the timer. -/
def setTimer (thread : Thread) (sleeper : Sleeper) (deadline : Instant) : Thread :=
  let ms := thread.millis deadline
  { thread with timers := (thread.timers.cancel sleeper).insert sleeper ms }.callIf
    (thread.alarm.all (ms < ·))

def cancelTimer (thread : Thread) (sleeper : Sleeper) : Thread :=
  { thread with timers := thread.timers.cancel sleeper }

/-- A thread that has just started, with the first timer of the loop. Its first look, before that
timer was set, finds nothing. -/
def started (now deadline : Instant) : Thread :=
  { origin := now, looks := 1 : Thread }.setTimer .loop deadline

/-- Set the alarm for the timers. -/
def setAlarm (thread : Thread) : Thread := { thread with alarm := thread.timers.alarm? }

/-- Wake: the sleepers whose timers go off, and the thread. -/
def wake (thread : Thread) (now : Instant) : List Sleeper × Thread :=
  let (due, timers) := thread.timers.serve ((now - thread.origin) / 1000000)
  (due, { thread with called := false, timers := timers }.setAlarm)

/-- The moment at which it wakes by itself: at its alarm, or earlier if that is too far. -/
def wakesAt? (thread : Thread) : Option Instant :=
  thread.alarm.map fun ms =>
    thread.origin + Duration.ofMillis (min ms (thread.timers.served + longestSleep))

end Thread

end RemoteCall
