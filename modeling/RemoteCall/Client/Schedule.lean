import RemoteCall.Client.Action
import RemoteCall.Client.Thread

/-!
# Running a client

On the thread of a client the loop goes first while there is something for it to do; then the
drivers that were woken run, each as far as it gets; then the loop looks again. Every step tells the
listeners it has something for before the next begins. Time stands still meanwhile and moves to the
moment at which the sleeping thread wakes by itself.
-/
namespace RemoteCall

namespace Client

/-- The driver of a session has something to do. -/
def isAwake (client : Client) (index : Nat) : Bool := (client.step? index).isSome

/-- The driver of a session waits for something to happen to its channel. -/
def watchesChannel (client : Client) (index : Nat) : Bool :=
  match client.sessions[index]? with
  | none => false
  | some session =>
      match session.phase with
      | .finishing _ | .greeting _ | .waiting _ _ => true
      | _ => false

/-- A bound on the steps that a driver can make before it waits. -/
def driverBudget (client : Client) (index : Nat) : Nat :=
  match client.sessions[index]? with
  | none => 0
  | some session =>
      let queue :=
        match client.connections[session.connection]? with
        | none => []
        | some connection => connection.queue
      let writing := Transmitter.Work.measure ⟨session.transmitter, queue, session.channel.outbound⟩
      16 * (session.channel.inbound.weight + session.channel.handshakes.length + writing + 4)

/-- Let a driver make steps until it waits. -/
def driveOn (index : Nat) : Nat → Client → Client
  | 0, client => client
  | steps + 1, client =>
      match client.step? index with
      | none => client
      | some client => driveOn index steps client.tellAll

/-- Let a driver run until it waits. -/
def runDriver (client : Client) (index : Nat) : Client :=
  driveOn index (client.driverBudget index) client

/-- The session was taken up and its driver has not run. -/
def isNew (client : Client) (index : Nat) : Bool :=
  match client.sessions[index]? with
  | none => false
  | some session => session.phase == .finishing false

/-- The driver of a session has ended. -/
def isClosed (client : Client) (index : Nat) : Bool :=
  match client.sessions[index]? with
  | none => false
  | some session => session.phase == .closed

/-- The end of the pause of a driver. -/
def pauseEnd? (client : Client) (index : Nat) : Option Instant :=
  match client.sessions[index]? with
  | none => none
  | some session =>
      match session.phase with
      | .pausing deadline => some deadline
      | _ => none

/-- The timer of the loop. -/
def loopTimer? (client : Client) : Option Instant :=
  match client.loop with
  | .probing deadline => some deadline
  | .turning since => some (client.turnDeadline since)
  | _ => none

/-- What happened to the client from outside wakes the loop: a session was handed to it, or the client
shuts down. -/
def callsLoop (before after : Client) : Bool :=
  match after.loop with
  | .turning _ =>
      before.registrations.length < after.registrations.length
        || !before.shuttingDown && after.shuttingDown
  | _ => false

end Client

/-- A client with its thread, and what was woken and has not run since. -/
structure Running where
  client : Client
  thread : Thread := {}
  /-- The drivers that were woken by the loop or by a timer. -/
  wokenWithin : List Nat := []
  /-- The drivers that were woken by a caller or a peer. -/
  wokenOutside : List Nat := []
  /-- The loop was woken. -/
  loopWoken : Bool := false

namespace Running

/-- The driver was woken and has not run since. -/
def isNoted (running : Running) (index : Nat) : Bool :=
  running.wokenWithin.contains index || running.wokenOutside.contains index

/-- The drivers that have something to do and are not noted yet, those just taken up first. A driver
that pauses is woken by its timer alone. -/
def fresh (running : Running) : List Nat :=
  let client := running.client
  let awake := (List.range client.sessions.length).filter fun index =>
    client.isAwake index && !running.isNoted index && (client.pauseEnd? index).isNone
  awake.filter client.isNew ++ awake.filter (!client.isNew ·)

/-- Note the drivers that were woken on the thread itself. -/
def wakeWithin (running : Running) : Running :=
  { running with wokenWithin := running.wokenWithin ++ running.fresh }

/-- Note drivers that were woken from outside, and call the thread for them. -/
def noteOutside (running : Running) (drivers : List Nat) : Running :=
  { running with
    wokenOutside := running.wokenOutside ++ drivers
    thread := running.thread.callIf !drivers.isEmpty }

/-- A driver that waits for its channel is woken by whatever happens to the channel, also where it
will find nothing to do. -/
def stir (running : Running) (index : Nat) : Running :=
  if running.client.watchesChannel index && !running.isNoted index then running.noteOutside [index]
  else running

/-- Look for a driver to run. -/
def look (running : Running) : Option Nat × Running :=
  let running := { running with thread := running.thread.look }
  match running.wokenWithin, running.wokenOutside with
  | [], [] => (none, running)
  | index :: later, [] => (some index, { running with wokenWithin := later })
  | [], index :: later => (some index, { running with wokenOutside := later })
  | within :: laterWithin, outside :: laterOutside =>
      if running.thread.prefersOutside then
        (some outside, { running with wokenOutside := laterOutside })
      else (some within, { running with wokenWithin := laterWithin })

/-- Wake the loop, and call the thread for it, if there is a reason. -/
def wakeLoopIf (running : Running) (reason : Bool) : Running :=
  { running with
    loopWoken := running.loopWoken || reason, thread := running.thread.callIf reason }

/-- Let a driver run until it waits. A driver that ends wakes the loop, and one that begins a pause
sets its timer. -/
def drive (running : Running) (index : Nat) : Running :=
  let client := running.client.runDriver index
  let thread :=
    match client.pauseEnd? index with
    | none => running.thread
    | some deadline => running.thread.setTimer (.driver index) deadline
  { running with client := client, thread := thread }.wakeLoopIf (client.isClosed index)

/-- Let a row of woken drivers run, at most so many; whether there are none left. -/
def runDrivers : Nat → Running → Bool × Running
  | 0, running => (false, running)
  | more + 1, running =>
      match running.look with
      | (none, running) => (true, running)
      | (some index, running) => runDrivers more (running.drive index)

/-- Let the loop make so many steps, or fewer if it waits. -/
def turnOn : Nat → Running → Running
  | 0, running => running
  | steps + 1, running =>
      match running.client.turn? with
      | none => running
      | some client => turnOn steps { running with client := client.tellAll }.wakeWithin

/-- Let the loop, if it was woken, run until it waits, and set its timer. -/
def runLoop (running : Running) : Running :=
  if running.loopWoken && running.client.turn?.isSome then
    let turned :=
      { turnOn (running.client.driversEnded + 4) running with loopWoken := false }
    match turned.client.loopTimer? with
    | none => { turned with thread := turned.thread.cancelTimer .loop }
    | some deadline => { turned with thread := turned.thread.setTimer .loop deadline }
  else { running with loopWoken := false }

/-- The thread wakes, and with it those whose timers go off. -/
def wakeUp (running : Running) : Running :=
  let (due, thread) := running.thread.wake running.client.now
  let drivers := due.filterMap fun sleeper =>
    match sleeper with
    | .loop => none
    | .driver index => some index
  { running with
    thread := thread
    wokenWithin := running.wokenWithin ++ drivers }.wakeLoopIf (due.contains .loop)

/-- Let the awake thread work until it sleeps, in at most so many rounds. -/
def workIn : Nat → Running → Running
  | 0, running => running
  | rounds + 1, running =>
      let (done, driven) := runDrivers Thread.longestRow running.runLoop
      if done && !driven.thread.called then
        { driven with thread := driven.thread.setAlarm }
      else workIn rounds driven.wakeUp

/-- Let the thread wake and work until it sleeps. -/
def work (running : Running) : Running :=
  workIn
    (8 * (running.client.sessions.length + running.client.registrations.length
      + running.client.connections.length) + 16)
    running.wakeUp

/-- Let everything happen that can happen now. -/
def settle (running : Running) : Running :=
  if running.thread.called then running.work else running

/-- Something is done to the client from outside, and wakes what it gives something to do. -/
def act (running : Running) (action : Action) : Running :=
  let before := running.client
  let done := { running with client := (before.perform action).tellAll }
  match action with
  | .change index _ => done.stir index
  | .start _ =>
      match before.isRunning, done.client.loopTimer? with
      | false, some deadline => { done with thread := Thread.started before.now deadline }
      | _, _ => done
  | _ => (done.noteOutside done.fresh).wakeLoopIf (before.callsLoop done.client)

/-- Move to a moment without waking the thread. -/
def moveTo (running : Running) (moment : Instant) : Running :=
  { running with client := running.client.perform (.elapse (moment - running.client.now)) }

/-- Move to a moment, stopping wherever the thread wakes on the way. -/
def advanceIn : Nat → Instant → Running → Running
  | 0, target, running => running.moveTo target
  | stops + 1, target, running =>
      match running.thread.wakesAt? with
      | some t =>
          if t ≤ target then advanceIn stops target (running.moveTo t).work
          else running.moveTo target
      | none => running.moveTo target

/-- Let time pass, once everything has happened that can happen before. The thread wakes at whole
milliseconds. -/
def advance (running : Running) (duration : Duration) : Running :=
  advanceIn (duration / 1000000 + 2) (running.client.now + duration) running.settle

/-- Let the thread sleep and wake until the loop has ended. -/
def finishIn : Nat → Running → Running
  | 0, running => running
  | stops + 1, running =>
      if !running.client.isRunning then running
      else
        match running.thread.wakesAt? with
        | some t => finishIn stops (running.moveTo t).work
        | none => running

/-- Shut the client down and wait until its loop has ended. -/
def finish (running : Running) : Running :=
  finishIn (128 * running.client.sessions.length + 128) (settle (running.act .shutdown))

/-- Make a call and tell the driver of its connection. -/
def send (running : Running) (call : Call) : Running :=
  let sent := running.act (.send call)
  sent.client.owed.foldl (fun running connection => running.act (.notify connection)) sent

/-- Start a client that was just built and let its timer probe pass. -/
def started (client : Client) : Running :=
  (Running.act { client := client } .start).advance Client.timerProbe

end Running

end RemoteCall
