import RemoteCall.Client.Drive
import RemoteCall.Client.Send
import RemoteCall.Client.Turn

/-!
# Actions

Everything that happens to a client is an action: what its callers do, what its loop and drivers do,
the telling of its listeners, what the peers and networks behind its channels do, and the passing of
time. Actions may come in any order. A listener that sends from inside its callback is a send right
after it was told, which may be long before the next listener is. Loop and drivers share one thread:
a driver that does not wait keeps it to itself, and the thread tells what it has posted before it
goes on. Callers have threads of their own.
-/
namespace RemoteCall

/-- What happens to a channel from outside. -/
inductive ChannelChange where
  | feed (chunk : Bytes)
  | endInbound (on : Bool)
  | failInbound (cause : Option IoError)
  | setBudget (budget : Option Nat)
  | endOutbound (on : Bool)
  | failOutbound (cause : Option IoError)
  | failWaiting (cause : Option IoError)
  | setProgress (progress : ConnectProgress)
  | addHandshakes (answers : List (Except IoError Handshake))
  | setShuttingDown (on : Bool)

namespace Channel

def change (channel : Channel) : ChannelChange → Channel
  | .feed chunk => { channel with inbound := channel.inbound.feed chunk }
  | .endInbound on => { channel with inbound := { channel.inbound with ended := on } }
  | .failInbound cause => { channel with inbound := { channel.inbound with failure := cause } }
  | .setBudget budget => { channel with outbound := { channel.outbound with budget := budget } }
  | .endOutbound on => { channel with outbound := { channel.outbound with ended := on } }
  | .failOutbound cause => { channel with outbound := { channel.outbound with failure := cause } }
  | .failWaiting cause => { channel with waitFailure := cause }
  | .setProgress progress => { channel with progress := progress }
  | .addHandshakes answers => { channel with handshakes := channel.handshakes ++ answers }
  | .setShuttingDown on => { channel with shuttingDown := on }

end Channel

inductive Action where
  | send (call : Call)
  | notify (connection : Nat)
  | start (setup : LoopSetup := .ready)
  | shutdown
  | turn
  | drive (session : Nat)
  | tellPosted (position : Nat)
  | tellRejected (position : Nat)
  | elapse (duration : Duration)
  | change (session : Nat) (what : ChannelChange)
  | plan (plan : ChannelPlan)
  | collect (ticket : Nat)
  | forget (ticket : Nat)

namespace Client

/-- Something happens to the channel of a session. -/
def changeChannel (client : Client) (index : Nat) (what : ChannelChange) : Client :=
  match client.sessions[index]? with
  | none => client
  | some session => client.putSession index { session with channel := session.channel.change what }

def elapse (client : Client) (duration : Duration) : Client :=
  { client with now := client.now + duration }

def addPlan (client : Client) (plan : ChannelPlan) : Client :=
  { client with plans := client.plans ++ [plan] }

/-- The session whose driver has the thread to itself. -/
def threadHolder? (client : Client) : Option Nat :=
  client.sessions.findIdx? (·.phase.holdsThread)

/-- The thread is free for a step of the loop. -/
def mayTurn (client : Client) : Bool := client.posted.isEmpty && client.threadHolder?.isNone

/-- The thread is free for a step of the driver of a session. -/
def mayDrive (client : Client) (index : Nat) : Bool :=
  client.posted.isEmpty && client.threadHolder?.all (· == index)

def perform (client : Client) : Action → Client
  | .send call => client.send call
  | .notify connection => client.notify connection
  | .start setup => (client.start setup).2
  | .shutdown => client.shutdown
  | .turn => if client.mayTurn then client.turn else client
  | .drive session => if client.mayDrive session then client.drive session else client
  | .tellPosted position => client.tellPosted position
  | .tellRejected position => client.tellRejected position
  | .elapse duration => client.elapse duration
  | .change session what => client.changeChannel session what
  | .plan plan => client.addPlan plan
  | .collect ticket => (client.collect ticket).2
  | .forget ticket => client.forget ticket

def performAll (client : Client) (actions : List Action) : Client := actions.foldl perform client

/-! ## Runs -/

/-- The client was just built, with whatever it is built from. -/
def Built (client : Client) : Prop :=
  ∃ settings parsers pool firstXid, build settings parsers pool firstXid = .ok client

/-- Nothing has happened to a client just built. -/
theorem Built.exists_eq {client : Client} (h : Built client) :
    ∃ settings parsers pool firstXid,
      client = { settings, parsers, pool, nextXid := firstXid } := by
  obtain ⟨settings, parsers, pool, firstXid, built⟩ := h
  unfold build at built
  split at built
  · cases built
    exact ⟨settings, parsers, pool, firstXid, rfl⟩
  · cases built

/-- Actions in any order lead from one client to another, and `P` holds before each of them. -/
inductive RunWhile (P : Client → Prop) (start : Client) : Client → Prop where
  | refl : RunWhile P start start
  | tail {client : Client} (earlier : RunWhile P start client) (holds : P client)
      (action : Action) : RunWhile P start (client.perform action)

/-- Actions in any order lead from one client to another. -/
abbrev Run : Client → Client → Prop := RunWhile fun _ => True

/-- A run of which `P` holds before each action leads from a client just built to this one. -/
def ReachableWhile (P : Client → Prop) (client : Client) : Prop :=
  ∃ first, Built first ∧ RunWhile P first client

/-- Some run leads to this client. -/
abbrev Reachable : Client → Prop := ReachableWhile fun _ => True

theorem RunWhile.trans {P : Client → Prop} {start middle client : Client}
    (first : RunWhile P start middle) (second : RunWhile P middle client) :
    RunWhile P start client := by
  induction second with
  | refl => exact first
  | tail _ holds action ih => exact ih.tail holds action

theorem runWhile_performAll {P : Client → Prop} (client : Client) (actions : List Action)
    (holds : ∀ n < actions.length, P (client.performAll (actions.take n))) :
    RunWhile P client (client.performAll actions) := by
  induction actions generalizing client with
  | nil => exact .refl
  | cons action later ih =>
    have first : RunWhile P client (client.perform action) :=
      RunWhile.refl.tail (holds 0 (Nat.succ_pos _)) action
    refine first.trans (ih (client.perform action) fun n hn => ?_)
    exact holds (n + 1) (Nat.succ_lt_succ hn)

theorem run_performAll (client : Client) (actions : List Action) :
    Run client (client.performAll actions) :=
  runWhile_performAll client actions fun _ _ => trivial

/-- What holds of a client just built and is kept by every action holds wherever a run leads. -/
@[elab_as_elim]
theorem ReachableWhile.induct {P I : Client → Prop} {client : Client}
    (h : ReachableWhile P client) (built : ∀ first, Built first → I first)
    (step : ∀ client action, P client → I client → I (client.perform action)) : I client := by
  obtain ⟨first, hfirst, run⟩ := h
  induction run with
  | refl => exact built first hfirst
  | tail _ holds action ih => exact step _ action holds ih

theorem ReachableWhile.reachable {P : Client → Prop} {client : Client}
    (h : ReachableWhile P client) : Reachable client := by
  obtain ⟨first, hfirst, run⟩ := h
  refine ⟨first, hfirst, ?_⟩
  clear hfirst
  induction run with
  | refl => exact .refl
  | tail _ _ action ih => exact ih.tail trivial action

theorem ReachableWhile.run {client next : Client} (h : Reachable client) (run : Run client next) :
    Reachable next := by
  obtain ⟨first, hfirst, earlier⟩ := h
  exact ⟨first, hfirst, earlier.trans run⟩

theorem ReachableWhile.perform {client : Client} (h : Reachable client) (action : Action) :
    Reachable (client.perform action) :=
  h.run (RunWhile.refl.tail trivial action)

end Client

end RemoteCall
