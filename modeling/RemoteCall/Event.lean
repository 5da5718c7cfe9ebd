import RemoteCall.Request

/-!
# Events

An event is a listener being told its outcome, or a request that vanished untold. Events are listed
in their order, except that neighbouring endings that strike many requests at once (a timeout, a
shutdown, a closed connection, a request that vanished) are listed by ticket.
-/
namespace RemoteCall

inductive Event where
  | told (notice : Notice)
  | dropped (ticket : Nat)
  deriving DecidableEq, Repr

namespace Event

def ticket : Event → Nat
  | told notice => notice.ticket
  | dropped ticket => ticket

/-- The event is an ending that may strike many requests at once. -/
def isEnding : Event → Bool
  | dropped _ => true
  | told notice =>
      match notice.outcome with
      | .failure .timeout => true
      | .failure .shutDown => true
      | .failure (.connectionClosed _ _) => true
      | _ => false

private def byTicket (run : List Event) : List Event :=
  run.mergeSort fun a b => a.ticket ≤ b.ticket

private def arrangeFrom (run : List Event) : List Event → List Event
  | [] => byTicket run
  | event :: later =>
      if event.isEnding then arrangeFrom (run ++ [event]) later
      else byTicket run ++ event :: arrangeFrom [] later

/-- The events as they are listed: every longest run of endings by ticket. -/
def arrange (events : List Event) : List Event := arrangeFrom [] events

end Event

end RemoteCall
