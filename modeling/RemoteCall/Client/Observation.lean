import RemoteCall.Client.State

/-!
# Observing a client

An observer remembers how much it has seen of the events, of the channels asked for, and of the
bytes and calls of each channel. What is new since then is the news, in the order of happening.
-/
namespace RemoteCall

/-- How much of a client was seen: events, channels asked for, and the bytes and calls of each
channel. -/
structure Seen where
  events : Nat := 0
  opens : Nat := 0
  channels : List (Nat × Nat) := []
  deriving DecidableEq, Repr

/-- What is new on a channel. -/
structure ChannelNews where
  channel : Nat
  written : Bytes
  calls : List ChannelCall

structure News where
  events : List Event
  opens : List OpenCall
  channels : List ChannelNews

/-- The front of a list that is longer than it was, oldest first. -/
def newestSince {α : Type} (seen : Nat) (items : List α) : List α :=
  (items.take (items.length - seen)).reverse

namespace Channel

/-- What is new on a channel of which so many bytes and calls were seen, if anything is. -/
def newsSince (channel : Channel) (number bytes calls : Nat) : Option ChannelNews :=
  let news : ChannelNews :=
    ⟨number, channel.outbound.accepted.drop bytes, newestSince calls channel.log⟩
  if news.written.isEmpty && news.calls.isEmpty then none else some news

end Channel

namespace Client

/-- Everything there is to see now. -/
def seen (client : Client) : Seen :=
  { events := client.events.length
    opens := client.opens.length
    channels := client.sessions.map fun session =>
      (session.channel.outbound.accepted.length, session.channel.log.length) }

def newsSince (client : Client) (seen : Seen) : News :=
  { events := newestSince seen.events client.events
    opens := newestSince seen.opens client.opens
    channels := client.sessions.zipIdx.filterMap fun (session, number) =>
      let (bytes, calls) := seen.channels.getD number (0, 0)
      session.channel.newsSince number bytes calls }

/-- Ask several promises in a row: the outcomes that are there and the promises still open. -/
def collectAll (client : Client) : List Nat → List Notice × List Nat × Client
  | [] => ([], [], client)
  | ticket :: later =>
      let (notice, client) := client.collect ticket
      let (notices, left, client) := client.collectAll later
      match notice with
      | some notice => (notice :: notices, left, client)
      | none => (notices, ticket :: left, client)

end Client

end RemoteCall
