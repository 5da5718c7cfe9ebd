import RemoteCall.Address
import RemoteCall.Channel

/-!
# Plain channels

An unencrypted channel owns one socket. A target is chosen once; finishing the connect asks the
socket to connect and then to set its delay option. Reads and writes reach the socket only while
the channel is connected, and those of nothing never do. What the socket answers is an argument.
-/
namespace RemoteCall

/-- Why a call on a socket, or on a channel that has none, was refused. -/
inductive SocketFault where
  | notConnected
  | alreadyExists
  | networkUnreachable
  | connectionRefused
  | wouldBlock
  | brokenPipe
  | connectionReset
  | other (text : String)
  deriving DecidableEq, Repr

/-- Where a plain channel stands between being opened and being closed. -/
inductive PlainState where
  | opened
  | pending (target : Address)
  | connecting
  | connected
  | closed
  deriving DecidableEq, Repr

structure PlainChannel where
  nodelay : Bool := true
  state : PlainState := .opened
  deriving DecidableEq, Repr

/-- What a socket answers to being connected: to the connect itself, then to its delay option. -/
structure SocketAnswer where
  connect : Except SocketFault Unit
  setNodelay : Except SocketFault Unit

namespace PlainChannel

/-- Choose the target. A channel that has one already stays as it was. -/
def connect (channel : PlainChannel) (target : Address) : Except SocketFault Unit × PlainChannel :=
  match channel.state with
  | .opened => (.ok (), { channel with state := .pending target })
  | _ => (.error .alreadyExists, channel)

def isConnectionPending (channel : PlainChannel) : Bool :=
  match channel.state with
  | .pending _ => true
  | .connecting => true
  | _ => false

def isConnected (channel : PlainChannel) : Bool := channel.state == .connected

/-- Complete the connect. A failed connect closes the channel; when the connected socket refuses
its delay option, the channel is left connecting. -/
def finishConnect (channel : PlainChannel) (socket : SocketAnswer) :
    Except SocketFault Unit × PlainChannel :=
  match channel.state with
  | .connected => (.ok (), channel)
  | .pending _ =>
      match socket.connect, socket.setNodelay with
      | .error fault, _ => (.error fault, { channel with state := .closed })
      | .ok (), .error fault => (.error fault, { channel with state := .connecting })
      | .ok (), .ok () => (.ok (), { channel with state := .connected })
  | _ => (.error .notConnected, { channel with state := .closed })

/-- Whether the socket is asked to move `size` bytes, or what is answered without it. -/
inductive Access where
  | nothing
  | refused (fault : SocketFault)
  | socket
  deriving DecidableEq, Repr

def access (channel : PlainChannel) (size : Nat) : Access :=
  if size = 0 then .nothing
  else if channel.isConnected then .socket
  else .refused .notConnected

/-- Read into `room` bytes; a socket that has none left has ended. -/
def read (channel : PlainChannel) (room : Nat) (answer : Except SocketFault Bytes) :
    Except SocketFault (Transfer Bytes) :=
  match channel.access room with
  | .nothing => .ok (.moved [])
  | .refused fault => .error fault
  | .socket =>
      match answer with
      | .ok bytes => .ok (if bytes.isEmpty then .ended else .moved bytes)
      | .error .wouldBlock => .ok .wouldBlock
      | .error fault => .error fault

/-- Write `offer`; a connection that the peer broke has ended. -/
def write (channel : PlainChannel) (offer : Bytes) (answer : Except SocketFault Nat) :
    Except SocketFault (Transfer Nat) :=
  match channel.access offer.length with
  | .nothing => .ok (.moved 0)
  | .refused fault => .error fault
  | .socket =>
      match answer with
      | .ok count => .ok (if count = 0 then .ended else .moved count)
      | .error .wouldBlock => .ok .wouldBlock
      | .error .brokenPipe => .ok .ended
      | .error .connectionReset => .ok .ended
      | .error fault => .error fault

/-- Wait for readiness, which only a connected channel has. -/
def ready (channel : PlainChannel) (answer : Readiness) : Except SocketFault Readiness :=
  if channel.isConnected then .ok answer else .error .notConnected

/-- A plain channel needs no handshake. -/
def shakeHands (_ : PlainChannel) : Except SocketFault Handshake := .ok .done

/-- A plain channel has no session of its own to shut down. -/
def isShutdownInProgress (_ : PlainChannel) : Bool := false

def close (channel : PlainChannel) : PlainChannel := { channel with state := .closed }

end PlainChannel

end RemoteCall
