import RemoteCall.AcceptStatus

/-!
# How a call fails

Every failure of a call, of the settings or of the client's life is one `Failure`. A connection
that ends gives its reason, and `CloseReason.failure` is what the requests bound to it are told.
-/
namespace RemoteCall

/-- An input or output error, known by its text. -/
structure IoError where
  text : String
  deriving DecidableEq, Repr

/-- Why a connection was torn down. -/
inductive CloseReason where
  | peerClosed
  | io (cause : IoError)
  | invalidFraming (text : String)
  | idle
  | shutdown
  deriving DecidableEq, Repr

def CloseReason.text : CloseReason → String
  | peerClosed => "server closed connection"
  | io cause => "server closed connection (" ++ cause.text ++ ")"
  | invalidFraming text => "invalid response framing (" ++ text ++ ")"
  | idle => "idle connection evicted"
  | shutdown => "client was shut down"

/-- What is wrong with a settings text: its form, a value's type or range, or an early end. -/
inductive SettingsFault where
  | malformed
  | mistyped
  | truncated
  deriving DecidableEq, Repr

inductive Failure where
  | configuration (text : String)
  | lifecycle (text : String)
  | connectFailed (endpoint : String) (cause : IoError)
  | unreachable (endpoint : String)
  | connectionClosed (endpoint : String) (reason : CloseReason)
  | protocol (status : AcceptStatus)
  | invalidResponse (text : String)
  | requestTooLarge (text : String)
  | unrecognizedException (status : Int32)
  | remoteException (status : Int32) (text : String)
  | timeout
  | shutDown
  | io (cause : IoError)
  | encoding
  | decoding
  | settings (fault : SettingsFault)
  deriving DecidableEq, Repr

namespace Failure

/-- The text of a failure. Encoding, decoding and settings faults have none of their own. -/
def message? : Failure → Option String
  | configuration text => some ("configuration error: " ++ text)
  | lifecycle text => some ("lifecycle error: " ++ text)
  | connectFailed endpoint cause =>
      some ("server '" ++ endpoint ++ "' not reachable: " ++ cause.text)
  | unreachable endpoint => some ("server '" ++ endpoint ++ "' not reachable")
  | connectionClosed endpoint reason =>
      some ("connection to '" ++ endpoint ++ "' closed: " ++ reason.text)
  | protocol status => some ("protocol error: " ++ status.text)
  | invalidResponse text => some ("invalid response: " ++ text)
  | requestTooLarge text => some ("request too large: " ++ text)
  | unrecognizedException status =>
      some ("received invalid remote exception with id " ++ toString status.toInt)
  | remoteException status text =>
      some ("remote exception " ++ toString status.toInt ++ ": " ++ text)
  | timeout => some "request timed out"
  | shutDown => some "client was shut down"
  | io cause => some ("I/O error: " ++ cause.text)
  | encoding => none
  | decoding => none
  | settings _ => none

def isShutDown : Failure → Bool
  | shutDown => true
  | _ => false

def isRemoteException : Failure → Bool
  | remoteException _ _ => true
  | _ => false

/-- The text of the error behind a failure, where there is one. -/
def source? : Failure → Option String
  | connectFailed _ cause => some cause.text
  | io cause => some cause.text
  | _ => none

end Failure

/-- What the requests bound to a connection are told when it ends. -/
def CloseReason.failure (endpoint : String) : CloseReason → Failure
  | shutdown => .shutDown
  | reason => .connectionClosed endpoint reason

end RemoteCall
