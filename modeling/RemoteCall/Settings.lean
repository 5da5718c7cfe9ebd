import RemoteCall.Clock
import RemoteCall.Failure
import RemoteCall.Fragment.Header

/-!
# Settings of a client

Times are given in milliseconds. A client takes settings only if the tick and the largest fragment
are positive and a request times out at least two ticks before an idle connection does, so that no
connection is evicted with requests outstanding.
-/
namespace RemoteCall

structure Settings where
  requestTimeoutMs : UInt64 := 15000
  connectionTimeoutMs : UInt64 := 300000
  tickMs : UInt64 := 250
  maxReconnectAttempts : UInt32 := 4
  reconnectBackoffMs : UInt64 := 10000
  maxFragmentSize : UInt32 := Fragment.defaultLimit
  recvBufferSize : UInt32 := 262144
  tcpNodelay : Bool := true
  enableStatistics : Bool := false
  deriving DecidableEq, Repr

namespace Settings

def requestTimeout (settings : Settings) : Duration :=
  Duration.ofMillis settings.requestTimeoutMs.toNat

def connectionTimeout (settings : Settings) : Duration :=
  Duration.ofMillis settings.connectionTimeoutMs.toNat

def tick (settings : Settings) : Duration := Duration.ofMillis settings.tickMs.toNat

def reconnectBackoff (settings : Settings) : Duration :=
  Duration.ofMillis settings.reconnectBackoffMs.toNat

/-- The sum of two 64-bit numbers, or the largest one. -/
def saturatingAdd (a b : UInt64) : UInt64 :=
  if a.toNat + b.toNat < UInt64.size then a + b else 0xffffffffffffffff

/-- Two ticks, or the largest 64-bit number. -/
def margin (settings : Settings) : UInt64 := saturatingAdd settings.tickMs settings.tickMs

/-- Whether a client can be made with these settings. -/
def validate (settings : Settings) : Except Failure Unit :=
  if settings.tickMs = 0 then .error (.configuration "tick_ms must be positive")
  else if settings.connectionTimeoutMs ≤ saturatingAdd settings.requestTimeoutMs settings.margin then
    .error (.configuration
      ("request timeout must be smaller than connection timeout less "
        ++ toString settings.margin.toNat ++ "ms (request_timeout_ms="
        ++ toString settings.requestTimeoutMs.toNat ++ ", connection_timeout_ms="
        ++ toString settings.connectionTimeoutMs.toNat ++ ")"))
  else if settings.maxFragmentSize = 0 then
    .error (.configuration "max_fragment_size must be positive")
  else .ok ()

/-- Set one of the values that a builder of clients may set, by name. -/
def adjust (settings : Settings) (name : String) (n : Nat) : Settings :=
  match name with
  | "request_timeout_ms" => { settings with requestTimeoutMs := UInt64.ofNat n }
  | "connection_timeout_ms" => { settings with connectionTimeoutMs := UInt64.ofNat n }
  | "max_reconnect_attempts" => { settings with maxReconnectAttempts := UInt32.ofNat n }
  | "reconnect_backoff_ms" => { settings with reconnectBackoffMs := UInt64.ofNat n }
  | "max_fragment_size" => { settings with maxFragmentSize := UInt32.ofNat n }
  | "enable_statistics" => { settings with enableStatistics := n != 0 }
  | _ => settings

/-- The settings by name, as they are written. -/
def items (settings : Settings) : List (String × String) :=
  let flag := fun b => if b then "true" else "false"
  [("request_timeout_ms", toString settings.requestTimeoutMs.toNat),
    ("connection_timeout_ms", toString settings.connectionTimeoutMs.toNat),
    ("tick_ms", toString settings.tickMs.toNat),
    ("max_reconnect_attempts", toString settings.maxReconnectAttempts.toNat),
    ("reconnect_backoff_ms", toString settings.reconnectBackoffMs.toNat),
    ("max_fragment_size", toString settings.maxFragmentSize.toNat),
    ("recv_buffer_size", toString settings.recvBufferSize.toNat),
    ("tcp_nodelay", flag settings.tcpNodelay),
    ("enable_statistics", flag settings.enableStatistics)]

/-- The settings as a JSON object without blanks. -/
def json (settings : Settings) : String :=
  "\x7b" ++ String.intercalate "," (settings.items.map fun (name, value) =>
    "\"" ++ name ++ "\":" ++ value) ++ "\x7d"

def debugText (settings : Settings) : String :=
  "ClientSettings \x7b " ++ String.intercalate ", " (settings.items.map fun (name, value) =>
    name ++ ": " ++ value) ++ " \x7d"

end Settings

end RemoteCall
