import RemoteCall.Clock

/-!
# Transfer statistics

The bytes sent and received over a connection are counted modulo `2 ^ 64`. Round trips are averaged
over a window of the latest samples, whose sum is kept up to date as samples come and go.
-/
namespace RemoteCall

/-- The latest samples, oldest first, and their sum. -/
structure LatencyWindow where
  capacity : Nat := 10
  samples : List Duration := []
  sum : Duration := 0
  deriving DecidableEq, Repr

namespace LatencyWindow

/-- An empty window for at least one sample. -/
def ofCapacity (capacity : Nat) : LatencyWindow := ⟨max capacity 1, [], 0⟩

/-- Forget the oldest sample of a full window. -/
def makeRoom (window : LatencyWindow) : LatencyWindow :=
  if window.samples.length = window.capacity then
    match window.samples with
    | [] => window
    | oldest :: later => { window with samples := later, sum := window.sum - oldest }
  else window

def record (window : LatencyWindow) (sample : Duration) : LatencyWindow :=
  let room := window.makeRoom
  { room with samples := room.samples ++ [sample], sum := Duration.add room.sum sample }

/-- The number of samples as the 32-bit word that the sum is divided by. -/
def divisor (window : LatencyWindow) : UInt32 := UInt32.ofNat window.samples.length

/-- The sum divided by the number of samples, rounded down. -/
def average (window : LatencyWindow) : Option Duration :=
  if window.samples.isEmpty then none else some (window.sum / window.divisor.toNat)

end LatencyWindow

/-- The counters of one connection. -/
structure Statistics where
  received : UInt64 := 0
  sent : UInt64 := 0
  latency : LatencyWindow := {}
  deriving DecidableEq, Repr

namespace Statistics

def addReceived (statistics : Statistics) (bytes : Nat) : Statistics :=
  { statistics with received := statistics.received + UInt64.ofNat bytes }

def addSent (statistics : Statistics) (bytes : Nat) : Statistics :=
  { statistics with sent := statistics.sent + UInt64.ofNat bytes }

def recordRoundTrip (statistics : Statistics) (sample : Duration) : Statistics :=
  { statistics with latency := statistics.latency.record sample }

end Statistics

end RemoteCall
