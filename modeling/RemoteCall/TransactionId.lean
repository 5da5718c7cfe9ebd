/-!
# Transaction ids

Ids count up from a first one and wrap after the largest 32-bit word. The first id of a counter is
drawn from the wall clock and the process id and lies between one and a million.
-/
namespace RemoteCall.TransactionId

/-- The id that follows. -/
def next (id : UInt32) : UInt32 := id + 1

/-- The first `count` ids from `first` on. -/
def take (first : UInt32) : Nat → List UInt32
  | 0 => []
  | count + 1 => first :: take (next first) count

/-- The first id for a wall clock reading in nanoseconds and a process id. -/
def seed (nanos : UInt64) (process : UInt32) : UInt32 :=
  let mixed := (nanos * 0x517cc1b727220a95) ^^^ process.toUInt64
  UInt32.ofNat (mixed.toNat % 1000000 + 1)

end RemoteCall.TransactionId
