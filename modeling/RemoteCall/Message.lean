import RemoteCall.Bytes

/-!
# Messages

A message is what a caller sends: a type tag, the size it states and the bytes it writes. A message
made from bytes states their number.
-/
namespace RemoteCall

structure Message where
  tag : UInt32
  size : Nat
  bytes : Bytes
  deriving DecidableEq, Repr

namespace Message

def ofBytes (bytes : Bytes) (tag : UInt32 := 0) : Message := ⟨tag, bytes.length, bytes⟩

/-- The message of a procedure without arguments. -/
def empty : Message := ofBytes []

/-- The stated size is the number of bytes written. -/
def Honest (message : Message) : Prop := message.size = message.bytes.length

theorem honest_ofBytes (bytes : Bytes) (tag : UInt32) : (ofBytes bytes tag).Honest := rfl

end Message

end RemoteCall
