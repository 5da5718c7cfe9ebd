import RemoteCall.Bytes
import RemoteCall.Failure

/-!
# Reply headers

A reply starts with the transaction id it answers and its accept status, both 32-bit words.
-/
namespace RemoteCall

structure ReplyHeader where
  xid : UInt32
  acceptStatus : Int32
  deriving DecidableEq, Repr

namespace ReplyHeader

/-- The number of bytes of a reply header. -/
def size : Nat := 8

def status (header : ReplyHeader) : AcceptStatus := AcceptStatus.ofRaw header.acceptStatus

def encode (header : ReplyHeader) : Bytes :=
  Bytes.ofWord header.xid ++ Bytes.ofWord header.acceptStatus.toUInt32

/-- The header in the first eight bytes. -/
def decode (bytes : Bytes) : Except Failure ReplyHeader :=
  if bytes.length < size then
    .error (.invalidResponse
      ("response header needs " ++ toString size ++ " bytes, got " ++ toString bytes.length))
  else
    .ok ⟨Bytes.toWord (bytes.take 4), (Bytes.toWord ((bytes.drop 4).take 4)).toInt32⟩

@[simp] theorem length_encode (header : ReplyHeader) : header.encode.length = size := by
  simp [encode, size]

/-- A written header is read back, whatever follows it. -/
theorem decode_encode_append (header : ReplyHeader) (rest : Bytes) :
    decode (header.encode ++ rest) = .ok header := by
  have hshort : ¬ (header.encode ++ rest).length < size := by simp
  rw [decode, if_neg hshort]
  simp [encode]

end ReplyHeader

end RemoteCall
