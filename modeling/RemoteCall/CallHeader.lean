import RemoteCall.Failure
import RemoteCall.Message

/-!
# Call headers

Every request starts with its transaction id, the message type, the protocol version, the program,
version and procedure called, the credentials and an empty verifier, all in 32-bit words.
Credentials are a flavor, a length and a body padded with zeros to whole words.
-/
namespace RemoteCall

structure CallHeader where
  xid : UInt32
  program : UInt32
  version : UInt32
  procedure : UInt32
  deriving DecidableEq, Repr

namespace CallHeader

/-- The message type of a call. -/
def callType : UInt32 := 0

def protocolVersion : UInt32 := 2

/-- The flavor of no authentication. -/
def noAuthentication : UInt32 := 0

/-- The size rounded up to whole words. -/
def paddedSize (size : Nat) : Nat := (size + 3) / 4 * 4

theorem le_paddedSize (size : Nat) : size ≤ paddedSize size := by
  unfold paddedSize; omega

/-- The number of bytes of a header with these credentials. -/
def encodedSize (credentials : Option Message) : Nat :=
  40 + match credentials with
    | some message => paddedSize message.size
    | none => 0

/-- The credentials as they stand in the header. -/
def encodeCredentials : Option Message → Except Failure Bytes
  | none => .ok (Bytes.ofWord noAuthentication ++ Bytes.ofWord 0)
  | some message =>
      if UInt32.size ≤ message.size then
        .error (.requestTooLarge
          ("credentials of " ++ toString message.size ++ " bytes exceed the opaque length limit"))
      else
        .ok (Bytes.ofWord message.tag ++ Bytes.ofWord (UInt32.ofNat message.size) ++ message.bytes
          ++ List.replicate (paddedSize message.size - message.size) 0)

/-- The header with its credentials, which must be shorter than `2 ^ 32` bytes. -/
def encode (call : CallHeader) (credentials : Option Message) : Except Failure Bytes := do
  let credentialBytes ← encodeCredentials credentials
  return Bytes.ofWord call.xid ++ Bytes.ofWord callType ++ Bytes.ofWord protocolVersion
    ++ Bytes.ofWord call.program ++ Bytes.ofWord call.version ++ Bytes.ofWord call.procedure
    ++ credentialBytes ++ Bytes.ofWord noAuthentication ++ Bytes.ofWord 0

/-- Append the header to a buffer, which stays as it was if that fails. -/
def encodeOnto (call : CallHeader) (buffer : Bytes) (credentials : Option Message) :
    Except Failure Unit × Bytes :=
  match call.encode credentials with
  | .ok header => (.ok (), buffer ++ header)
  | .error failure => (.error failure, buffer)

end CallHeader

end RemoteCall
