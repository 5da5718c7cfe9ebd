import RemoteCall.Bytes
import RemoteCall.Failure

/-!
# Exception parsers

A reply with an application status carries an exception. Parsers are asked in their order and the
first one that claims the status decodes the body; the others are not asked, even if that fails.
Any pair of a claim and a decoding is a parser; those that come with the library claim a range.
-/
namespace RemoteCall

/-- What is asked of a parser: whether it claims a status, and which exception it finds in a body.
An exception is known by its text, and so is the failure to decode one. -/
structure ExceptionDecoder where
  claims : Int32 → Bool
  decode : Int32 → Bytes → Except String String

namespace ExceptionDecoder

/-- The parser that decodes exceptions of a status: the first that claims it. -/
def claimant? (parsers : List ExceptionDecoder) (status : Int32) : Option ExceptionDecoder :=
  parsers.find? (·.claims status)

/-- The outcome of a call whose exception its parser has decoded, or failed to. -/
def outcome (status : Int32) : Except String String → Failure
  | .ok text => .remoteException status text
  | .error text => .invalidResponse ("invalid exception data received: " ++ text)

/-- The outcome of a call that was answered with an application status. -/
def resolve (parsers : List ExceptionDecoder) (status : Int32) (body : Bytes) : Failure :=
  match claimant? parsers status with
  | none => .unrecognizedException status
  | some parser => outcome status (parser.decode status body)

end ExceptionDecoder

/-- A parser that claims the statuses from `first` to `last` and needs a least body length. -/
structure ExceptionParser where
  first : Int
  last : Int
  name : String
  minLength : Nat
  deriving DecidableEq, Repr

namespace ExceptionParser

def claims (parser : ExceptionParser) (status : Int32) : Bool :=
  parser.first ≤ status.toInt && status.toInt ≤ parser.last

/-- The text of the exception in `body`: the parser's name, the status and the body in hex. -/
def decode (parser : ExceptionParser) (status : Int32) (body : Bytes) : Except String String :=
  if body.length < parser.minLength then
    .error ("invalid response: " ++ parser.name ++ " needs " ++ toString parser.minLength ++
      " bytes")
  else .ok (parser.name ++ " " ++ toString status.toInt ++ " " ++ Bytes.hex body)

def decoder (parser : ExceptionParser) : ExceptionDecoder := ⟨parser.claims, parser.decode⟩

/-- Parsers stand for what is asked of them. -/
instance : Coe (List ExceptionParser) (List ExceptionDecoder) := ⟨List.map decoder⟩

/-- The outcome of a call that was answered with an application status. -/
def resolve (parsers : List ExceptionParser) (status : Int32) (body : Bytes) : Failure :=
  ExceptionDecoder.resolve parsers status body

def resolverText (parsers : List ExceptionParser) : String :=
  "ExceptionResolver \x7b parsers: " ++ toString parsers.length ++ " \x7d"

end ExceptionParser

end RemoteCall
