/-!
# Accept status of a reply

A reply carries a signed 32-bit status. Zero is success, one to five are the named protocol errors,
larger ones belong to the application and negative ones are protocol errors without a name.
-/
namespace RemoteCall

inductive AcceptStatus where
  | success
  | programUnavailable
  | programMismatch
  | procedureUnavailable
  | garbageArguments
  | systemError
  | otherProtocol (raw : Int32)
  | application (raw : Int32)
  deriving DecidableEq, Repr

namespace AcceptStatus

/-- The largest status that is a protocol error. -/
def largestProtocolError : Int32 := 5

def ofRaw (raw : Int32) : AcceptStatus :=
  if raw = 0 then success
  else if raw = 1 then programUnavailable
  else if raw = 2 then programMismatch
  else if raw = 3 then procedureUnavailable
  else if raw = 4 then garbageArguments
  else if raw = 5 then systemError
  else if largestProtocolError < raw then application raw
  else otherProtocol raw

def raw : AcceptStatus → Int32
  | success => 0
  | programUnavailable => 1
  | programMismatch => 2
  | procedureUnavailable => 3
  | garbageArguments => 4
  | systemError => 5
  | otherProtocol raw => raw
  | application raw => raw

@[simp] theorem raw_ofRaw (r : Int32) : (ofRaw r).raw = r := by
  unfold ofRaw
  repeat' split
  all_goals simp_all [raw]

/-- Success and application statuses are no protocol errors. -/
def isProtocolError : AcceptStatus → Bool
  | success => false
  | application _ => false
  | _ => true

def text : AcceptStatus → String
  | success => "SUCCESS"
  | programUnavailable => "program unavailable (PROG_UNAVAIL)"
  | programMismatch => "program version mismatch (PROG_MISMATCH)"
  | procedureUnavailable => "procedure unavailable (PROC_UNAVAIL)"
  | garbageArguments => "garbage arguments (GARBAGE_ARGS)"
  | systemError => "system error (SYSTEM_ERR)"
  | otherProtocol raw => "protocol error status " ++ toString raw.toInt
  | application raw => "application status " ++ toString raw.toInt

end AcceptStatus

end RemoteCall
