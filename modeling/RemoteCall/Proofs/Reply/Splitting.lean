import RemoteCall.Proofs.Fragment.RoundTrip
import RemoteCall.Proofs.Reply.Dispatch

/-!
# Exceptions in several fragments

A reply may be cut anywhere behind its header. A response puts the pieces together again; an
exception is decoded from what follows the header in the first fragment alone. So the listener is
told what it would be told of a reply with that part for a body, and this is what the whole body
would give only where the parser finds the same in both.
-/
namespace RemoteCall

/-- Fragments carry a reply, with the header within the first of them. -/
structure Carries (fragments : List Buffer) (header : ReplyHeader) (body : Bytes) : Prop where
  whole : (fragments.map Buffer.bytes).flatten = header.encode ++ body
  long : ReplyHeader.size ≤ ((fragments.head?.map Buffer.bytes).getD []).length

instance (fragments : List Buffer) (header : ReplyHeader) (body : Bytes) :
    Decidable (Carries fragments header body) :=
  decidable_of_iff ((fragments.map Buffer.bytes).flatten = header.encode ++ body ∧
    ReplyHeader.size ≤ ((fragments.head?.map Buffer.bytes).getD []).length)
    ⟨fun h => ⟨h.1, h.2⟩, fun h => ⟨h.whole, h.long⟩⟩

namespace Carries

variable {fragments : List Buffer} {header : ReplyHeader} {body : Bytes}

/-- A reply that is sent in any pieces, and arrives in any chunks, is carried by the fragments of
the record that is returned. -/
theorem of_arrived {limit : UInt32} {full : List Bytes} {last : Bytes}
    {schedule : List Fragment.Incident}
    (arrives : Fragment.arrived schedule =
      full.flatMap (Fragment.mark false) ++ Fragment.mark true last)
    (admits : ∀ piece ∈ full ++ [last], Fragment.Admits limit piece.length)
    (whole : (full ++ [last]).flatten = header.encode ++ body)
    (long : ReplyHeader.size ≤ ((full ++ [last]).head (by simp)).length) (pool : BufferPool) :
    ∃ fragments, (Fragment.Receiver.after limit (schedule ++ [.read pool])).HasReturned fragments ∧
      Carries fragments header body := by
  obtain ⟨fragments, returned, bytes⟩ :=
    Fragment.Receiver.hasReturned_of_pieces arrives admits pool
  refine ⟨fragments, returned, by rw [bytes, whole], ?_⟩
  rw [← List.head?_map, bytes, List.head?_eq_some_head (by simp), Option.getD_some]
  exact long

/-- The first fragment has the header and a part of the body, the others have the rest. -/
theorem exists_first (h : Carries fragments header body) : ∃ first later part,
    fragments = first :: later ∧ first.bytes = header.encode ++ part ∧
      part ++ (later.map Buffer.bytes).flatten = body := by
  obtain ⟨whole, long⟩ := h
  cases fragments with
  | nil => exact absurd long (by decide)
  | cons first later =>
    obtain ⟨part, bytes, rest⟩ := Fragment.exists_of_reply_pieces whole long
    exact ⟨first, later, part, rfl, bytes, rest⟩

theorem decode_eq (h : Carries fragments header body) :
    ReplyHeader.decode ((fragments.head?.map Buffer.bytes).getD []) = .ok header := by
  obtain ⟨first, later, part, rfl, bytes, -⟩ := h.exists_first
  show ReplyHeader.decode first.bytes = _
  rw [bytes, ReplyHeader.decode_encode_append]

end Carries

theorem Request.exceptionBody_cons {first : Buffer} {later : List Buffer} {header : ReplyHeader}
    {part : Bytes} (bytes : first.bytes = header.encode ++ part) :
    exceptionBody (first :: later) = part := by
  rw [exceptionBody, bytes, ← header.length_encode, List.drop_left]

/-- A reply in one fragment gives the parser the whole body. -/
theorem Carries.exceptionBody_singleton {alone : Buffer} {header : ReplyHeader} {body : Bytes}
    (h : Carries [alone] header body) : Request.exceptionBody [alone] = body := by
  obtain ⟨first, later, part, split, bytes, rest⟩ := h.exists_first
  obtain ⟨rfl, rfl⟩ := List.cons.inj split
  rw [Request.exceptionBody_cons bytes, ← rest, List.map_nil, List.flatten_nil, List.append_nil]

namespace ExceptionDecoder

theorem outcome_inj {status : Int32} {one other : Except String String} :
    outcome status one = outcome status other ↔ one = other := by
  refine ⟨fun same => ?_, congrArg _⟩
  cases one <;> cases other
  · rename_i text text'
    rw [(String.append_right_inj _).1 (Failure.invalidResponse.inj same)]
  · cases same
  · cases same
  · rename_i text text'
    rw [(Failure.remoteException.inj same).2]

/-- Two bodies end a call in the same way just if the parser that is asked finds the same in both. -/
theorem resolve_eq_resolve_iff {parsers : List ExceptionDecoder} {status : Int32}
    {one other : Bytes} : resolve parsers status one = resolve parsers status other ↔
      ∀ parser, FirstClaims parsers status parser →
        parser.decode status one = parser.decode status other := by
  constructor
  · intro same parser first
    rw [first.resolve_eq, first.resolve_eq] at same
    exact outcome_inj.1 same
  · intro agree
    cases found : claimant? parsers status with
    | none => rw [resolve, resolve, found]
    | some parser =>
      have first := claimant?_eq_some_iff.1 found
      rw [first.resolve_eq, first.resolve_eq, agree parser first]

end ExceptionDecoder

theorem Request.fail_inj {request : Request} {one other : Failure} :
    request.fail one = request.fail other ↔ one = other :=
  ⟨fun same => Outcome.failure.inj (congrArg Notice.outcome same), congrArg _⟩

theorem Request.complete_fst_of_lt {header : ReplyHeader} (above : 5 < header.acceptStatus)
    (request : Request) (fragments : List Buffer) (parsers : List ExceptionDecoder)
    (now : Instant) : (request.complete header.status fragments parsers now).1 = request.fail
      (ExceptionDecoder.resolve parsers header.acceptStatus (exceptionBody fragments)) := by
  rw [complete_fst, ReplyHeader.status, outcome_of_lt above]
  rfl

/-- The parser that is asked is given the part of the body in the first fragment, so the listener
is told what it would be told if that part were the body of a reply in one fragment. This is what
a reply with the whole body in one fragment would tell it just if no parser claims the status or
the one that is asked finds the same in the part and in the whole, as it does when nothing of the
body is left for later fragments. -/
theorem exception_of_first_fragment {fragments : List Buffer} {header : ReplyHeader} {body : Bytes}
    (carries : Carries fragments header body) (above : 5 < header.acceptStatus)
    (request : Request) (parsers : List ExceptionDecoder) (now : Instant) :
    ∃ part rest, body = part ++ rest ∧
      fragments.head?.map Buffer.bytes = some (header.encode ++ part) ∧
      ReplyHeader.decode ((fragments.head?.map Buffer.bytes).getD []) = .ok header ∧
      Request.exceptionBody fragments = part ∧
      (∀ alone, Carries [alone] header part →
        (request.complete header.status fragments parsers now).1 =
          (request.complete header.status [alone] parsers now).1) ∧
      ∀ alone, Carries [alone] header body →
        ((request.complete header.status fragments parsers now).1 =
            (request.complete header.status [alone] parsers now).1 ↔
          ∀ parser, ExceptionDecoder.FirstClaims parsers header.acceptStatus parser →
            parser.decode header.acceptStatus part = parser.decode header.acceptStatus body) := by
  obtain ⟨first, later, part, rfl, bytes, rest⟩ := carries.exists_first
  have given : Request.exceptionBody (first :: later) = part := Request.exceptionBody_cons bytes
  refine ⟨part, _, rest.symm, congrArg some bytes, carries.decode_eq, given, ?_, ?_⟩
  · intro alone same
    rw [Request.complete_fst_of_lt above, Request.complete_fst_of_lt above, given,
      same.exceptionBody_singleton]
  · intro alone whole
    rw [Request.complete_fst_of_lt above, Request.complete_fst_of_lt above, given,
      whole.exceptionBody_singleton, Request.fail_inj, ExceptionDecoder.resolve_eq_resolve_iff]

/-! ## A reply that is cut -/

/-- A reply with an exception. -/
def boomHeader : ReplyHeader := ⟨7, 150⟩

/-- The four bytes of its body, "boom". -/
def boom : Bytes := [0x62, 0x6f, 0x6f, 0x6d]

/-- A reply in one fragment. -/
def boomAlone (body : Bytes) : Buffer := ⟨0, 8 + body.length, boomHeader.encode ++ body⟩

/-- The reply with its body cut. -/
def boomCut (at' : Nat) : List Buffer :=
  [boomAlone (boom.take at'), ⟨1, (boom.drop at').length, boom.drop at'⟩]

/-- A parser that tells the body. -/
def boomParsers : List ExceptionParser := [⟨100, 199, "p", 0⟩]

def boomRequest : Request :=
  { ticket := 0
    info := ⟨7, ⟨.v4 127 0 0 1, 2049⟩, 1, 2, 3⟩
    delivery := .callback
    header := []
    payload := []
    queuedAt := 0
    recordsTimings := false }

/-- The parser is given "bo", the half of the body that is in the first fragment. -/
theorem exception_of_first_fragment_boom :
    Carries (boomCut 2) boomHeader boom ∧ 5 < boomHeader.acceptStatus ∧
      Request.exceptionBody (boomCut 2) = boom.take 2 ∧
      (boomRequest.complete boomHeader.status (boomCut 2) boomParsers 0).1 =
        (boomRequest.complete boomHeader.status [boomAlone (boom.take 2)] boomParsers 0).1 := by
  have carries : Carries (boomCut 2) boomHeader boom := by decide
  have above : 5 < boomHeader.acceptStatus := by decide
  obtain ⟨part, rest, -, -, -, given, alone, -⟩ :=
    exception_of_first_fragment carries above boomRequest boomParsers 0
  have half : Request.exceptionBody (boomCut 2) = boom.take 2 := by decide
  obtain rfl : part = boom.take 2 := given.symm.trans half
  exact ⟨carries, above, half, alone _ (by decide)⟩

/-- Cut right behind its header, the reply tells the listener of an exception without a body. -/
theorem exception_is_cut_off : ¬ ∀ (fragments : List Buffer) (alone : Buffer)
    (header : ReplyHeader) (body : Bytes) (request : Request) (parsers : List ExceptionDecoder)
    (now : Instant), 5 < header.acceptStatus → Carries fragments header body →
      Carries [alone] header body →
        (request.complete header.status fragments parsers now).1 =
          (request.complete header.status [alone] parsers now).1 := by
  intro same
  have told := same (boomCut 0) (boomAlone boom) boomHeader boom boomRequest boomParsers 0
    (by decide) (by decide) (by decide)
  revert told
  decide

end RemoteCall
