import RemoteCall.Proofs.Client.Answering

/-!
# Dispatch of replies

A reply is one call of one method of the listener. Which one is read off the raw status and the
parsers in their order. The rules below are the reference: none of them looks at a parser behind
the first that claims the status, or asks one before it for more than its claim. Of the buffers of
a reply only those of a success are kept, and only by a response that is still held.
-/
namespace RemoteCall

/-! ## Raw statuses -/

namespace AcceptStatus

variable {raw : Int32}

theorem range_cases (raw : Int32) : raw = 0 ∨ (raw < 0 ∨ 0 < raw ∧ raw ≤ 5) ∨ 5 < raw := by
  grind

theorem ofRaw_of_lt (above : 5 < raw) : ofRaw raw = .application raw := by
  grind [ofRaw, largestProtocolError]

theorem isProtocolError_ofRaw (range : raw < 0 ∨ 0 < raw ∧ raw ≤ 5) :
    (ofRaw raw).isProtocolError = true := by
  unfold ofRaw largestProtocolError
  grind [isProtocolError]

end AcceptStatus

/-! ## The first claim -/

namespace ExceptionDecoder

variable {parsers : List ExceptionDecoder} {status : Int32} {parser : ExceptionDecoder}

/-- A parser claims the status and none before it does. What stands behind it is arbitrary. -/
def FirstClaims (parsers : List ExceptionDecoder) (status : Int32) (parser : ExceptionDecoder) :
    Prop :=
  parser.claims status = true ∧ ∃ before later, parsers = before ++ parser :: later ∧
    ∀ earlier ∈ before, earlier.claims status = false

theorem claimant?_eq_some_iff :
    claimant? parsers status = some parser ↔ FirstClaims parsers status parser := by
  simp only [claimant?, FirstClaims, List.find?_eq_some_iff_append, Bool.not_eq_eq_eq_not,
    Bool.not_true]

theorem claimant?_eq_none_iff :
    claimant? parsers status = none ↔ ∀ parser ∈ parsers, parser.claims status = false := by
  simp only [claimant?, List.find?_eq_none, Bool.not_eq_true]

/-- A status that some parser claims is claimed by a first one. -/
theorem exists_firstClaims (claimed : ∃ parser ∈ parsers, parser.claims status = true) :
    ∃ parser, FirstClaims parsers status parser := by
  obtain ⟨parser, found⟩ := Option.isSome_iff_exists.1 (List.find?_isSome.2 claimed)
  exact ⟨parser, claimant?_eq_some_iff.1 found⟩

theorem FirstClaims.append (first : FirstClaims parsers status parser)
    (more : List ExceptionDecoder) : FirstClaims (parsers ++ more) status parser := by
  obtain ⟨claims, before, later, split, passed⟩ := first
  exact ⟨claims, before, later ++ more, by rw [split, List.append_assoc, List.cons_append], passed⟩

theorem FirstClaims.resolve_eq (first : FirstClaims parsers status parser) (body : Bytes) :
    resolve parsers status body = outcome status (parser.decode status body) := by
  rw [resolve, claimant?_eq_some_iff.2 first]

theorem resolve_of_unclaimed (unclaimed : ∀ parser ∈ parsers, parser.claims status = false)
    (body : Bytes) : resolve parsers status body = .unrecognizedException status := by
  rw [resolve, claimant?_eq_none_iff.2 unclaimed]

end ExceptionDecoder

/-! ## Calls of a listener -/

/-- A call of one of the methods of a listener. -/
inductive ListenerCall where
  | responseAvailable (response : Response)
  | remoteExceptionThrown (info : CallInfo) (status : Int32) (exception : String)
  | requestFailed (info : CallInfo) (failure : Failure)
  deriving DecidableEq, Repr

/-- The call that takes a notice to its listener. -/
def Notice.call (notice : Notice) : ListenerCall :=
  match notice.outcome with
  | .response response => .responseAvailable response
  | .failure (.remoteException status exception) =>
      .remoteExceptionThrown notice.info status exception
  | .failure failure => .requestFailed notice.info failure

/-- The rules of dispatch: what is called of the listener of a request when a reply with a raw
status comes. -/
inductive Dispatches (request : Request) (raw : Int32) (fragments : List Buffer)
    (parsers : List ExceptionDecoder) (now : Instant) : ListenerCall → Prop
  | succeeded (zero : raw = 0) :
      Dispatches request raw fragments parsers now
        (.responseAvailable ⟨request.info, request.timings now, fragments⟩)
  | refused (range : raw < 0 ∨ 0 < raw ∧ raw ≤ 5) :
      Dispatches request raw fragments parsers now
        (.requestFailed request.info (.protocol (.ofRaw raw)))
  | unclaimed (above : 5 < raw) (none : ∀ parser ∈ parsers, parser.claims raw = false) :
      Dispatches request raw fragments parsers now
        (.requestFailed request.info (.unrecognizedException raw))
  | thrown {parser : ExceptionDecoder} {exception : String} (above : 5 < raw)
      (first : ExceptionDecoder.FirstClaims parsers raw parser)
      (decoded : parser.decode raw (Request.exceptionBody fragments) = .ok exception) :
      Dispatches request raw fragments parsers now
        (.remoteExceptionThrown request.info raw exception)
  | undecodable {parser : ExceptionDecoder} {text : String} (above : 5 < raw)
      (first : ExceptionDecoder.FirstClaims parsers raw parser)
      (decoded : parser.decode raw (Request.exceptionBody fragments) = .error text) :
      Dispatches request raw fragments parsers now
        (.requestFailed request.info
          (.invalidResponse ("invalid exception data received: " ++ text)))

section

variable {request : Request} {raw : Int32} {fragments : List Buffer}
  {parsers : List ExceptionDecoder} {now : Instant}

namespace Request

theorem outcome_of_isProtocolError {status : AcceptStatus}
    (h : status.isProtocolError = true) :
    request.outcome status fragments parsers now = .failure (.protocol status) := by
  cases status with
  | success => cases h
  | application raw => cases h
  | _ => rfl

theorem outcome_of_lt (above : 5 < raw) : request.outcome (.ofRaw raw) fragments parsers now =
    .failure (ExceptionDecoder.resolve parsers raw (exceptionBody fragments)) := by
  rw [AcceptStatus.ofRaw_of_lt above]
  rfl

end Request

/-- What a rule of dispatch gives is what is called. -/
theorem Dispatches.call_eq {call : ListenerCall}
    (h : Dispatches request raw fragments parsers now call) :
    call = (request.notice (request.outcome (.ofRaw raw) fragments parsers now)).call := by
  cases h with
  | succeeded zero =>
    subst zero
    rfl
  | refused range =>
    rw [Request.outcome_of_isProtocolError (AcceptStatus.isProtocolError_ofRaw range)]
    rfl
  | unclaimed above none =>
    rw [Request.outcome_of_lt above, ExceptionDecoder.resolve_of_unclaimed none]
    rfl
  | thrown above first decoded | undecodable above first decoded =>
    rw [Request.outcome_of_lt above, first.resolve_eq, decoded]
    rfl

/-- For every reply there is a rule of dispatch. -/
theorem exists_dispatches (request : Request) (raw : Int32) (fragments : List Buffer)
    (parsers : List ExceptionDecoder) (now : Instant) :
    ∃ call, Dispatches request raw fragments parsers now call := by
  rcases AcceptStatus.range_cases raw with zero | range | above
  · exact ⟨_, .succeeded zero⟩
  · exact ⟨_, .refused range⟩
  by_cases claimed : ∃ parser ∈ parsers, parser.claims raw = true
  · obtain ⟨parser, first⟩ := ExceptionDecoder.exists_firstClaims claimed
    cases decoded : parser.decode raw (Request.exceptionBody fragments) with
    | ok exception => exact ⟨_, .thrown above first decoded⟩
    | error text => exact ⟨_, .undecodable above first decoded⟩
  · refine ⟨_, .unclaimed above fun parser mem => ?_⟩
    simpa using fun claims => claimed ⟨parser, mem, claims⟩

theorem dispatches_iff {call : ListenerCall} :
    Dispatches request raw fragments parsers now call ↔
      call = (request.notice (request.outcome (.ofRaw raw) fragments parsers now)).call := by
  refine ⟨Dispatches.call_eq, fun same => ?_⟩
  obtain ⟨other, rule⟩ := exists_dispatches request raw fragments parsers now
  rw [same, ← rule.call_eq]
  exact rule

/-! ## Answers -/

/-- A request is answered: the buffers that are done with go back and the listener is told. -/
def Client.answer (client : Client) (answer : Notice × List Buffer) : Client :=
  ((client.releaseAll answer.2).post answer.1).tellPosted client.posted.length

theorem Client.answer_eq (client : Client) (answer : Notice × List Buffer) :
    client.answer answer = (client.releaseAll answer.2).deliver answer.1 := by
  have posted : (client.posted ++ [answer.1]).eraseIdx client.posted.length = client.posted := by
    rw [List.eraseIdx_append_of_length_le (Nat.le_refl _), Nat.sub_self, List.eraseIdx_cons_zero,
      List.append_nil]
  simp only [Client.answer, Client.tellPosted, Client.post, Client.releaseAll,
    List.getElem?_concat_length, posted]

/-- A driver that has read a record for a request in flight answers it so, when the listener is told
before anything else is done. -/
theorem Client.Reads.tell_eq {client : Client} {n : Nat} {session : Session}
    {connection : Connection} {header : ReplyHeader} {work : Fragment.Assembler.Work}
    (h : client.Reads n session connection header fragments work)
    (inFlight : connection.inFlight? header.xid = some request) :
    (client.perform (.drive n)).perform (.tellPosted client.posted.length) =
      ({ client with
        sessions := client.sessions.set n (session.afterRead work)
        connections := client.connections.set session.connection
          (client.usedFor connection work header.xid
            (request.complete header.status fragments client.parsers client.now).1.outcome)
        pool := work.pool } : Client).answer
          (request.complete header.status fragments client.parsers client.now) := by
  rw [h.perform_eq, deliverRecord_of_some h.decoded inFlight]
  rfl

/-- What the answer to a request is, by the raw status of the reply and the parsers. -/
structure Dispatched (request : Request) (raw : Int32) (fragments : List Buffer)
    (parsers : List ExceptionDecoder) (now : Instant) (answer : Notice × List Buffer) : Prop where
  /-- One method is called, and the rules say which. -/
  call : ∀ call, Dispatches request raw fragments parsers now call ↔ call = answer.1.call
  available : (∃ response, answer.1.call = .responseAvailable response) ↔ raw = 0
  protocol : (∃ status, status.raw = raw ∧
      answer.1.call = .requestFailed request.info (.protocol status)) ↔
    raw < 0 ∨ 0 < raw ∧ raw ≤ 5
  thrown : ∀ exception, answer.1.call = .remoteExceptionThrown request.info raw exception ↔
    5 < raw ∧ ∃ parser, ExceptionDecoder.FirstClaims parsers raw parser ∧
      parser.decode raw (Request.exceptionBody fragments) = .ok exception
  undecodable : (∃ text, answer.1.call = .requestFailed request.info (.invalidResponse text)) ↔
    5 < raw ∧ ∃ parser text, ExceptionDecoder.FirstClaims parsers raw parser ∧
      parser.decode raw (Request.exceptionBody fragments) = .error text
  unrecognized : answer.1.call = .requestFailed request.info (.unrecognizedException raw) ↔
    5 < raw ∧ ∀ parser ∈ parsers, parser.claims raw = false
  /-- No parser but the first that claims the status has a part in the answer. -/
  first : ∀ parser others, ExceptionDecoder.FirstClaims parsers raw parser →
    ExceptionDecoder.FirstClaims others raw parser →
      request.complete (.ofRaw raw) fragments others now = answer
  appended : ∀ more, (∃ parser ∈ parsers, parser.claims raw = true) →
    request.complete (.ofRaw raw) fragments (parsers ++ more) now = answer
  timings : answer.1.outcome.timings? = if raw = 0 then some (request.timings now) else none
  /-- The listener is told once, and the buffers are back unless a promise holds the response. -/
  told : ∀ client : Client, (client.answer answer).told = answer.1 :: client.told ∧
    (client.answer answer).posted = client.posted ∧
    (client.answer answer).rejected = client.rejected ∧
    ((client.answer answer).pool = client.pool.releaseAll fragments ∨
      raw = 0 ∧ request.delivery = .promise ∧ request.ticket ∉ client.forgotten ∧
        (client.answer answer).pool = client.pool ∧
        (client.answer answer).mailbox = client.mailbox ++ [answer.1])

namespace Request

/-- The outcome of a reply that is no success has neither buffers nor timings. -/
theorem exists_failure_of_ne (request : Request) (fragments : List Buffer)
    (parsers : List ExceptionDecoder) (now : Instant) (failed : raw ≠ 0) :
    ∃ failure, request.outcome (.ofRaw raw) fragments parsers now = .failure failure := by
  rcases AcceptStatus.range_cases raw with zero | range | above
  · exact absurd zero failed
  · exact ⟨_, outcome_of_isProtocolError (AcceptStatus.isProtocolError_ofRaw range)⟩
  · exact ⟨_, outcome_of_lt above⟩

theorem complete_of_failure {status : AcceptStatus} {failure : Failure}
    (h : request.outcome status fragments parsers now = .failure failure) :
    request.complete status fragments parsers now = (request.fail failure, fragments) := by
  rw [complete, h]

/-- Parsers that come to the same outcome come to the same answer. -/
theorem complete_congr {status : AcceptStatus} {others : List ExceptionDecoder}
    (same : request.outcome status fragments others now =
      request.outcome status fragments parsers now) :
    request.complete status fragments others now =
      request.complete status fragments parsers now := by
  rw [complete, same, complete]

theorem complete_of_firstClaims {parser : ExceptionDecoder} {others : List ExceptionDecoder}
    (mine : ExceptionDecoder.FirstClaims parsers raw parser)
    (theirs : ExceptionDecoder.FirstClaims others raw parser) :
    request.complete (.ofRaw raw) fragments others now =
      request.complete (.ofRaw raw) fragments parsers now := by
  apply complete_congr
  rcases AcceptStatus.range_cases raw with zero | range | above
  · subst zero
    rfl
  · have refused := AcceptStatus.isProtocolError_ofRaw range
    rw [outcome_of_isProtocolError refused, outcome_of_isProtocolError refused]
  · rw [outcome_of_lt above, outcome_of_lt above, mine.resolve_eq, theirs.resolve_eq]

end Request

/-- A listener that was told has let go of the buffers, unless it is a promise that somebody holds. -/
theorem Client.pool_deliver (client : Client) (notice : Notice) :
    (client.deliver notice).pool = client.pool.releaseAll notice.outcome.buffers ∨
      notice.delivery = .promise ∧ notice.ticket ∉ client.forgotten ∧
        (client.deliver notice).pool = client.pool ∧
        (client.deliver notice).mailbox = client.mailbox ++ [notice] := by
  unfold Client.deliver
  cases held : notice.delivery with
  | callback => exact .inl rfl
  | promise =>
    by_cases forgotten : notice.ticket ∈ client.forgotten
    · left
      simp [Client.keep, Client.releaseAll, forgotten]
    · right
      simp [Client.keep, forgotten]

theorem Client.pool_answer (client : Client) :
    (client.answer (request.complete (.ofRaw raw) fragments parsers now)).pool =
        client.pool.releaseAll fragments ∨
      raw = 0 ∧ request.delivery = .promise ∧ request.ticket ∉ client.forgotten ∧
        (client.answer (request.complete (.ofRaw raw) fragments parsers now)).pool = client.pool ∧
        (client.answer (request.complete (.ofRaw raw) fragments parsers now)).mailbox =
          client.mailbox ++ [(request.complete (.ofRaw raw) fragments parsers now).1] := by
  rw [Client.answer_eq]
  by_cases zero : raw = 0
  · subst zero
    exact (Client.pool_deliver client _).imp_right fun held => ⟨rfl, held⟩
  · obtain ⟨failure, failed⟩ := request.exists_failure_of_ne fragments parsers now zero
    rw [Request.complete_of_failure failed]
    rcases (client.releaseAll fragments).pool_deliver (request.fail failure) with back | held
    · exact .inl back
    · exact .inl held.2.2.1

/-- A reply calls the method of the listener that the rules of dispatch say, once, whatever the raw
status, the parsers and the fragments are. -/
theorem complete_dispatched (request : Request) (raw : Int32) (fragments : List Buffer)
    (parsers : List ExceptionDecoder) (now : Instant) :
    Dispatched request raw fragments parsers now
      (request.complete (.ofRaw raw) fragments parsers now) := by
  have rules {call : ListenerCall} : Dispatches request raw fragments parsers now call ↔
      (request.complete (.ofRaw raw) fragments parsers now).1.call = call := by
    rw [Request.complete_fst, dispatches_iff, eq_comm]
  constructor
  case call => exact fun call => rules.trans eq_comm
  case available =>
    constructor
    · rintro ⟨response, called⟩
      cases rules.2 called with
      | succeeded zero => exact zero
    · exact fun zero => ⟨_, rules.1 (.succeeded zero)⟩
  case protocol =>
    constructor
    · rintro ⟨status, -, called⟩
      cases rules.2 called with
      | refused range => exact range
    · exact fun range => ⟨_, AcceptStatus.raw_ofRaw raw, rules.1 (.refused range)⟩
  case thrown =>
    refine fun exception => ⟨fun called => ?_, ?_⟩
    · cases rules.2 called with
      | thrown above first decoded => exact ⟨above, _, first, decoded⟩
    · rintro ⟨above, parser, first, decoded⟩
      exact rules.1 (.thrown above first decoded)
  case undecodable =>
    constructor
    · rintro ⟨text, called⟩
      cases rules.2 called with
      | undecodable above first decoded => exact ⟨above, _, _, first, decoded⟩
    · rintro ⟨above, parser, text, first, decoded⟩
      exact ⟨_, rules.1 (.undecodable above first decoded)⟩
  case unrecognized =>
    refine ⟨fun called => ?_, fun unclaimed => rules.1 (.unclaimed unclaimed.1 unclaimed.2)⟩
    cases rules.2 called with
    | unclaimed above none => exact ⟨above, none⟩
  case first => exact fun parser others mine theirs => Request.complete_of_firstClaims mine theirs
  case appended =>
    intro more claimed
    obtain ⟨parser, first⟩ := ExceptionDecoder.exists_firstClaims claimed
    exact Request.complete_of_firstClaims first (first.append more)
  case timings =>
    rw [Request.complete_fst]
    split
    · rename_i zero
      subst zero
      rfl
    · rename_i failed
      obtain ⟨failure, same⟩ := request.exists_failure_of_ne fragments parsers now failed
      rw [same]
      rfl
  case told =>
    intro client
    refine ⟨?_, ?_, ?_, client.pool_answer⟩ <;>
      rw [Client.answer_eq, Client.deliver_eq]
    all_goals rfl

end

end RemoteCall
