import RemoteCall.Client.Drive
import RemoteCall.Proofs.Pool.Lending
import RemoteCall.Proofs.Transmission.Step

/-!
# Kinds of steps of a driver

`Stepped` lists the kinds of steps that a driver takes and what each makes of the client. Some leave
the bytes of the channel alone: the session goes on to another phase, hears of a queued request, is
connected or ends. Others read, others write. What holds of all steps of drivers is shown by cases
on it, so a change to a step of the client changes one lemma here and the cases of its kinds.
-/
namespace RemoteCall

namespace SessionPhase

/-- The link of a connection whose channel is in this phase. -/
def link : SessionPhase → Link
  | registered => .connecting
  | finishing _ => .connecting
  | greeting _ => .connecting
  | closed => .disconnected
  | _ => .connected

/-- The driver waits for the connect or for the first handshake. -/
def connects : SessionPhase → Bool
  | finishing _ => true
  | greeting _ => true
  | _ => false

/-- Records are being read or written. -/
def exchanges : SessionPhase → Bool
  | reading _ => true
  | writing => true
  | _ => false

/-- The driver looks in its next step whether its connection was asked to close. -/
def listens : SessionPhase → Bool
  | finishing _ => true
  | greeting _ => true
  | waiting _ _ => true
  | _ => false

theorem holdsThread_of_exchanges {phase : SessionPhase} (h : phase.exchanges) :
    phase.holdsThread := by
  cases phase <;> simp_all [exchanges, holdsThread]

theorem link_of_exchanges {phase : SessionPhase} (h : phase.exchanges) :
    phase.link = .connected := by
  cases phase <;> simp_all [exchanges, link]

theorem ne_registered_of_exchanges {phase : SessionPhase} (h : phase.exchanges) :
    phase ≠ .registered := by
  cases phase <;> simp_all [exchanges]

theorem link_eq_disconnected_iff {phase : SessionPhase} :
    phase.link = .disconnected ↔ phase = .closed := by
  cases phase <;> simp [link]

theorem link_of_connects {phase : SessionPhase} (h : phase.connects) :
    phase.link = .connecting := by
  cases phase <;> simp_all [connects, link]

theorem connects_of_link {phase : SessionPhase} (h : phase.link = .connecting)
    (taken : phase ≠ .registered) : phase.connects = true := by
  cases phase <;> simp_all [connects, link]

theorem connects_eq_false {phase : SessionPhase} (h : phase.link = .connected) :
    phase.connects = false := by
  cases phase <;> simp_all [connects, link]

theorem exchanges_of_listens {phase : SessionPhase} (h : phase.listens) :
    phase.exchanges = false := by
  cases phase <;> simp_all [listens, exchanges]

theorem ne_closed_of_listens {phase : SessionPhase} (h : phase.listens) : phase ≠ .closed := by
  cases phase <;> simp_all [listens]

theorem exchanges_of_connects {phase : SessionPhase} (h : phase.connects) :
    phase.exchanges = false := by
  cases phase <;> simp_all [connects, exchanges]

theorem listens_of_connects {phase : SessionPhase} (h : phase.connects) : phase.listens = true := by
  cases phase <;> simp_all [connects, listens]

end SessionPhase

/-- Two states of a channel between which no byte went through it and it was not closed. -/
structure Channel.Alike (a b : Channel) : Prop where
  inbound : b.inbound = a.inbound
  outbound : b.outbound = a.outbound
  closed : b.closed = a.closed

theorem Channel.Alike.refl (channel : Channel) : channel.Alike channel := ⟨rfl, rfl, rfl⟩

theorem Channel.alike_record (channel : Channel) (call : ChannelCall) :
    channel.Alike (channel.record call) := ⟨rfl, rfl, rfl⟩

theorem Channel.alike_shakeHands (channel : Channel) (observed : Readiness) :
    channel.Alike (channel.shakeHands observed).2 := by
  unfold shakeHands
  split <;> exact ⟨rfl, rfl, rfl⟩

/-- A driver goes on from one phase to another without reading or writing. It starts to do so only
if its connection was not asked to close, and waits for a queued request only if there is none. -/
structure SessionPhase.GoesTo (connection : Connection) (phase phase' : SessionPhase) : Prop where
  still : phase.exchanges = false
  live : phase ≠ .closed
  link : phase'.link = phase.link
  taken : phase' ≠ .registered
  exchanges : phase'.exchanges → connection.closeReason = none
  armed : ∀ interest, phase' = .waiting true interest → connection.queue = []

theorem SessionPhase.GoesTo.connects {connection : Connection} {phase phase' : SessionPhase}
    (h : phase.GoesTo connection phase') (before : phase.connects = true) :
    phase'.connects = true :=
  connects_of_link (h.link.trans (link_of_connects before)) h.taken

theorem SessionPhase.GoesTo.stays {connection : Connection} {phase phase' : SessionPhase}
    (h : phase.GoesTo connection phase') : phase' ≠ .closed := fun ended =>
  h.live (link_eq_disconnected_iff.1 (by rw [← h.link, ended]; rfl))

/-- Why a session cannot be connected: the connect has failed, waiting for readiness fails, or the
first handshake does. -/
inductive Session.CannotConnect (session : Session) : IoError → Prop where
  | refused {polled : Bool} {cause : IoError} (phase : session.phase = .finishing polled)
      (failed : session.channel.progress = .failed cause) : CannotConnect session cause
  | unready {interest : Readiness} {cause : IoError} (phase : session.phase = .greeting interest)
      (failed : session.channel.ready interest = .error cause) : CannotConnect session cause
  | unshaken {interest ready : Readiness} {cause : IoError}
      (phase : session.phase = .greeting interest)
      (ready? : session.channel.ready interest = .ok ready) (any : ready.any = true)
      (failed : (session.channel.shakeHands ready).1 = .error cause) : CannotConnect session cause

/-- Why a session breaks that was connected and hears of no queued request: waiting for readiness
fails, or a handshake does. -/
inductive Session.Breaks (session : Session) (connection : Connection) : IoError → Prop where
  | unready {armed : Bool} {interest : Readiness} {cause : IoError}
      (phase : session.phase = .waiting armed interest)
      (unheard : (armed && connection.permit) = false)
      (failed : session.channel.ready interest = .error cause) : Breaks session connection cause
  | unshaken {armed : Bool} {interest ready : Readiness} {cause : IoError}
      (phase : session.phase = .waiting armed interest)
      (unheard : (armed && connection.permit) = false)
      (ready? : session.channel.ready interest = .ok ready) (any : ready.any = true)
      (up : session.channel.shuttingDown = false)
      (failed : (session.channel.shakeHands ready).1 = .error cause) :
      Breaks session connection cause

/-- A session after it has read what there was. -/
def Session.afterRead (session : Session) (work : Fragment.Assembler.Work) : Session :=
  { session with
    assembler := work.assembler.takeReceived.2
    channel := { session.channel with inbound := work.side } }

/-- A session whose transmitter has told how much was sent. -/
def Session.afterWrite (session : Session) : Session :=
  { session with transmitter := session.transmitter.takeSent.2 }

/-- Why a session ends that has read this. -/
def Fragment.Reading.reason? (limit : UInt32) : Fragment.Reading → Option CloseReason
  | .record fragments =>
      match ReplyHeader.decode ((fragments.head?.map Buffer.bytes).getD []) with
      | .error failure => some (.invalidFraming (failure.message?.getD ""))
      | .ok _ => none
  | .wouldBlock => none
  | .ended => some .peerClosed
  | .failed cause => some (.io cause)
  | .overLimit length =>
      some (.invalidFraming ((Fragment.Header.overLimit length limit).message?.getD ""))

/-- Why a session ends whose writing stopped like this. -/
def Flushed.reason? : Flushed → Option CloseReason
  | idle => none
  | wouldBlock => none
  | ended => some .peerClosed
  | failed cause => some (.io cause)

theorem Fragment.Reading.ne_idle_of_reason? {limit : UInt32} {reading : Fragment.Reading}
    {reason : CloseReason} (h : reading.reason? limit = some reason) : reason ≠ .idle := by
  rintro rfl
  cases reading with
  | record fragments =>
    simp only [reason?] at h
    split at h <;> cases h
  | wouldBlock | ended | failed cause | overLimit length => cases h

theorem Flushed.ne_idle_of_reason? {why : Flushed} {reason : CloseReason}
    (h : why.reason? = some reason) : reason ≠ .idle := by
  rintro rfl
  cases why <;> cases h

namespace Client

/-- A connection on which a record was read: the bytes are counted, and this is a use. -/
def used (client : Client) (connection : Connection) (work : Fragment.Assembler.Work) :
    Connection :=
  { client.countReceived connection work.assembler.takeReceived.1 with lastUsed := client.now }

/-- The same connection when the record has answered a request in flight. -/
def usedFor (client : Client) (connection : Connection) (work : Fragment.Assembler.Work)
    (xid : UInt32) (outcome : Outcome) : Connection :=
  client.countRoundTrip
    { client.used connection work with inFlight := connection.inFlight.eraseP (·.info.xid == xid) }
    outcome

/-- The kinds of steps of a driver. -/
inductive Stepped (client : Client) (n : Nat) (session : Session) (connection : Connection) :
    Client → Prop where
  | went {channel : Channel} {phase : SessionPhase} (wanted : Option Readiness)
      (alike : session.channel.Alike channel) (goes : session.phase.GoesTo connection phase) :
      Stepped client n session connection
        (client.putSession n { session with channel := channel, wanted := wanted, phase := phase })
  /-- A permit says that a request was queued. -/
  | heard {interest : Readiness} (phase : session.phase = .waiting true interest)
      (unasked : connection.closeReason = none) :
      Stepped client n session connection
        (client.put n { session with phase := .deciding } connection.takePermit.2)
  | connected {channel : Channel} (alike : session.channel.Alike channel)
      (before : session.phase.connects = true) (unasked : connection.closeReason = none) :
      Stepped client n session connection
        (client.put n { session with channel := channel, phase := .deciding }
          { connection with link := .connected, allowance := connection.allowance.reset })
  | failed {channel : Channel} (cause : IoError) (alike : session.channel.Alike channel)
      (before : session.phase.connects = true) (unasked : connection.closeReason = none)
      (why : session.CannotConnect cause) :
      Stepped client n session connection
        (client.connectFailed n { session with channel := channel } connection cause)
  /-- A handshake on a channel that was connected has failed, or the wait for readiness. -/
  | broke {channel : Channel} (cause : IoError) (alike : session.channel.Alike channel)
      (still : session.phase.exchanges = false) (link : session.phase.link = .connected)
      (unasked : connection.closeReason = none) (why : session.Breaks connection cause) :
      Stepped client n session connection
        (client.teardown n { session with channel := channel } connection (.io cause))
  /-- The connection was asked to close. -/
  | closed {reason : CloseReason} (asked : connection.closeReason = some reason)
      (still : session.phase.exchanges = false) (live : session.phase ≠ .closed)
      (listens : session.phase.listens = true) :
      Stepped client n session connection (client.teardown n session connection reason)
  /-- There is no more to read now. -/
  | pausedReading {thenWrite : Bool} {work : Fragment.Assembler.Work}
      (phase : session.phase = .reading thenWrite)
      (read : session.assembler.read client.pool session.channel.inbound = (.wouldBlock, work)) :
      Stepped client n session connection
        (put { client with pool := work.pool } n
          { session.afterRead work with phase := if thenWrite then .writing else .deciding }
          (client.countReceived connection work.assembler.takeReceived.1))
  | endedReading {thenWrite : Bool} {reading : Fragment.Reading} {work : Fragment.Assembler.Work}
      {reason : CloseReason} (phase : session.phase = .reading thenWrite)
      (read : session.assembler.read client.pool session.channel.inbound = (reading, work))
      (why : reading.reason? work.assembler.limit = some reason) :
      Stepped client n session connection
        (teardown { client with pool := work.pool.releaseAll reading.lent } n
          (session.afterRead work)
          (client.countReceived connection work.assembler.takeReceived.1) reason)
  /-- A record was read that answers no request. -/
  | gaveUp {thenWrite : Bool} {fragments : List Buffer} {work : Fragment.Assembler.Work}
      {header : ReplyHeader} (phase : session.phase = .reading thenWrite)
      (read : session.assembler.read client.pool session.channel.inbound =
        (.record fragments, work))
      (decoded : ReplyHeader.decode ((fragments.head?.map Buffer.bytes).getD []) = .ok header)
      (unmatched : connection.inFlight? header.xid = none) :
      Stepped client n session connection
        { client with
          sessions := client.sessions.set n (session.afterRead work)
          connections := client.connections.set session.connection (client.used connection work)
          pool := work.pool.releaseAll fragments }
  | answered {thenWrite : Bool} {fragments : List Buffer} {work : Fragment.Assembler.Work}
      {header : ReplyHeader} {request : Request} (phase : session.phase = .reading thenWrite)
      (read : session.assembler.read client.pool session.channel.inbound =
        (.record fragments, work))
      (decoded : ReplyHeader.decode ((fragments.head?.map Buffer.bytes).getD []) = .ok header)
      (inFlight : connection.inFlight? header.xid = some request) :
      Stepped client n session connection
        { client with
          sessions := client.sessions.set n (session.afterRead work)
          connections := client.connections.set session.connection
            (client.usedFor connection work header.xid
              (request.complete header.status fragments client.parsers client.now).1.outcome)
          pool := work.pool.releaseAll
            (request.complete header.status fragments client.parsers client.now).2
          posted := client.posted ++
            [(request.complete header.status fragments client.parsers client.now).1] }
  /-- There is no more to write now, or no room for it. -/
  | pausedWriting (phase : session.phase = .writing)
      (unwritten : ∀ cursor, session.transmitter.current = some cursor →
        cursor.isComplete = false) :
      Stepped client n session connection
        (client.put n { session.afterWrite with phase := .deciding }
          (client.countSent connection session.transmitter.takeSent.1))
  | endedWriting {why : Flushed} {reason : CloseReason} (phase : session.phase = .writing)
      (refusal : session.channel.outbound.refusal = some why) (reason? : why.reason? = some reason)
      (unwritten : ∀ cursor, session.transmitter.current = some cursor →
        cursor.isComplete = false) (busy : session.transmitter.isBusy = true) :
      Stepped client n session connection
        (client.teardown n session.afterWrite
          (client.countSent connection session.transmitter.takeSent.1) reason)
  | tookUp {request : Request} {later : List Request} (phase : session.phase = .writing)
      (free : session.transmitter.current = none) (queue : connection.queue = request :: later)
      (fits : request.fits = true) :
      Stepped client n session connection
        (client.put n
          { session with
            transmitter := { session.transmitter with current := some (.fresh request) } }
          { connection with queue := later })
  | refused {request : Request} {later : List Request} (phase : session.phase = .writing)
      (free : session.transmitter.current = none) (queue : connection.queue = request :: later)
      (large : request.fits = false) :
      Stepped client n session connection
        ((client.put n session { connection with queue := later }).post
          (request.fail request.oversize))
  | moved {cursor : Cursor} {count : Nat} {side : Outbound} (phase : session.phase = .writing)
      (busy : session.transmitter.current = some cursor) (more : cursor.isComplete = false)
      (accepted : side.accepted =
        session.channel.outbound.accepted ++ cursor.remainingSegment.take count)
      (pos : 0 < count) (le : count ≤ cursor.remainingSegment.length) :
      Stepped client n session connection
        (client.put n
          { session with
            transmitter := ⟨some (cursor.advance count), session.transmitter.sent + count⟩
            channel := { session.channel with outbound := side } }
          connection)
  | transmitted {cursor : Cursor} (phase : session.phase = .writing)
      (busy : session.transmitter.current = some cursor) (complete : cursor.isComplete = true) :
      Stepped client n session connection
        ((connection.markInFlight (cursor.request.markSent client.now)).1.toList.foldl lose
          (client.put n
            { session with transmitter := { session.transmitter with current := none } }
            (connection.markInFlight (cursor.request.markSent client.now)).2))

section

variable {client next : Client} {n : Nat} {session : Session} {connection : Connection}

theorem stepped_finishStep {polled : Bool} (phase : session.phase = .finishing polled)
    (unasked : connection.closeReason = none)
    (h : client.finishStep n session connection polled = some next) :
    client.Stepped n session connection next := by
  have before : session.phase.connects = true := by rw [phase]; rfl
  have recorded : session.channel.Alike
        (if polled then session.channel else session.channel.record .finishConnect) ∧
      (if polled then session.channel else session.channel.record .finishConnect).progress =
        session.channel.progress := by
    split
    · exact ⟨.refl _, rfl⟩
    · exact ⟨session.channel.alike_record _, rfl⟩
  have goes {phase' : SessionPhase} (connects : phase'.connects = true)
      (unarmed : ∀ interest, phase' ≠ .waiting true interest) :
      session.phase.GoesTo connection phase' :=
    { still := SessionPhase.exchanges_of_connects before
      live := by rw [phase]; simp
      link := by rw [SessionPhase.link_of_connects connects, SessionPhase.link_of_connects before]
      taken := fun registered => by rw [registered] at connects; cases connects
      exchanges := fun _ => unasked
      armed := fun interest waiting => absurd waiting (unarmed interest) }
  simp only [finishStep] at h
  generalize (if polled then session.channel else session.channel.record .finishConnect) =
    channel at h recorded
  obtain ⟨recorded, progress⟩ := recorded
  split at h
  · split at h
    · cases h
    · cases h
      exact .went session.wanted recorded (goes rfl (by simp))
  · rename_i failed
    cases h
    exact .failed _ recorded before unasked (.refused phase (progress ▸ failed))
  · cases h
    exact .went session.wanted recorded (goes rfl (by simp))

theorem stepped_greetStep {interest : Readiness} (phase : session.phase = .greeting interest)
    (unasked : connection.closeReason = none)
    (h : client.greetStep n session connection interest = some next) :
    client.Stepped n session connection next := by
  have before : session.phase.connects = true := by rw [phase]; rfl
  simp only [greetStep] at h
  split at h
  · rename_i failed
    cases h
    exact .failed _ (.refl _) before unasked (.unready phase failed)
  rename_i ready ready?
  have shaken := session.channel.alike_shakeHands ready
  split at h
  · cases h
  rename_i any
  split at h
  · rename_i failed
    cases h
    exact .failed _ shaken before unasked (.unshaken phase ready? (by simpa using any) failed)
  split at h
  · cases h
    refine .went session.wanted shaken ⟨SessionPhase.exchanges_of_connects before, ?_, ?_, by simp,
      fun _ => unasked, by simp⟩
    · rw [phase]; simp
    · rw [phase]; rfl
  · cases h
    exact .connected shaken before unasked

/-- A driver that waits for a queued request has looked for one. -/
theorem stepped_decideStep (phase : session.phase = .deciding) :
    client.Stepped n session connection (client.decideStep n session connection) := by
  refine .went session.wanted (.refl _) ⟨by rw [phase]; rfl, by rw [phase]; simp,
    by rw [phase]; rfl, by simp, by simp [SessionPhase.exchanges], fun interest waiting => ?_⟩
  simp only [SessionPhase.waiting.injEq, Bool.not_eq_true', Bool.or_eq_false_iff] at waiting
  simpa [Connection.hasQueued] using waiting.1.2

theorem stepped_serveStep {armed : Bool} {interest ready : Readiness}
    (phase : session.phase = .waiting armed interest) (unasked : connection.closeReason = none)
    (unheard : (armed && connection.permit) = false)
    (ready? : session.channel.ready interest = .ok ready) (any : ready.any = true) :
    client.Stepped n session connection (client.serveStep n session connection ready) := by
  have shaken := session.channel.alike_shakeHands ready
  have still : session.phase.exchanges = false := by rw [phase]; rfl
  have before : session.phase.link = .connected := by rw [phase]; rfl
  have goes {phase' : SessionPhase} (link : phase'.link = .connected)
      (unarmed : ∀ interest, phase' ≠ .waiting true interest) :
      session.phase.GoesTo connection phase' :=
    { still := still
      live := by rw [phase]; simp
      link := link.trans before.symm
      taken := fun registered => by rw [registered] at link; cases link
      exchanges := fun _ => unasked
      armed := fun interest waiting => absurd waiting (unarmed interest) }
  unfold serveStep
  split
  · exact .went session.wanted (.refl _) (goes rfl (by simp))
  · rename_i up
    simp only
    split
    · rename_i failed
      exact .broke _ shaken still before unasked
        (.unshaken phase unheard ready? any (by simpa using up) failed)
    · refine .went _ shaken (goes ?_ ?_)
      · split_ifs <;> rfl
      · split_ifs <;> simp

theorem stepped_waitStep {armed : Bool} {interest : Readiness}
    (phase : session.phase = .waiting armed interest) (unasked : connection.closeReason = none)
    (h : client.waitStep n session connection armed interest = some next) :
    client.Stepped n session connection next := by
  simp only [waitStep] at h
  split at h
  · rename_i permitted
    cases h
    rw [Bool.and_eq_true] at permitted
    exact .heard (permitted.1 ▸ phase) unasked
  · rename_i unheard
    have unheard : (armed && connection.permit) = false := by simpa using unheard
    split at h
    · rename_i failed
      cases h
      exact .broke _ (.refl _) (by rw [phase]; rfl) (by rw [phase]; rfl) unasked
        (.unready phase unheard failed)
    · rename_i ready?
      split at h
      · cases h
      · rename_i any
        cases h
        exact stepped_serveStep phase unasked unheard ready? (by simpa using any)

theorem inFlight_countReceived (client : Client) (connection : Connection) (count : Nat) :
    (client.countReceived connection count).inFlight = connection.inFlight := by
  unfold countReceived
  split <;> rfl

theorem inFlight?_countReceived (client : Client) (connection : Connection) (count : Nat)
    (xid : UInt32) :
    (client.countReceived connection count).inFlight? xid = connection.inFlight? xid := by
  rw [Connection.inFlight?, Connection.inFlight?, inFlight_countReceived]

/-- A record for no request in flight is given up. -/
theorem deliverRecord_of_none {fragments : List Buffer} {work : Fragment.Assembler.Work}
    {header : ReplyHeader}
    (decoded : ReplyHeader.decode ((fragments.head?.map Buffer.bytes).getD []) = .ok header)
    (unmatched : connection.inFlight? header.xid = none) :
    deliverRecord { client with pool := work.pool } n (session.afterRead work)
        (client.countReceived connection work.assembler.takeReceived.1) fragments =
      { client with
        sessions := client.sessions.set n (session.afterRead work)
        connections := client.connections.set session.connection (client.used connection work)
        pool := work.pool.releaseAll fragments } := by
  have same := client.inFlight_countReceived connection work.assembler.takeReceived.1
  have kept : (client.countReceived connection work.assembler.takeReceived.1).inFlight.eraseP
      (·.info.xid == header.xid) =
        (client.countReceived connection work.assembler.takeReceived.1).inFlight := by
    rw [same]
    exact List.eraseP_of_forall_not fun request mem =>
      by simpa using List.find?_eq_none.1 unmatched request mem
  simp only [deliverRecord, decoded, Connection.takeInFlight, inFlight?_countReceived, unmatched,
    kept]
  rfl

/-- A record with the id of a request in flight answers it. -/
theorem deliverRecord_of_some {fragments : List Buffer} {work : Fragment.Assembler.Work}
    {header : ReplyHeader} {request : Request}
    (decoded : ReplyHeader.decode ((fragments.head?.map Buffer.bytes).getD []) = .ok header)
    (inFlight : connection.inFlight? header.xid = some request) :
    deliverRecord { client with pool := work.pool } n (session.afterRead work)
        (client.countReceived connection work.assembler.takeReceived.1) fragments =
      { client with
        sessions := client.sessions.set n (session.afterRead work)
        connections := client.connections.set session.connection
          (client.usedFor connection work header.xid
            (request.complete header.status fragments client.parsers client.now).1.outcome)
        pool := work.pool.releaseAll
          (request.complete header.status fragments client.parsers client.now).2
        posted := client.posted ++
          [(request.complete header.status fragments client.parsers client.now).1] } := by
  simp only [deliverRecord, decoded, Connection.takeInFlight, inFlight?_countReceived, inFlight,
    inFlight_countReceived]
  rfl

theorem stepped_readStep {thenWrite : Bool} (phase : session.phase = .reading thenWrite) :
    client.Stepped n session connection (client.readStep n session connection thenWrite) := by
  cases read : session.assembler.read client.pool session.channel.inbound with
  | mk reading work =>
    unfold readStep
    rw [read]
    cases reading with
    | record fragments =>
      show client.Stepped n session connection (deliverRecord { client with pool := work.pool } n
        (session.afterRead work)
        (client.countReceived connection work.assembler.takeReceived.1) fragments)
      cases decoded : ReplyHeader.decode ((fragments.head?.map Buffer.bytes).getD []) with
      | error failure =>
        simp only [deliverRecord, decoded]
        refine .endedReading phase read ?_
        simp only [Fragment.Reading.reason?, decoded]
      | ok header =>
        cases inFlight : connection.inFlight? header.xid with
        | none =>
          rw [deliverRecord_of_none decoded inFlight]
          exact .gaveUp phase read decoded inFlight
        | some request =>
          rw [deliverRecord_of_some decoded inFlight]
          exact .answered phase read decoded inFlight
    | wouldBlock => exact .pausedReading phase read
    | ended => exact .endedReading phase read rfl
    | failed cause => exact .endedReading phase read rfl
    | overLimit length => exact .endedReading phase read rfl

theorem stepped_writeStep (phase : session.phase = .writing) :
    client.Stepped n session connection (client.writeStep n session connection) := by
  have wrote := Transmitter.Work.wrote_step
    ⟨session.transmitter, connection.queue, session.channel.outbound⟩ client.now
  unfold writeStep
  generalize Transmitter.Work.step
    ⟨session.transmitter, connection.queue, session.channel.outbound⟩ client.now = answer at wrote
  cases wrote with
  | idle free queue =>
    refine .pausedWriting phase fun cursor busy => ?_
    rw [free] at busy
    cases busy
  | started free queue fits => exact .tookUp phase free queue fits
  | refused free queue large => exact .refused phase free queue large
  | transmitted busy complete => exact .transmitted phase busy complete
  | moved busy more accepted pos le => exact .moved phase busy more accepted pos le
  | @stopped cursor why busy more refusal =>
    have unwritten (other : Cursor) (busy' : session.transmitter.current = some other) :
        other.isComplete = false := by
      have same := busy.symm.trans busy'
      rw [Option.some.injEq] at same
      rw [← same]
      exact more
    cases why with
    | idle | wouldBlock => exact .pausedWriting phase unwritten
    | ended | failed cause =>
      exact .endedWriting phase refusal rfl unwritten (by rw [Transmitter.isBusy, busy]; rfl)

/-- Every step of a driver is of one of the kinds of `Stepped`. -/
theorem exists_stepped_of_step? (h : client.step? n = some next) :
    ∃ session connection, client.sessions[n]? = some session ∧
      client.connections[session.connection]? = some connection ∧
      client.Stepped n session connection next := by
  simp only [step?, Option.bind_eq_bind, Option.bind_eq_some_iff] at h
  obtain ⟨session, found, connection, bound, h⟩ := h
  refine ⟨session, connection, found, bound, ?_⟩
  have listens (looks : session.phase.listens = true) {other : Option Client}
      (step : connection.closeReason = none → other = some next →
        client.Stepped n session connection next)
      (h : client.unlessClosed n session connection other = some next) :
      client.Stepped n session connection next := by
    unfold unlessClosed at h
    cases asked : connection.closeReason with
    | none =>
      rw [asked] at h
      exact step asked h
    | some reason =>
      rw [asked] at h
      cases h
      exact .closed asked (SessionPhase.exchanges_of_listens looks)
        (SessionPhase.ne_closed_of_listens looks) looks
  cases phase : session.phase with
  | registered => rw [phase] at h; cases h
  | closed => rw [phase] at h; cases h
  | finishing polled =>
    rw [phase] at h
    exact listens (by rw [phase]; rfl) (stepped_finishStep phase) h
  | greeting interest =>
    rw [phase] at h
    exact listens (by rw [phase]; rfl) (stepped_greetStep phase) h
  | deciding =>
    rw [phase] at h
    cases h
    exact stepped_decideStep phase
  | waiting armed interest =>
    rw [phase] at h
    exact listens (by rw [phase]; rfl) (stepped_waitStep phase) h
  | pausing deadline =>
    rw [phase] at h
    simp only at h
    split at h
    · cases h
      exact .went session.wanted (.refl _) ⟨by rw [phase]; rfl, by rw [phase]; simp,
        by rw [phase]; rfl, by simp, by simp [SessionPhase.exchanges], by simp⟩
    · cases h
  | reading thenWrite =>
    rw [phase] at h
    cases h
    exact stepped_readStep phase
  | writing =>
    rw [phase] at h
    cases h
    exact stepped_writeStep phase

/-- The step of a driver whose session and connection are known. -/
theorem stepped_of_step? (found : client.sessions[n]? = some session)
    (bound : client.connections[session.connection]? = some connection)
    (h : client.step? n = some next) : client.Stepped n session connection next := by
  obtain ⟨other, record, found', bound', stepped⟩ := exists_stepped_of_step? h
  rw [found, Option.some.injEq] at found'
  subst found'
  rw [bound, Option.some.injEq] at bound'
  subst bound'
  exact stepped

end

end Client

end RemoteCall
